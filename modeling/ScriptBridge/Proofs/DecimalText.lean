import Mathlib.Data.List.TakeWhile
import ScriptBridge.Number.Text

/-!
Whole numbers in decimal, and where a scan stops.

The digits of a number spell it (`ofDigitChars_digitChars`), there is at least one, and none but zero begins with a
zero (`eq_nil_of_digitChars_eq`).  Readers take digits off the front of a text for as long as they come, so a numeral
is read whole where what follows it is no digit (`takeWhile_append_of_stop`, `dropWhile_append_of_stop`).
-/
namespace ScriptBridge

namespace Text

variable {α : Type} {p : α → Bool} {word rest : List α}

theorem takeWhile_append_of_stop (hword : ∀ a ∈ word, p a) (hrest : ∀ a ∈ rest.head?, p a = false) :
    (word ++ rest).takeWhile p = word := by
  rw [List.takeWhile_append_of_pos hword, List.takeWhile_eq_nil_iff.mpr, List.append_nil]
  cases rest <;> simp_all

theorem dropWhile_append_of_stop (hword : ∀ a ∈ word, p a) (hrest : ∀ a ∈ rest.head?, p a = false) :
    (word ++ rest).dropWhile p = rest := by
  rw [List.dropWhile_append_of_pos hword]
  cases rest <;> simp_all

end Text

namespace Number

variable {n : Nat} {c : Char} {ds rest : List Char}

theorem digitChars_ne_nil (n : Nat) : digitChars n ≠ [] := Nat.toDigits_ne_nil

theorem isDigit_of_mem_digitChars (h : c ∈ digitChars n) : c.isDigit :=
  Nat.isDigit_of_mem_toDigits (by decide) (by decide) h

theorem ofDigitChars_digitChars (n : Nat) : Nat.ofDigitChars 10 (digitChars n) 0 = n :=
  Nat.ofDigitChars_ten_toDigits

/-- More digits make no smaller number. -/
theorem le_ofDigitChars (ds : List Char) (n : Nat) : n ≤ Nat.ofDigitChars 10 ds n := by
  rw [Nat.ofDigitChars_eq_ofDigitChars_zero]
  exact Nat.le_trans (Nat.le_mul_of_pos_left n (Nat.pow_pos (by decide))) (Nat.le_add_right _ _)

/-- A number that begins with a zero has no other digit. -/
theorem eq_nil_of_digitChars_eq (h : digitChars n = '0' :: rest) : rest = [] := by
  induction n using Nat.strong_induction_on generalizing rest with
  | _ n ih =>
    rcases Nat.lt_or_ge n 10 with hlt | hge
    · rw [digitChars, Nat.toDigits_of_lt_base hlt, List.cons.injEq] at h
      exact h.2.symm
    · rw [digitChars, Nat.toDigits_of_base_le (by decide) hge] at h
      obtain ⟨d, more, hfront⟩ := List.exists_cons_of_ne_nil (digitChars_ne_nil (n / 10))
      rw [digitChars] at hfront
      rw [hfront, List.cons_append, List.cons.injEq] at h
      obtain ⟨rfl, -⟩ := h
      -- what stands before the last digit would be a lone zero
      obtain rfl := ih (n / 10) (Nat.div_lt_self (by omega) (by decide)) hfront
      have hvalue : Nat.ofDigitChars 10 ['0'] 0 = n / 10 := hfront ▸ ofDigitChars_digitChars (n / 10)
      have hsmall : n / 10 = 0 := hvalue.symm
      omega

end Number

end ScriptBridge
