import ScriptBridge.Json.Scalar
import ScriptBridge.Proofs.DecimalText
import ScriptBridge.Proofs.JsonSpacing

/-!
How a value begins, read off its text.

    head (blanks ++ text of t ++ rest)  =  the head of t, and rest

for every value that is no bracket.  Text between quotes comes back character by character, because each character is
written as itself or as an escape that says which it is (`quotedPieces_escapedChar`).  A whole number comes back by its
digits, which a word takes in without losing one (`absorb_digits`); here what follows must be no part of a numeral,
as nothing is that may stand after a value (`Ends`).
-/
namespace ScriptBridge.Source

open JsonTree Number

variable {s rest : Source} {p : Option Char} {n fuel : Nat} {c : Char}

/-! ### Blanks -/

/-- Nothing but blanks. -/
def Blank (s : Source) : Prop := ∀ p ∈ s, isBlank p

theorem blank_nil : Blank [] := by simp [Blank]

@[simp] theorem skipBlanks_append (h : Blank s) : skipBlanks (s ++ rest) = skipBlanks rest :=
  List.dropWhile_append_of_pos h

theorem skipBlanks_cons (h : isBlank p = false) : skipBlanks (p :: rest) = p :: rest :=
  List.dropWhile_cons_of_neg (by simp [h])

/-- A text that may follow a value: none, or one that begins with a blank, a comma, a colon or a closing bracket. -/
def Ends (s : Source) : Prop := ∀ p ∈ s.head?, isBlank p ∨ p ∈ [some ',', some ':', some ']', some '\x7d']

theorem ends_nil : Ends [] := by simp [Ends]

theorem ends_cons (h : isBlank p ∨ p ∈ [some ',', some ':', some ']', some '\x7d']) : Ends (p :: rest) := by
  simpa [Ends] using h

theorem ends_append_cons (hs : Blank s) (hp : Ends (p :: rest)) : Ends (s ++ p :: rest) := by
  cases s with
  | nil => exact hp
  | cons q s => exact ends_cons (.inl (hs q List.mem_cons_self))

/-- A text that begins with a sign which is no closing bracket. -/
def Opens (s : Source) : Prop := ∃ p rest, s = p :: rest ∧ isBlank p = false ∧ p ≠ some ']'

theorem Opens.length_pos (h : Opens s) : 0 < s.length := by
  obtain ⟨p, rest, rfl, -⟩ := h
  exact Nat.succ_pos _

/-! ### Between quotes -/

theorem hexValue?_hexDigit (h : n < 16) : hexValue? (some (hexDigit n)) = some n := by
  have hall : ∀ n < 16, hexValue? (some (hexDigit n)) = some n := by decide
  exact hall n h

theorem utf8Size_hexDigit (h : n < 16) : (hexDigit n).utf8Size = 1 := by
  have hall : ∀ n < 16, (hexDigit n).utf8Size = 1 := by decide
  exact hall n h

theorem hexEscape_control (rest : Source) (h : n < 32) :
    hexEscape (some '0' :: some '0' :: some (hexDigit (n / 16)) :: some (hexDigit (n % 16)) :: rest)
      = .ok (Char.ofNat n, rest) := by
  have hhigh : n / 16 < 16 := by omega
  have hlow : n % 16 < 16 := by omega
  have hzero : hexValue? (some '0') = some 0 := rfl
  have hunit : hexUnit (some '0' :: some '0' :: some (hexDigit (n / 16)) :: some (hexDigit (n % 16)) :: rest)
      = .ok (n, rest) := by
    have hwide : hasFourBytes
        (some '0' :: some '0' :: some (hexDigit (n / 16)) :: some (hexDigit (n % 16)) :: rest) = true := by
      simp [hasFourBytes, pieceWidth, utf8Size_hexDigit hhigh, utf8Size_hexDigit hlow]
      decide
    simp only [hexUnit, hwide, hzero, hexValue?_hexDigit hhigh, hexValue?_hexDigit hlow]
    simp [Nat.div_add_mod']
  have hbelow : ¬ 0xD800 ≤ n := by omega
  have hbelow' : ¬ 0xDC00 ≤ n := by omega
  simp [hexEscape, hunit, bind, Except.bind, hbelow, hbelow']

theorem quotedPieces_escape (h : escape s = .ok (c, rest)) :
    quotedPieces (fuel + 1) (some '\\' :: s) = (quotedPieces fuel rest).map fun r => (some c :: r.1, r.2) := by
  have hquote : (some '\\' == some '"') = false := by decide
  simp only [quotedPieces, hquote, h, bind, Except.bind, Except.map]
  rcases quotedPieces fuel rest with - | ⟨more, rest⟩ <;> rfl

theorem quotedPieces_plain (hquote : c ≠ '"') (hslash : c ≠ '\\') (hplain : ¬ c.toNat < 32) :
    quotedPieces (fuel + 1) (some c :: rest) = (quotedPieces fuel rest).map fun r => (some c :: r.1, r.2) := by
  have hany : (some c).any (fun c => c.toNat < 32) = false := by simpa using hplain
  simp only [quotedPieces, Option.some_beq_some, beq_eq_false_iff_ne.mpr hquote, beq_eq_false_iff_ne.mpr hslash, hany,
    bind, Except.bind, Except.map]
  rcases quotedPieces fuel rest with - | ⟨more, rest⟩ <;> rfl

/-- One character between quotes is read as itself. -/
theorem quotedPieces_escapedChar (c : Char) :
    quotedPieces (fuel + 1) ((escapedChar c).map some ++ rest)
      = (quotedPieces fuel rest).map fun r => (some c :: r.1, r.2) := by
  unfold escapedChar
  split
  case h_8 hquote hslash _ _ _ _ _ =>
    split
    case isTrue hcontrol =>
      have hescape := hexEscape_control rest hcontrol
      rw [Char.ofNat_toNat] at hescape
      exact quotedPieces_escape hescape
    case isFalse hplain => exact quotedPieces_plain hquote hslash hplain
  all_goals exact quotedPieces_escape rfl

theorem quotedPieces_flatMap (cs : List Char) (hfuel : cs.length < fuel) :
    quotedPieces fuel ((cs.flatMap escapedChar).map some ++ some '"' :: rest) = .ok (cs.map some, rest) := by
  induction cs generalizing fuel with
  | nil =>
    obtain ⟨fuel, rfl⟩ := Nat.exists_eq_add_one_of_ne_zero (Nat.ne_of_gt hfuel)
    rfl
  | cons c cs ih =>
    obtain ⟨fuel, rfl⟩ := Nat.exists_eq_add_one_of_ne_zero (Nat.ne_of_gt (Nat.zero_lt_of_lt hfuel))
    rw [List.flatMap_cons, List.map_append, List.append_assoc, quotedPieces_escapedChar,
      ih (by simpa using hfuel)]
    rfl

theorem chars?_map (cs : List Char) : chars? (cs.map some) = some cs := by
  induction cs with
  | nil => rfl
  | cons c cs ih => simp [chars?, ih]

theorem escapedChar_ne_nil (c : Char) : escapedChar c ≠ [] := by
  unfold escapedChar
  split <;> try split
  all_goals exact List.cons_ne_nil _ _

theorem length_le_flatMap_escapedChar (cs : List Char) : cs.length ≤ (cs.flatMap escapedChar).length := by
  induction cs with
  | nil => simp
  | cons c cs ih =>
    have hpos := List.length_pos_iff.mpr (escapedChar_ne_nil c)
    simp only [List.flatMap_cons, List.length_append, List.length_cons]
    omega

theorem map_quotedChars (cs : List Char) (rest : Source) :
    (quotedChars cs).map some ++ rest = some '"' :: ((cs.flatMap escapedChar).map some ++ some '"' :: rest) := by
  simp [quotedChars]

/-- Text in quotes is read as itself, after the first of them. -/
theorem quoted_flatMap (text : String) (rest : Source) :
    quoted ((text.toList.flatMap escapedChar).map some ++ some '"' :: rest) = .ok (text, rest) := by
  have hlength := length_le_flatMap_escapedChar text.toList
  have hfuel : text.toList.length
      < ((text.toList.flatMap escapedChar).map some ++ some '"' :: rest).length + 1 := by
    simp only [List.length_append, List.length_map, List.length_cons]
    omega
  simp only [quoted, quotedPieces_flatMap text.toList hfuel, bind, Except.bind, chars?_map, String.ofList_toList]

/-! ### Whole numbers -/

theorem isDigit_some (h : c.isDigit) : isDigit (some c) := by
  simpa [isDigit, Char.isDigit, Char.le_def] using h

/-- No numeral goes on where a value may end. -/
theorem not_numeral_of_ends (h : Ends (p :: rest)) : isDigit p = false ∧ p ≠ some '.' ∧ isPowerMark p = false := by
  have hp := h p rfl
  simp only [isBlank, List.mem_cons, List.not_mem_nil, or_false, Bool.or_eq_true, beq_iff_eq] at hp
  rcases hp with (((rfl | rfl) | rfl) | rfl) | rfl | rfl | rfl | rfl <;> decide

theorem absorb_digits (ds : List Char) (hsmall : Nat.ofDigitChars 10 ds n < UInt64.size) :
    absorb n (ds.map some) = (Nat.ofDigitChars 10 ds n, 0) := by
  induction ds generalizing n with
  | nil => rfl
  | cons c ds ih =>
    rw [Nat.ofDigitChars_cons, Nat.mul_comm] at hsmall ⊢
    have hnext : n * 10 + (c.toNat - '0'.toNat) < UInt64.size := Nat.lt_of_le_of_lt (le_ofDigitChars ds _) hsmall
    rw [← ih hsmall]
    exact if_pos hnext

theorem digits_digitChars (n : Nat) (h : Ends rest) :
    digits ((digitChars n).map some ++ rest) = (digitChars n).map some ∧
      afterDigits ((digitChars n).map some ++ rest) = rest := by
  have hdigits : ∀ p ∈ (digitChars n).map some, isDigit p := by
    intro p hp
    obtain ⟨c, hc, rfl⟩ := List.mem_map.mp hp
    exact isDigit_some (isDigit_of_mem_digitChars hc)
  have hstop : ∀ p ∈ rest.head?, isDigit p = false := by
    cases rest with
    | nil => simp
    | cons p rest =>
      rintro q ⟨⟩
      exact (not_numeral_of_ends h).1
  exact ⟨Text.takeWhile_append_of_stop hdigits hstop, Text.dropWhile_append_of_stop hdigits hstop⟩

/-- The digits of a number are read as the number. -/
theorem numeral_digitChars (positive : Bool) (hsmall : n < UInt64.size) (h : Ends rest) :
    numeral positive ((digitChars n).map some ++ rest) = .ok (whole positive n, rest) := by
  obtain ⟨hdigits, hafter⟩ := digits_digitChars n h
  have habsorb : absorb 0 ((digitChars n).map some) = (n, 0) := by
    rw [absorb_digits _ (by rwa [ofDigitChars_digitChars]), ofDigitChars_digitChars]
  obtain ⟨d, others, heq⟩ := List.exists_cons_of_ne_nil (digitChars_ne_nil n)
  have hlead : d = '0' → others = [] := fun hd => eq_nil_of_digitChars_eq (hd ▸ heq)
  rw [numeral, hdigits, hafter, habsorb, heq]
  cases rest with
  | nil => simpa using hlead
  | cons p rest =>
    obtain ⟨-, hpoint, hpower⟩ := not_numeral_of_ends h
    simpa [hpoint, hpower] using hlead

/-! ### Heads -/

variable {blanks : Source}

@[simp] theorem head_append (hb : Blank blanks) : head (blanks ++ s) = head s := by
  simp only [head, skipBlanks_append hb]

theorem isBlank_of_isDigit (h : isDigit p) : isBlank p = false := by
  by_contra hblank
  simp only [isBlank, Bool.not_eq_false, Bool.or_eq_true, beq_iff_eq] at hblank
  rcases hblank with ((rfl | rfl) | rfl) | rfl <;> exact absurd h (by decide)

theorem head_of_isDigit (h : isDigit p) :
    head (p :: s) = (numeral true (p :: s)).map fun r => (.number r.1, r.2) := by
  rw [head, skipBlanks_cons (isBlank_of_isDigit h)]
  dsimp only
  split
  case h_8 =>
    rw [if_pos h]
    rcases numeral true (p :: s) with - | ⟨n, rest⟩ <;> rfl
  all_goals exact absurd h (by decide)

theorem head_digitChars (hsmall : n < UInt64.size) (h : Ends rest) :
    head ((digitChars n).map some ++ rest) = .ok (.number (whole true n), rest) := by
  have hnumeral := numeral_digitChars true hsmall h
  obtain ⟨d, others, heq⟩ := List.exists_cons_of_ne_nil (digitChars_ne_nil n)
  have hd : d.isDigit := isDigit_of_mem_digitChars (heq ▸ List.mem_cons_self)
  rw [heq, List.map_cons, List.cons_append] at hnumeral ⊢
  rw [head_of_isDigit (isDigit_some hd), hnumeral]
  rfl

theorem head_quote (s : Source) : head (some '"' :: s) = (quoted s).map fun r => (.text r.1, r.2) := by
  rw [head, skipBlanks_cons rfl]
  dsimp only
  rcases quoted s with - | ⟨text, rest⟩ <;> rfl

theorem head_minus (s : Source) : head (some '-' :: s) = (numeral false s).map fun r => (.number r.1, r.2) := by
  rw [head, skipBlanks_cons rfl]
  dsimp only
  rcases numeral false s with - | ⟨n, rest⟩ <;> rfl

theorem head_minus_digitChars (hsmall : n < UInt64.size) (h : Ends rest) :
    head (some '-' :: ((digitChars n).map some ++ rest)) = .ok (.number (whole false n), rest) := by
  rw [head_minus, numeral_digitChars false hsmall h]
  rfl

/-- A whole number as it is kept: below zero just where it says so. -/
def WholeNumeral : JsonNumeral → Prop
  | .unsigned _ => True
  | .negative n => n < 0
  | .float _ => False

theorem head_numeral {n : JsonNumeral} (hn : WholeNumeral n) (h : Ends rest) :
    head (n.chars.map some ++ rest) = .ok (.number n, rest) := by
  cases n with
  | unsigned n =>
    rw [JsonNumeral.chars, head_digitChars n.toNat_lt h, whole]
    simp
  | negative n =>
    have hneg : n.toInt < 0 := Int64.lt_iff_toInt_lt.mp hn
    have hleast := n.le_toInt
    obtain ⟨m, hm⟩ := Int.eq_negSucc_of_lt_zero hneg
    have hsmall : m + 1 ≤ 9223372036854775808 := by omega
    have hword : Int64.ofInt (-((m + 1 : Nat) : Int)) = n := by
      show Int64.ofInt (Int.negSucc m) = n
      rw [← hm, Int64.ofInt_toInt]
    have hfits : ¬ (m + 1 == 0 || decide (m + 1 > 2 ^ (63 : Nat))) := by simpa using hsmall
    rw [JsonNumeral.chars, hm, intChars, List.map_cons, List.cons_append,
      head_minus_digitChars (Nat.lt_of_le_of_lt hsmall (by decide)) h, whole, if_neg Bool.false_ne_true, if_neg hfits,
      hword]
  | float => exact hn.elim

theorem opens_numeral {n : JsonNumeral} (hn : WholeNumeral n) : Opens (n.chars.map some) := by
  cases n with
  | unsigned n =>
    obtain ⟨d, others, heq⟩ := List.exists_cons_of_ne_nil (digitChars_ne_nil n.toNat)
    have hd : isDigit (some d) := isDigit_some (isDigit_of_mem_digitChars (heq ▸ List.mem_cons_self))
    refine ⟨some d, others.map some, by rw [JsonNumeral.chars, heq, List.map_cons], isBlank_of_isDigit hd, ?_⟩
    intro hbracket
    exact absurd (hbracket ▸ hd) (by decide)
  | negative n =>
    obtain ⟨m, hm⟩ := Int.eq_negSucc_of_lt_zero (Int64.lt_iff_toInt_lt.mp hn)
    exact ⟨some '-', (digitChars (m + 1)).map some, by rw [JsonNumeral.chars, hm]; rfl, rfl, by decide⟩
  | float => exact hn.elim

end ScriptBridge.Source
