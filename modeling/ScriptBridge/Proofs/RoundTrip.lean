import Mathlib.Data.UInt
import ScriptBridge.Proofs.ActionShapes
import ScriptBridge.Proofs.LedgerTrails

/-!
Values that cross the bridge come back as they were.

    decode (encode v)  =  v          for what has a kind of slot of its own
    encode (decode s)  =  s          for a number, a truth value or null of the host
    stringOf (encode (decode t))  =  t     for text of the host

Design.  A number is in its slot; text and objects are in the ledger, and the slot has their handle.
So the first equation lasts as long as the entry does, whatever happens meanwhile (`Follows.lasts`).  The
third crosses from scalars to UTF-16 units and back, and rests on `toText_ofString`: the units of a scalar
read as that scalar again, whatever follows them.
-/
namespace ScriptBridge

open Data Text Script

variable {σ : Type}

/-! ### Text to units and back -/

namespace Text.Units

theorem valid_cases (c : Char) : c.toNat < 0xD800 ∨ (0xDFFF < c.toNat ∧ c.toNat < 0x110000) := c.valid

theorem isHigh_iff {u : UInt16} : isHigh u = true ↔ 0xD800 ≤ u.toNat ∧ u.toNat ≤ 0xDBFF := by
  simp [isHigh, UInt16.le_iff_toNat_le]

theorem isLow_iff {u : UInt16} : isLow u = true ↔ 0xDC00 ≤ u.toNat ∧ u.toNat ≤ 0xDFFF := by
  simp [isLow, UInt16.le_iff_toNat_le]

theorem toNat_ofNat {n : Nat} (hn : n < 2 ^ 16) : (UInt16.ofNat n).toNat = n := by
  rw [UInt16.toNat_ofNat']
  exact Nat.mod_eq_of_lt hn

/-- A unit that is no high surrogate stands for itself, whatever follows. -/
theorem codePoints_cons {u : UInt16} (hu : isHigh u = false) (rest : Units) :
    codePoints (u :: rest) = u.toNat :: codePoints rest := by
  cases rest with
  | nil => rfl
  | cons v rest =>
    rw [codePoints, hu]
    rfl

theorem codePoints_pair {u v : UInt16} (hu : isHigh u = true) (hv : isLow v = true) (rest : Units) :
    codePoints (u :: v :: rest) = (pairChar u v).toNat :: codePoints rest := by
  rw [codePoints, hu, hv]
  rfl

theorem codePoints_ofChar (c : Char) (rest : Units) :
    codePoints (ofChar c ++ rest) = c.toNat :: codePoints rest := by
  have hvalid := valid_cases c
  by_cases hc : c.toNat < 0x10000
  · have hunit : (UInt16.ofNat c.toNat).toNat = c.toNat := toNat_ofNat hc
    rw [ofChar, if_pos hc, List.singleton_append, codePoints_cons, hunit]
    rw [← Bool.not_eq_true, isHigh_iff, hunit]
    omega
  · have hhigh : (UInt16.ofNat (0xD800 + (c.toNat - 0x10000) / 0x400)).toNat
        = 0xD800 + (c.toNat - 0x10000) / 0x400 := toNat_ofNat (by omega)
    have hlow : (UInt16.ofNat (0xDC00 + (c.toNat - 0x10000) % 0x400)).toNat
        = 0xDC00 + (c.toNat - 0x10000) % 0x400 := toNat_ofNat (by omega)
    rw [ofChar, if_neg hc]
    show codePoints (_ :: _ :: rest) = _
    rw [codePoints_pair (isHigh_iff.mpr (by rw [hhigh]; omega)) (isLow_iff.mpr (by rw [hlow]; omega)),
      pairChar, hhigh, hlow]
    -- the two halves together are the scalar again
    have hsum : 0x10000 + (0xD800 + (c.toNat - 0x10000) / 0x400 - 0xD800) * 0x400
        + (0xDC00 + (c.toNat - 0x10000) % 0x400 - 0xDC00) = c.toNat := by omega
    rw [hsum, Char.ofNat_toNat]

theorem codePoints_ofChars (cs : List Char) : codePoints (ofChars cs) = cs.map Char.toNat := by
  induction cs with
  | nil => rfl
  | cons c cs ih => rw [ofChars, codePoints_ofChar, ih, List.map_cons]

theorem scalarsFrom_toNat (at_ : Nat) (cs : List Char) :
    scalarsFrom at_ (cs.map Char.toNat) = .ok cs := by
  induction cs generalizing at_ with
  | nil => rfl
  | cons c cs ih =>
    have hscalar : isSurrogate c.toNat = false := by
      have := valid_cases c
      simp only [isSurrogate, Bool.and_eq_false_iff, decide_eq_false_iff_not]
      omega
    rw [List.map_cons, scalarsFrom, hscalar, ih, Char.ofNat_toNat]
    rfl

/-- **Host text comes back from its units**, whatever scalars it consists of. -/
theorem toText_ofString (s : String) : toText (ofString s) = .ok s := by
  rw [toText, toChars, ofString, codePoints_ofChars, scalarsFrom_toNat]
  exact congrArg Except.ok String.ofList_toList

end Text.Units

/-! ### What crosses -/

/-- A value with a kind of slot of its own: all but `undefined`, symbols and large integers. -/
def Script.Value.crosses : Value → Bool
  | .null | .bool _ | .int _ | .double _ | .string _ _ | .object _ => true
  | .undefined | .symbol _ | .bigint _ _ => false

/-- A slot that holds all that it stands for, and stands for one value of the script only. -/
def Slot.isPrimitive : Slot → Bool
  | .null | .bool _ | .int32 _ | .double _ | .text _ => true
  | _ => false

/-- The slot stands for the same entry in a later bridge: its handle has kept a reference and was not
given out for another value. -/
def Slot.Lives (s : Slot) (b b' : Bridge) : Prop :=
  ∀ h, s.handle? = some h → b'.ledger.contains h = true ∧ issues h b'.journal = issues h b.journal

/-! ### Encoding, then decoding -/

namespace Bridge

theorem encode_crossing {b : Bridge} {v : Value} (hv : v.crosses = true) (hk : v.kept = false) (b' : Bridge) :
    b'.decode (b.encode v).1 = .ok v := by
  cases v with
  | string u m => cases hk
  | object r => cases hk
  | undefined => cases hv
  | symbol x => cases hv
  | bigint i m => cases hv
  | _ => rfl

theorem encode_entry {b : Bridge} {v : Value} (hv : v.kept = true) :
    (b.encode v).2.ledger.entry? ⟨b.ledger.next⟩ = some ⟨v, 1⟩ := by
  rw [(encode_kept hv).2]
  show Ledger.entry? (b.ledger.stage v).2 _ = _
  rw [Ledger.entry?_stage, if_pos rfl]

/-- **What was encoded decodes to itself.** -/
theorem decode_encode (b : Bridge) {v : Value} (hv : v.crosses = true) :
    (b.encode v).2.decode (b.encode v).1 = .ok v := by
  cases hk : v.kept with
  | false => exact encode_crossing hv hk _
  | true =>
    rw [Runner.decode_handle (encode_kept hk).1]
    exact Ledger.get_live _ (encode_entry hk)

end Bridge

namespace Follows

variable {host : Host σ} {w w' : World σ} {v : Value}

/-- It does so as long as its entry lives, whatever follows. -/
theorem decode_encode (h : Follows host { w with bridge := (w.bridge.encode v).2 } w') (hv : v.crosses = true)
    (hlives : (w.bridge.encode v).1.Lives (w.bridge.encode v).2 w'.bridge) :
    w'.bridge.decode (w.bridge.encode v).1 = .ok v := by
  cases hk : v.kept with
  | false => exact Bridge.encode_crossing hv hk _
  | true =>
    have hslot := (Bridge.encode_kept (b := w.bridge) hk).1
    obtain ⟨hlive, hsame⟩ := hlives _ hslot
    obtain ⟨e', he'⟩ := Option.isSome_iff_exists.mp hlive
    obtain ⟨e, he, hvalue⟩ := h.lasts hsame he'
    cases he.symm.trans (Bridge.encode_entry hk)
    rw [Runner.decode_handle hslot, Ledger.get_live _ he']
    exact congrArg Except.ok hvalue.symm

/-- The handle of what was encoded is not given out for another value before its number comes round. -/
theorem encode_comes_round (h : Follows host { w with bridge := (w.bridge.encode v).2 } w') {g : Handle}
    (hg : (w.bridge.encode v).1.handle? = some g)
    (hnew : issues g w'.bridge.journal ≠ issues g (w.bridge.encode v).2.journal) :
    (givenOut (w.bridge.encode v).2.journal).length + (2 ^ 32 - 1)
      ≤ (givenOut w'.bridge.journal).length := by
  obtain ⟨es, ps, hj, ht⟩ := h.trail
  have hj : w'.bridge.journal = es ++ (w.bridge.encode v).2.journal := hj
  cases hk : v.kept with
  | false => cases (Bridge.encode_plain hk).1.symm.trans hg
  | true =>
    obtain ⟨hslot, hstage⟩ := Bridge.encode_kept (b := w.bridge) hk
    cases hslot.symm.trans hg
    have hnext : (w.bridge.encode v).2.ledger.next = Ledger.following w.bridge.ledger.next := by
      rw [hstage]
      exact Ledger.stage_next _ _
    have hin : (⟨w.bridge.ledger.next⟩ : Handle) ∈ (Ledger.entered ps).map Prod.fst := by
      rw [← ht.told.1, ← List.count_pos_iff, ← issues_eq_count]
      rw [hj, Tidy.issues_append] at hnew
      omega
    have hmany := ht.course.comes_round hnext hin
    have hlength := congrArg List.length ht.told.1
    rw [List.length_map] at hlength
    rw [hj, givenOut_append, List.length_append]
    omega

end Follows

/-! ### Decoding, then encoding -/

/-- The text of a script string that was made of host text. -/
theorem hostText_ofString (t : String) : hostText (Units.ofString t) = .ok t := by
  rw [hostText, Units.toText_ofString]

/-- A string of the script in the ledger has a text when its units have. -/
theorem Bridge.stringOf_decoded {b : Bridge} {h : Handle} {t : String}
    (hs : b.decode (.scriptString h) = .ok (.text t)) : b.stringOf (.scriptString h) = .ok t := by
  have hget : b.ledger.get h = .ok (.text t) := hs
  rw [Bridge.stringOf, hget]
  exact hostText_ofString t

/-- **Decoding undoes encoding, and encoding decoding.**  For every host and every world, whatever runs and
callbacks are under way in it:

1. a value that is null, a truth value, a number, a string or an object has a slot that decodes to that very
   value, at once and after whatever follows, as long as the entry of its handle lives; and the handle
   is not given out for another value before 2³² - 1 others have been given out;
2. a slot that is null, a truth value, a number or text decodes, and the value encodes to the
   same slot again, or for text to a string whose text it is, as long as the entry lives. -/
theorem World.round_trip (host : Host σ) (w : World σ) :
    (∀ v : Value, v.crosses = true →
      let s := (w.bridge.encode v).1
      let w₁ : World σ := { w with bridge := (w.bridge.encode v).2 }
      w₁.bridge.decode s = .ok v ∧ ∀ w', Follows host w₁ w' →
        (s.Lives w₁.bridge w'.bridge → w'.bridge.decode s = .ok v) ∧
        ∀ h, s.handle? = some h → issues h w'.bridge.journal ≠ issues h w₁.bridge.journal →
          (givenOut w₁.bridge.journal).length + (2 ^ 32 - 1) ≤ (givenOut w'.bridge.journal).length) ∧
    ∀ s : Slot, s.isPrimitive = true → ∃ v, w.bridge.decode s = .ok v ∧ v.crosses = true ∧
      let s₁ := (w.bridge.encode v).1
      let w₁ : World σ := { w with bridge := (w.bridge.encode v).2 }
      match s with
      | .text t => s₁ = .scriptString ⟨w.bridge.ledger.next⟩ ∧ w₁.bridge.stringOf s₁ = .ok t ∧
          ∀ w', Follows host w₁ w' → s₁.Lives w₁.bridge w'.bridge → w'.bridge.stringOf s₁ = .ok t
      | _ => s₁ = s ∧ w₁ = w := by
  constructor
  · intro v hv s w₁
    refine ⟨Bridge.decode_encode _ hv, fun w' hw' => ⟨hw'.decode_encode hv, fun h hs => ?_⟩⟩
    exact hw'.encode_comes_round hs
  · intro s hs
    cases s with
    | text t =>
      have hslot : (w.bridge.encode (.text t)).1 = .scriptString ⟨w.bridge.ledger.next⟩ :=
        congrArg Slot.scriptString (Ledger.stage_fst _ _)
      have hnow := Bridge.decode_encode w.bridge (v := .text t) rfl
      refine ⟨.text t, rfl, rfl, hslot, ?_, fun w' hw' hlives => ?_⟩
      · show Bridge.stringOf _ (w.bridge.encode (.text t)).1 = _
        rw [hslot] at hnow ⊢
        exact Bridge.stringOf_decoded hnow
      · have hlater := hw'.decode_encode (v := .text t) rfl hlives
        show Bridge.stringOf _ (w.bridge.encode (.text t)).1 = _
        rw [hslot] at hlater ⊢
        exact Bridge.stringOf_decoded hlater
    | null => exact ⟨.null, rfl, rfl, rfl, rfl⟩
    | int32 n => exact ⟨.int n, rfl, rfl, rfl, rfl⟩
    | double x => exact ⟨.double x, rfl, rfl, rfl, rfl⟩
    | bool x => exact ⟨.bool x, rfl, rfl, rfl, rfl⟩
    | _ => cases hs

/-- A surrogate that stands alone comes back after another string was put into the cache. -/
theorem World.round_trip_lone_surrogate :
    let w := Context.smallest.world
    let w₁ : World Unit := { w with bridge := (w.bridge.encode (.string [0xD800] 3)).2 }
    (w₁.staging (.text "more")).bridge.decode (w.bridge.encode (.string [0xD800] 3)).1
      = .ok (.string [0xD800] 3) := by
  intro w w₁
  obtain ⟨-, hlater⟩ := (World.round_trip .agreeing w).1 (.string [0xD800] 3) rfl
  refine (hlater _ (.staged (.text "more") w₁ rfl)).1 ?_
  have hslot : (w.bridge.encode (.string [0xD800] 3)).1.handle? = some ⟨1⟩ := by decide +kernel
  intro h hh
  cases hslot.symm.trans hh
  decide +kernel

end ScriptBridge
