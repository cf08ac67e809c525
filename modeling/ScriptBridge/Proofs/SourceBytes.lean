import ScriptBridge.Json.Source
import ScriptBridge.Proofs.StandaloneExport

/-!
The bytes of a text as a source.

Text in UTF-8 is taken apart into its characters and nothing else (`ofBytes_bytesOf`): the bytes of a character are
taken for that character, whatever follows them (`charAt?_encode`), and as many of them are passed over as it has.
-/
namespace ScriptBridge.Source

open ModuleText

variable {a b c d : UInt8} {point : Nat} {rest : List UInt8}

/-! ### Characters by their width -/

theorem charAt?_one (ha : a.toNat < 0x80) (hpoint : a.toNat = point) (hvalid : point.isValidChar) :
    charAt? (a :: rest) = some (Char.ofNat point, 0) := by
  subst hpoint
  simp [charAt?, ha, hvalid]

theorem charAt?_two (ha : 0xC0 ≤ a.toNat ∧ a.toNat < 0xE0) (hb : isTrailing b)
    (hpoint : (a.toNat - 0xC0) * 64 + tail6 b = point) (hleast : 0x80 ≤ point) (hvalid : point.isValidChar) :
    charAt? (a :: b :: rest) = some (Char.ofNat point, 1) := by
  have hwide : ¬ a.toNat < 0x80 := by omega
  simp [charAt?, hwide, ha, hb, hpoint, hleast, hvalid]

theorem charAt?_three (ha : 0xE0 ≤ a.toNat ∧ a.toNat < 0xF0) (hb : isTrailing b) (hc : isTrailing c)
    (hpoint : ((a.toNat - 0xE0) * 64 + tail6 b) * 64 + tail6 c = point) (hleast : 0x800 ≤ point)
    (hvalid : point.isValidChar) : charAt? (a :: b :: c :: rest) = some (Char.ofNat point, 2) := by
  have hwide : ¬ a.toNat < 0xE0 ∧ ¬ a.toNat < 0x80 ∧ 0xC0 ≤ a.toNat := by omega
  simp [charAt?, hwide, ha, hb, hc, hpoint, hleast, hvalid]

theorem charAt?_four (ha : 0xF0 ≤ a.toNat ∧ a.toNat < 0xF8) (hb : isTrailing b) (hc : isTrailing c)
    (hd : isTrailing d) (hpoint : (((a.toNat - 0xF0) * 64 + tail6 b) * 64 + tail6 c) * 64 + tail6 d = point)
    (hleast : 0x10000 ≤ point) (hvalid : point.isValidChar) :
    charAt? (a :: b :: c :: d :: rest) = some (Char.ofNat point, 3) := by
  have hwide : ¬ a.toNat < 0xF0 ∧ ¬ a.toNat < 0xE0 ∧ ¬ a.toNat < 0x80 ∧ 0xC0 ≤ a.toNat := by omega
  simp [charAt?, hwide, ha, hb, hc, hd, hpoint, hleast, hvalid]

/-! ### Bytes that write a character -/

theorem toNat_marked (n mark range : Nat) (hrange : 0 < range) (hsum : mark + range ≤ 0x100) :
    (UInt8.ofNat (n % range + mark)).toNat = n % range + mark := by
  have hlt := Nat.mod_lt n hrange
  exact UInt8.toNat_ofNat_of_lt' (by simp only [UInt8.size]; omega)

theorem isTrailing_marked (n : Nat) : isTrailing (UInt8.ofNat (n % 0x40 + 0x80)) := by
  have hlt := Nat.mod_lt n (show 0 < 0x40 by decide)
  rw [isTrailing, toNat_marked n _ _ (by decide) (by decide), beq_iff_eq]
  omega

theorem tail6_marked (n : Nat) : tail6 (UInt8.ofNat (n % 0x40 + 0x80)) = n % 0x40 := by
  rw [tail6, toNat_marked n _ _ (by decide) (by decide)]
  omega

theorem charAt?_encode (c : Char) (rest : List UInt8) :
    charAt? (String.utf8EncodeChar c ++ rest) = some (c, (String.utf8EncodeChar c).length - 1) := by
  have hvalid : c.val.toNat.isValidChar := c.valid
  have hgreatest : c.val.toNat < 0x110000 := by rcases hvalid with h | h <;> omega
  suffices hpoint : charAt? (String.utf8EncodeChar c ++ rest)
      = some (Char.ofNat c.val.toNat, (String.utf8EncodeChar c).length - 1) from
    hpoint.trans (by rw [show c.val.toNat = c.toNat from rfl, Char.ofNat_toNat])
  rw [String.utf8EncodeChar]
  split
  case isTrue h =>
    have htoNat : (UInt8.ofNat c.val.toNat).toNat = c.val.toNat :=
      UInt8.toNat_ofNat_of_lt' (by simp only [UInt8.size]; omega)
    exact charAt?_one (by omega) htoNat hvalid
  split
  case isTrue h =>
    have htoNat := toNat_marked (c.val.toNat / 64) 0xc0 0x20 (by decide) (by decide)
    refine charAt?_two ?_ (isTrailing_marked _) ?_ (by omega) hvalid
    · omega
    · rw [tail6_marked]
      omega
  split
  case isTrue h =>
    have htoNat := toNat_marked (c.val.toNat / 4096) 0xe0 0x10 (by decide) (by decide)
    refine charAt?_three ?_ (isTrailing_marked _) (isTrailing_marked _) ?_ (by omega) hvalid
    · omega
    · rw [tail6_marked, tail6_marked]
      omega
  case isFalse h =>
    have htoNat := toNat_marked (c.val.toNat / 262144) 0xf0 0x08 (by decide) (by decide)
    refine charAt?_four ?_ (isTrailing_marked _) (isTrailing_marked _) (isTrailing_marked _) ?_ (by omega) hvalid
    · omega
    · rw [tail6_marked, tail6_marked, tail6_marked]
      omega

/-! ### Whole texts -/

theorem ofBytesAfter_length (bytes rest : List UInt8) :
    ofBytesAfter bytes.length (bytes ++ rest) = ofBytesAfter 0 rest := by
  induction bytes with
  | nil => rfl
  | cons b bytes ih => exact ih

theorem ofBytes_flatMap_encode (cs : List Char) : ofBytes (cs.flatMap String.utf8EncodeChar) = cs.map some := by
  induction cs with
  | nil => rfl
  | cons c cs ih =>
    have hchar := charAt?_encode c (cs.flatMap String.utf8EncodeChar)
    obtain ⟨b, bytes, hencode⟩ := List.exists_cons_of_ne_nil (String.utf8EncodeChar_ne_nil (c := c))
    rw [hencode, List.cons_append, List.length_cons, Nat.add_sub_cancel] at hchar
    rw [List.flatMap_cons, List.map_cons, ← ih, hencode, List.cons_append, ofBytes, ofBytesAfter, hchar]
    exact congrArg (some c :: ·) (ofBytesAfter_length bytes _)

/-- The bytes of a text say what the text says. -/
theorem ofBytes_bytesOf (text : String) : ofBytes (bytesOf text) = ofText text := by
  rw [bytesOf_eq, ofBytes_flatMap_encode, ofText]

end ScriptBridge.Source
