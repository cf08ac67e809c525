/-!
Module text.

Text in which the word `export` stands by itself is a module as it is.  Other text is a fragment
that fills `module.exports`; it is wrapped so that the default export is what it filled in.  The
word is looked for in the bytes of the text.
-/
namespace ScriptBridge.ModuleText

def keyword : String := "export"

/-- The text in UTF-8. -/
def bytesOf (source : String) : List UInt8 := source.toByteArray.data.toList

/-- Letters, digits and the underscore of ASCII. -/
def isWordByte (b : UInt8) : Bool :=
  (0x61 ≤ b && b ≤ 0x7a) || (0x41 ≤ b && b ≤ 0x5a) || (0x30 ≤ b && b ≤ 0x39) || b == 0x5f

/-- Where `key` occurs in the bytes that start at position `index`, from the left.  An occurrence
starts after the end of the one before: the first `skip` bytes belong to that one. -/
def occurrences (key : List UInt8) (index skip : Nat) : List UInt8 → List Nat
  | [] => []
  | b :: rest =>
    match skip with
    | skip + 1 => occurrences key (index + 1) skip rest
    | 0 =>
      if key.isPrefixOf (b :: rest) then
        index :: occurrences key (index + 1) (key.length - 1) rest
      else
        occurrences key (index + 1) 0 rest

/-- An occurrence ends within the text. -/
theorem occurrences_end_le (key : List UInt8) (bytes : List UInt8) :
    ∀ index skip i, i ∈ occurrences key index skip bytes →
      i + key.length ≤ index + bytes.length := by
  induction bytes with
  | nil => simp [occurrences]
  | cons b rest ih =>
    intro index skip i found
    cases skip with
    | succ skip =>
      have := ih _ _ _ found
      simp only [List.length_cons]
      omega
    | zero =>
      simp only [occurrences] at found
      split at found
      · next here =>
        rcases List.mem_cons.mp found with rfl | later
        · have := (List.isPrefixOf_iff_prefix.mp here).length_le
          omega
        · have := ih _ _ _ later
          simp only [List.length_cons]
          omega
      · have := ih _ _ _ found
        simp only [List.length_cons]
        omega

/-- Do the `length` bytes from `index` on stand by themselves: is there no byte of a word right
before them and none right after? -/
def standsAlone (bytes : List UInt8) (length index : Nat)
    (within : index + length ≤ bytes.length) : Bool :=
  let before := if first : index = 0 then true else !isWordByte bytes[index - 1]
  let after := if last : index + length = bytes.length then true
    else !isWordByte bytes[index + length]
  before && after

/-- Does the keyword stand by itself somewhere in the text? -/
def hasExport (source : String) : Bool :=
  let bytes := bytesOf source
  let key := bytesOf keyword
  (occurrences key 0 0 bytes).attach.any fun ⟨index, found⟩ =>
    have within : index + key.length ≤ bytes.length := by
      have end_le := occurrences_end_le key bytes 0 0 index found
      omega
    standsAlone bytes key.length index within

/-- A fragment as a module whose default export is `module.exports`. -/
def wrap (source : String) : String :=
  "const module = \x7bexports: \x7b\x7d\x7d; let exports = module.exports;\n" ++ source
    ++ "\nexport default module.exports;\n"

def ofSource (source : String) : String := if hasExport source then source else wrap source

end ScriptBridge.ModuleText
