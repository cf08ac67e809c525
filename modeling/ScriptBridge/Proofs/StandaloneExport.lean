import Mathlib.Data.List.Basic
import ScriptBridge.Module.Source

/-!
The word `export` in the bytes of a text and in its characters.

  `hasExport s  ↔  s = before ++ "export" ++ after`, with no character of a word at either seam.

Design.  A character of ASCII is one byte, and any other character has none of the bytes of ASCII
(`encode_narrow`, `encode_wide`).  So a byte belongs to a word just when its character does
(`isWordByte_of_mem_encode`), and ASCII text that is found in the bytes of a text is found there in
its characters (`flatMap_encode_split`).  No occurrence is lost to the one before it, because the
keyword starts with a letter that it has nowhere else (`mem_occurrences_iff`).
-/
namespace ScriptBridge.ModuleText

/-- Letters, digits and the underscore of ASCII. -/
def isWordChar (c : Char) : Bool := c.isAlphanum || c == '_'

/-- Somewhere in the text stands the word `export`, with no letter, digit or underscore beside
it. -/
def ExportStands (source : String) : Prop :=
  ∃ before after : String, source = before ++ "export" ++ after ∧
    (∀ c ∈ before.toList.getLast?, isWordChar c = false) ∧
    ∀ c ∈ after.toList.head?, isWordChar c = false

/-! ### Bytes of a character -/

theorem bytesOf_eq (source : String) :
    bytesOf source = source.toList.flatMap String.utf8EncodeChar := by
  rw [bytesOf, ← String.utf8Encode_toList, List.utf8Encode, List.toList_data_toByteArray]

theorem encode_narrow {c : Char} (h : c.toNat < 0x80) :
    String.utf8EncodeChar c = [UInt8.ofNat c.toNat] :=
  if_pos (Nat.le_of_lt_succ h)

theorem high_le_marked (n : Nat) {mark range : Nat} (hmark : 0x80 ≤ mark) (hrange : 0 < range)
    (hsum : mark + range ≤ 0x100) : 0x80 ≤ UInt8.ofNat (n % range + mark) := by
  have hlt := Nat.mod_lt n hrange
  rw [UInt8.le_iff_toNat_le, UInt8.toNat_ofNat_of_lt' (by simp only [UInt8.size]; omega)]
  exact Nat.le_trans hmark (Nat.le_add_left _ _)

theorem encode_wide {c : Char} (h : 0x80 ≤ c.toNat) :
    ∀ b ∈ String.utf8EncodeChar c, 0x80 ≤ b := by
  intro b hb
  have hval : ¬ c.val.toNat ≤ 0x7f := Nat.not_le_of_lt h
  rw [String.utf8EncodeChar, if_neg hval] at hb
  split at hb
  case isTrue =>
    simp only [List.mem_cons, List.not_mem_nil, or_false] at hb
    rcases hb with rfl | rfl <;> exact high_le_marked _ (by decide) (by decide) (by decide)
  split at hb
  case isTrue =>
    simp only [List.mem_cons, List.not_mem_nil, or_false] at hb
    rcases hb with rfl | rfl | rfl <;> exact high_le_marked _ (by decide) (by decide) (by decide)
  case isFalse =>
    simp only [List.mem_cons, List.not_mem_nil, or_false] at hb
    rcases hb with rfl | rfl | rfl | rfl <;>
      exact high_le_marked _ (by decide) (by decide) (by decide)

theorem encode_inj_narrow {c d : Char} (hc : c.toNat < 0x80) (hd : d.toNat < 0x80)
    (h : String.utf8EncodeChar c = String.utf8EncodeChar d) : c = d := by
  rw [encode_narrow hc, encode_narrow hd, List.cons.injEq] at h
  have hnat := congrArg UInt8.toNat h.1
  rw [UInt8.toNat_ofNat_of_lt' (Nat.lt_trans hc (by decide)),
    UInt8.toNat_ofNat_of_lt' (Nat.lt_trans hd (by decide))] at hnat
  exact Char.ext (UInt32.toNat_inj.mp hnat)

theorem isWordByte_of_high {b : UInt8} (h : 0x80 ≤ b) : isWordByte b = false := by
  grind [isWordByte]

theorem isWordChar_of_wide {c : Char} (h : 0x80 ≤ c.toNat) : isWordChar c = false := by
  have hval : 0x80 ≤ c.val.toNat := h
  have hne : c ≠ '_' := by
    rintro rfl
    exact absurd h (by decide)
  -- no capital, no small letter, no digit
  show (decide (0x41 ≤ c.val ∧ c.val ≤ 0x5a) || (decide (0x61 ≤ c.val) && decide (c.val ≤ 0x7a))
    || (decide (0x30 ≤ c.val) && decide (c.val ≤ 0x39)) || c == '_') = false
  simp [UInt32.le_iff_toNat_le, hne]
  omega

/-- A byte belongs to a word just when the character that it is of does. -/
theorem isWordByte_of_mem_encode {c : Char} {b : UInt8} (hb : b ∈ String.utf8EncodeChar c) :
    isWordByte b = isWordChar c := by
  rcases Nat.lt_or_ge c.toNat 0x80 with narrow | wide
  · have agree : ∀ n < 0x80, isWordByte (UInt8.ofNat n) = isWordChar (Char.ofNat n) := by decide
    rw [encode_narrow narrow, List.mem_singleton] at hb
    rw [hb, agree _ narrow, Char.ofNat_toNat]
  · rw [isWordByte_of_high (encode_wide wide b hb), isWordChar_of_wide wide]

/-! ### Ends of a text -/

theorem head?_flatMap_encode (cs : List Char) :
    (∀ b ∈ (cs.flatMap String.utf8EncodeChar).head?, isWordByte b = false) ↔
      ∀ c ∈ cs.head?, isWordChar c = false := by
  cases cs with
  | nil => simp
  | cons c rest =>
    obtain ⟨b, more, hencode⟩ := List.exists_cons_of_ne_nil (String.utf8EncodeChar_ne_nil (c := c))
    have hb : isWordByte b = isWordChar c :=
      isWordByte_of_mem_encode (hencode ▸ List.mem_cons_self)
    simp [hencode, hb]

theorem getLast?_flatMap_encode (cs : List Char) :
    (∀ b ∈ (cs.flatMap String.utf8EncodeChar).getLast?, isWordByte b = false) ↔
      ∀ c ∈ cs.getLast?, isWordChar c = false := by
  rcases List.eq_nil_or_concat cs with rfl | ⟨start, c, rfl⟩
  · simp
  · have hne := String.utf8EncodeChar_ne_nil (c := c)
    have hb := isWordByte_of_mem_encode (List.getLast_mem hne)
    simp [List.getLast?_append, List.getLast?_eq_some_getLast hne, hb]

/-! ### ASCII text among characters -/

/-- The character `c` stands in `cs` between characters of the bytes `u` and `v`. -/
def CharAt (cs : List Char) (u : List UInt8) (c : Char) (v : List UInt8) : Prop :=
  ∃ before after, cs = before ++ c :: after ∧ before.flatMap String.utf8EncodeChar = u ∧
    after.flatMap String.utf8EncodeChar = v

theorem CharAt.cons {cs : List Char} {u v : List UInt8} {c : Char} (h : CharAt cs u c v)
    (d : Char) : CharAt (d :: cs) (String.utf8EncodeChar d ++ u) c v := by
  obtain ⟨before, after, rfl, rfl, rfl⟩ := h
  exact ⟨d :: before, after, rfl, rfl, rfl⟩

/-- Where the bytes of a text have a character of ASCII, the text has it. -/
theorem charAt_of_narrow {c : Char} (hc : c.toNat < 0x80) {v : List UInt8} (cs : List Char) :
    ∀ u, cs.flatMap String.utf8EncodeChar = u ++ (String.utf8EncodeChar c ++ v) →
      CharAt cs u c v := by
  have hone := encode_narrow hc
  induction cs with
  | nil => simp [hone]
  | cons d rest ih =>
    intro u h
    rw [List.flatMap_cons] at h
    rcases Nat.lt_or_ge d.toNat 0x80 with narrow | wide
    · have hencode := encode_narrow narrow
      cases u with
      | nil =>
        rw [List.nil_append] at h
        obtain ⟨hsame, hrest⟩ := List.append_inj h (by rw [hencode, hone]; rfl)
        exact ⟨[], rest, congrArg (· :: rest) (encode_inj_narrow narrow hc hsame), rfl, hrest⟩
      | cons b u =>
        rw [hencode] at h
        obtain ⟨hbyte, hrest⟩ := List.cons.inj h
        have hsplit := (ih u hrest).cons d
        rwa [hencode, hbyte] at hsplit
    · rcases List.append_eq_append_iff.mp h with ⟨u', rfl, hrest⟩ | ⟨w, hencode, hrest⟩
      · exact (ih u' hrest).cons d
      · cases w with
        | nil => simpa [hencode] using (ih [] hrest.symm).cons d
        | cons b w =>
          -- the byte of `c` would be one of a character of several bytes
          rw [hone] at hrest
          obtain ⟨rfl, -⟩ := List.cons.inj hrest
          have hhigh := encode_wide wide (UInt8.ofNat c.toNat) (by simp [hencode])
          rw [UInt8.le_iff_toNat_le, UInt8.toNat_ofNat_of_lt' (Nat.lt_trans hc (by decide))] at hhigh
          exact absurd hc (Nat.not_lt_of_le hhigh)

/-- A text begins with an ASCII word where its bytes do. -/
theorem flatMap_encode_prefix {v : List UInt8} (word : List Char)
    (hword : ∀ c ∈ word, c.toNat < 0x80) :
    ∀ cs : List Char, cs.flatMap String.utf8EncodeChar = word.flatMap String.utf8EncodeChar ++ v →
      ∃ after, cs = word ++ after ∧ after.flatMap String.utf8EncodeChar = v := by
  induction word with
  | nil => exact fun cs h => ⟨cs, rfl, h⟩
  | cons c word ih =>
    intro cs h
    rw [List.flatMap_cons, List.append_assoc] at h
    obtain ⟨before, rest, rfl, hbefore, hrest⟩ :=
      charAt_of_narrow (hword c List.mem_cons_self) cs [] h
    obtain ⟨after, rfl, hafter⟩ := ih (fun d hd => hword d (List.mem_cons_of_mem _ hd)) rest hrest
    obtain rfl : before = [] := by
      cases before with
      | nil => rfl
      | cons d before => simp [String.utf8EncodeChar_ne_nil] at hbefore
    exact ⟨after, rfl, hafter⟩

/-- An ASCII word that is found in the bytes of a text is found in the text. -/
theorem flatMap_encode_split {u v : List UInt8} {c : Char} {word : List Char}
    (hword : ∀ d ∈ c :: word, d.toNat < 0x80) {cs : List Char}
    (h : cs.flatMap String.utf8EncodeChar = u ++ (c :: word).flatMap String.utf8EncodeChar ++ v) :
    ∃ before after, cs = before ++ (c :: word) ++ after ∧
      before.flatMap String.utf8EncodeChar = u ∧ after.flatMap String.utf8EncodeChar = v := by
  rw [List.flatMap_cons, List.append_assoc, List.append_assoc] at h
  obtain ⟨before, rest, rfl, hbefore, hrest⟩ :=
    charAt_of_narrow (hword c List.mem_cons_self) cs u h
  obtain ⟨after, rfl, hafter⟩ :=
    flatMap_encode_prefix word (fun d hd => hword d (List.mem_cons_of_mem _ hd)) rest hrest
  exact ⟨before, after, by simp, hbefore, hafter⟩

/-! ### Occurrences -/

/-- `key` stands in the bytes after `n` others. -/
def KeyAt (key bytes : List UInt8) (n : Nat) : Prop :=
  ∃ u v, bytes = u ++ key ++ v ∧ u.length = n

theorem keyAt_zero {key bytes : List UInt8} : KeyAt key bytes 0 ↔ key <+: bytes := by
  constructor
  · rintro ⟨u, v, rfl, hu⟩
    rw [List.length_eq_zero_iff.mp hu]
    exact List.prefix_append _ _
  · rintro ⟨v, rfl⟩
    exact ⟨[], v, rfl, rfl⟩

theorem keyAt_cons_succ {key rest : List UInt8} {b : UInt8} {n : Nat} :
    KeyAt key (b :: rest) (n + 1) ↔ KeyAt key rest n := by
  constructor
  · rintro ⟨_ | ⟨c, u⟩, v, h, hu⟩
    · cases hu
    · exact ⟨u, v, (List.cons.inj h).2, Nat.succ.inj hu⟩
  · rintro ⟨u, v, rfl, hu⟩
    exact ⟨b :: u, v, rfl, congrArg (· + 1) hu⟩

/-- A key that starts with a byte it has nowhere else is found wherever it stands. -/
theorem mem_occurrences_iff {k : UInt8} {key : List UInt8} (hk : k ∉ key) (bytes : List UInt8) :
    ∀ {index skip i : Nat}, k ∉ bytes.take skip →
      (i ∈ occurrences (k :: key) index skip bytes ↔
        ∃ n, KeyAt (k :: key) bytes n ∧ i = index + n) := by
  induction bytes with
  | nil =>
    intro index skip i _
    simp [occurrences, KeyAt]
  | cons b rest ih =>
    intro index skip i hskip
    have split : (∃ n, KeyAt (k :: key) (b :: rest) n ∧ i = index + n) ↔
        ((k :: key) <+: (b :: rest) ∧ i = index) ∨
          ∃ n, KeyAt (k :: key) rest n ∧ i = index + 1 + n := by
      rw [← Nat.or_exists_add_one]
      simp only [keyAt_zero, keyAt_cons_succ, Nat.add_zero, Nat.add_assoc, Nat.add_comm 1]
    rw [split]
    cases skip with
    | succ skip =>
      rw [List.take_succ_cons, List.mem_cons, not_or] at hskip
      have hnot : ¬ (k :: key) <+: (b :: rest) := fun h =>
        hskip.1 (List.cons_prefix_cons.mp h).1
      simp [occurrences, ih hskip.2, hnot]
    | zero =>
      rw [occurrences]
      by_cases here : (k :: key) <+: (b :: rest)
      · -- the rest of this occurrence has no other start in it
        have hrest : k ∉ rest.take key.length := by
          obtain ⟨v, hv⟩ := (List.cons_prefix_cons.mp here).2
          rw [← hv]
          simpa using hk
        simp [here, ih hrest]
      · simp [here, ih]

/-- What is asked of an occurrence, of the bytes before it and after it. -/
theorem standsAlone_iff {bytes u key v : List UInt8} (hbytes : bytes = u ++ key ++ v)
    (within : u.length + key.length ≤ bytes.length) :
    standsAlone bytes key.length u.length within = true ↔
      (∀ b ∈ u.getLast?, isWordByte b = false) ∧ ∀ b ∈ v.head?, isWordByte b = false := by
  subst hbytes
  rw [standsAlone, Bool.and_eq_true]
  refine and_congr ?_ ?_
  · rcases List.eq_nil_or_concat u with rfl | ⟨start, b, rfl⟩
    · simp
    · simp
  · cases v with
    | nil => simp
    | cons b v => simp

theorem mem_occurrences_export {bytes : List UInt8} {i : Nat} :
    i ∈ occurrences (bytesOf keyword) 0 0 bytes ↔ KeyAt (bytesOf keyword) bytes i := by
  have hkey : bytesOf keyword = 0x65 :: [0x78, 0x70, 0x6f, 0x72, 0x74] := rfl
  rw [hkey, mem_occurrences_iff (by decide) bytes (by simp)]
  simp

theorem hasExport_iff (source : String) : hasExport source = true ↔ ExportStands source := by
  have hbytes : bytesOf source = source.toList.flatMap String.utf8EncodeChar := bytesOf_eq source
  have hkey : bytesOf keyword = ['e', 'x', 'p', 'o', 'r', 't'].flatMap String.utf8EncodeChar :=
    bytesOf_eq keyword
  simp only [hasExport, List.any_eq_true, List.mem_attach, true_and, Subtype.exists,
    mem_occurrences_export]
  constructor
  · rintro ⟨_, ⟨u, v, hparts, rfl⟩, hstands⟩
    obtain ⟨hbefore, hafter⟩ := (standsAlone_iff hparts _).mp hstands
    rw [hbytes, hkey] at hparts
    obtain ⟨before, after, hsource, rfl, rfl⟩ := flatMap_encode_split (by simp) hparts
    refine ⟨String.ofList before, String.ofList after, ?_, ?_, ?_⟩
    · rw [← String.toList_inj, hsource]
      simp
    · simpa using (getLast?_flatMap_encode before).mp hbefore
    · simpa using (head?_flatMap_encode after).mp hafter
  · rintro ⟨before, after, hsource, hbefore, hafter⟩
    have hparts : bytesOf source = before.toList.flatMap String.utf8EncodeChar ++ bytesOf keyword ++
        after.toList.flatMap String.utf8EncodeChar := by
      rw [hbytes, hkey, hsource]
      simp
    exact ⟨_, ⟨_, _, hparts, rfl⟩, (standsAlone_iff hparts _).mpr
      ⟨(getLast?_flatMap_encode _).mpr hbefore, (head?_flatMap_encode _).mpr hafter⟩⟩

/-! ### Wrapped text -/

/-- The last line of wrapped text exports. -/
theorem exportStands_append (start : String) :
    ExportStands (start ++ "\nexport default module.exports;\n") := by
  have hline : "\nexport default module.exports;\n" =
      "\n" ++ ("export" ++ " default module.exports;\n") := by decide
  refine ⟨start ++ "\n", " default module.exports;\n", ?_, fun c hc => ?_, fun c hc => ?_⟩
  · rw [hline, ← String.append_assoc, ← String.append_assoc]
  · rw [String.toList_append, List.getLast?_append] at hc
    obtain rfl : '\n' = c := Option.some.inj hc
    decide
  · obtain rfl : ' ' = c := Option.some.inj hc
    decide

/-- **The word `export` is found, and wrapping happens once.** -/
theorem export_found_wrapped_once (source : String) :
    (hasExport source = true ↔ ExportStands source) ∧ hasExport (ofSource source) = true ∧
      (∃ before after, ofSource source = before ++ source ++ after) ∧
      ofSource (ofSource source) = ofSource source := by
  have hstands : hasExport (ofSource source) = true := by
    unfold ofSource
    split
    · assumption
    · exact (hasExport_iff _).mpr (exportStands_append _)
  refine ⟨hasExport_iff source, hstands, ?_, if_pos hstands⟩
  unfold ofSource
  split
  · exact ⟨"", "", by simp⟩
  · exact ⟨_, _, rfl⟩

end ScriptBridge.ModuleText
