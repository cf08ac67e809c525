import ScriptBridge.Proofs.DecimalText
import ScriptBridge.Settings.Toml

/-!
Lines of a settings file, one by one.

A line of a key and its value adds one entry to the table under way (`line_entry`), for a key that needs no quotes and
a value whose text is read to the end of its line (`Stands`): a word, such as a number or a flag, or text in quotes.  A
line in brackets goes on under a header (`line_header`).  A text of lines takes the document from one to the next
(`Document.Reads`), and a whole text is what its lines bring the empty document to.
-/
namespace ScriptBridge.Toml

open TomlTable Number

variable {c : Char} {word rest : List Char} {n base depth fuel : Nat} {d d' d'' : Document}

theorem not_mem_of_stops {p : Char → Bool} {marks : List Char} (hmarks : ∀ c ∈ marks, p c = false) (hc : p c) :
    c ∉ marks := fun hmem => by simp [hmarks c hmem] at hc

theorem skipBlanks_cons (h : isBlank c = false) : skipBlanks (c :: rest) = c :: rest :=
  List.dropWhile_cons_of_neg (by simp [h])

/-! ### Keys -/

/-- The characters of a key that needs no quotes. -/
def Bare (word : List Char) : Prop := word ≠ [] ∧ word.all isKeyChar

instance (word : List Char) : Decidable (Bare word) := inferInstanceAs (Decidable (_ ∧ _))

theorem isKeyChar_mark : ∀ c ∈ [' ', '\t', '\n', '\r', '"', '\'', '[', '#'], isKeyChar c = false := by
  simp [isKeyChar]

theorem Bare.isKeyChar (h : Bare word) : ∀ c ∈ word, isKeyChar c := List.all_eq_true.mp h.2

theorem Bare.exists_cons (h : Bare word) :
    ∃ c more, word = c :: more ∧ c ∉ [' ', '\t', '\n', '\r', '"', '\'', '[', '#'] := by
  obtain ⟨c, more, rfl⟩ := List.exists_cons_of_ne_nil h.1
  exact ⟨c, more, rfl, not_mem_of_stops isKeyChar_mark (h.isKeyChar c List.mem_cons_self)⟩

theorem keyPart_bare (h : Bare word) (hstop : ∀ c ∈ rest.head?, isKeyChar c = false) :
    keyPart (word ++ rest) = some (String.ofList word, rest) := by
  have htake := Text.takeWhile_append_of_stop h.isKeyChar hstop
  have hdrop := Text.dropWhile_append_of_stop h.isKeyChar hstop
  obtain ⟨c, more, rfl, hc⟩ := h.exists_cons
  unfold keyPart
  split
  case h_1 heq => simp_all
  case h_2 heq => simp_all
  case h_3 => rw [htake, hdrop]; rfl

theorem key_bare (rest : List Char) (h : Bare word) (hstop : ∀ c ∈ rest.head?, isKeyChar c = false)
    (hdot : ∀ c ∈ (skipBlanks rest).head?, c ≠ '.') :
    key (word ++ rest) = some (([], String.ofList word), skipBlanks rest) := by
  have hparts : keyParts ((word ++ rest).length + 1) (word ++ rest)
      = some (([], String.ofList word), skipBlanks rest) := by
    rw [keyParts, keyPart_bare h hstop]
    simp only [Option.bind_eq_bind, Option.bind_some]
    split
    case h_1 heq => simp [heq] at hdot
    case h_2 => rfl
  rw [key, hparts]
  rfl

/-! ### Values -/

/-- The text is read as the value where a line ends after it. -/
structure Stands (text : List Char) (v : TomlValue) : Prop where
  opens (rest : List Char) : skipBlanks (text ++ '\n' :: rest) = text ++ '\n' :: rest
  reads (fuel depth : Nat) (rest : List Char) :
    value (fuel + 1) depth (text ++ '\n' :: rest) = some (v, '\n' :: rest)

theorem isWordChar_mark : ∀ c ∈ [' ', '\t', '"', '\'', '[', '\x7b'], isWordChar c = false := by
  simp [isWordChar]

theorem bare_word (rest : List Char) (h : ∀ c ∈ word, isWordChar c) :
    bare (word ++ '\n' :: rest) = (scalarOfWord? word).map fun s => (s, '\n' :: rest) := by
  have hstop : ∀ c ∈ ('\n' :: rest).head?, isWordChar c = false := by simp +decide
  simp [bare, Text.takeWhile_append_of_stop h hstop, Text.dropWhile_append_of_stop h hstop]

theorem stands_word {s : Scalar} (hne : word ≠ []) (h : ∀ c ∈ word, isWordChar c)
    (hscalar : scalarOfWord? word = some s) : Stands word (.scalar s) := by
  have hbare := fun rest => bare_word rest h
  obtain ⟨c, more, rfl⟩ := List.exists_cons_of_ne_nil hne
  have hc := not_mem_of_stops isWordChar_mark (h c List.mem_cons_self)
  simp only [List.mem_cons, List.not_mem_nil, or_false, not_or] at hc
  constructor
  case opens => exact fun rest => skipBlanks_cons (by simp [isBlank, hc])
  case reads =>
    intro fuel depth rest
    have hvalue : scalar (c :: more ++ '\n' :: rest) = some (s, '\n' :: rest) := by
      unfold scalar
      split
      case h_1 heq => simp_all
      case h_2 heq => simp_all
      case h_3 => rw [hbare, hscalar]; rfl
    unfold value
    split
    case h_1 heq => simp_all
    case h_2 heq => simp_all
    case h_3 => rw [hvalue]; rfl

theorem stands_flag (b : Bool) : Stands (Settings.flagChars b) (.scalar (.bool b)) := by
  cases b
  · exact stands_word (by decide) (by simp [Settings.flagChars, isWordChar]) rfl
  · exact stands_word (by decide) (by simp [Settings.flagChars, isWordChar]) rfl

/-! ### Numbers -/

theorem hexValue?_digit (h : c.isDigit) : hexValue? c = some (c.toNat - 48) := by
  have hrange : '0' ≤ c ∧ c ≤ '9' := by simpa [Char.isDigit, Char.le_def] using h
  simp [hexValue?, hrange]

theorem isDigitOf_ten (h : c.isDigit) : isDigitOf 10 c := by
  have hrange : 48 ≤ c.toNat ∧ c.toNat ≤ 57 := Char.isDigit_iff_toNat.mp h
  rw [isDigitOf, hexValue?_digit h]
  exact decide_eq_true (by omega)

theorem isDigitOf_underscore : isDigitOf base '_' = false := rfl

theorem digits?_all (hne : word ≠ []) (h : ∀ c ∈ word, isDigitOf base c) : digits? base word = some word := by
  induction word with
  | nil => cases hne rfl
  | cons c word ih =>
    obtain ⟨hc, hword⟩ := List.forall_mem_cons.mp h
    -- the pattern looks one character ahead, for an underscore
    cases word with
    | nil => simp [digits?, hc]
    | cons d word =>
      have hd : d ≠ '_' := by
        rintro rfl
        exact absurd (hword '_' List.mem_cons_self) (by simp [isDigitOf_underscore])
      rw [digits?, if_pos hc, ih (by simp) hword]
      · rfl
      · simp
      · simp [hd]

theorem number_ten (h : ∀ c ∈ word, c.isDigit) : number 10 word = Nat.ofDigitChars 10 word 0 := by
  suffices hfold : ∀ n, word.foldl (fun n c => n * 10 + (hexValue? c).getD 0) n = Nat.ofDigitChars 10 word n from
    hfold 0
  induction word with
  | nil => exact fun n => rfl
  | cons c word ih =>
    intro n
    obtain ⟨hc, hword⟩ := List.forall_mem_cons.mp h
    rw [List.foldl_cons, Nat.ofDigitChars_cons, ih hword, hexValue?_digit hc, Nat.mul_comm]
    rfl

theorem wholeDigits?_digitChars (n : Nat) : wholeDigits? (digitChars n) = some (digitChars n) := by
  have hdigits : digits? 10 (digitChars n) = some (digitChars n) :=
    digits?_all (digitChars_ne_nil n) fun c hc => isDigitOf_ten (isDigit_of_mem_digitChars hc)
  have hzero : ¬ ((digitChars n).head? = some '0' ∧ 1 < (digitChars n).length) := by
    rintro ⟨hhead, hlength⟩
    obtain ⟨more, heq⟩ := List.head?_eq_some_iff.mp hhead
    obtain rfl := eq_nil_of_digitChars_eq heq
    simp [heq] at hlength
  rw [wholeDigits?, hdigits]
  simpa using hzero

/-- The digits of a number are no text with another sign in it. -/
theorem digitChars_ne (hmem : c ∈ word) (hc : c.isDigit = false) : digitChars n ≠ word := by
  rintro rfl
  rw [isDigit_of_mem_digitChars hmem] at hc
  cases hc

theorem unsigned?_digitChars (n : Nat) : unsigned? (digitChars n) = some (.integer n) := by
  have hvalue : number 10 (digitChars n) = n := by
    rw [number_ten fun c hc => isDigit_of_mem_digitChars hc, ofDigitChars_digitChars]
  have hinf : digitChars n ≠ ['i', 'n', 'f'] := digitChars_ne List.mem_cons_self rfl
  have hnan : digitChars n ≠ ['n', 'a', 'n'] := digitChars_ne List.mem_cons_self rfl
  rw [unsigned?, wholeDigits?_digitChars]
  simp [hinf, hnan, hvalue]

theorem number?_digitChars (n : Nat) : number? (digitChars n) = some (.integer n) := by
  unfold number?
  split
  case h_1 heq | h_2 heq => exact absurd heq (digitChars_ne List.mem_cons_self rfl)
  case h_3 heq | h_4 heq | h_5 heq =>
    exact absurd heq (digitChars_ne (List.mem_cons_of_mem _ List.mem_cons_self) rfl)
  case h_6 => exact unsigned?_digitChars n

theorem scalarOfWord?_digitChars (n : Nat) : scalarOfWord? (digitChars n) = some (.integer n) := by
  have htrue : digitChars n ≠ ['t', 'r', 'u', 'e'] := digitChars_ne List.mem_cons_self rfl
  have hfalse : digitChars n ≠ ['f', 'a', 'l', 's', 'e'] := digitChars_ne List.mem_cons_self rfl
  simp [scalarOfWord?, htrue, hfalse, number?_digitChars]

theorem isWordChar_digit (h : c.isDigit) : isWordChar c := by
  have hrange : '0' ≤ c ∧ c ≤ '9' := by simpa [Char.isDigit, Char.le_def] using h
  simp [isWordChar, hrange]

theorem stands_size (n : UInt64) : Stands (Settings.sizeChars n) (.scalar (.integer n.toNat)) :=
  stands_word (digitChars_ne_nil _) (fun _ hc => isWordChar_digit (isDigit_of_mem_digitChars hc))
    (scalarOfWord?_digitChars _)

/-! ### Text in quotes -/

theorem lineText_plain (mark : Char) (escapes : Bool) (rest : List Char)
    (h : ∀ c ∈ word, isPlain c ∧ c ≠ mark ∧ c ≠ '\\') (hfuel : word.length < fuel) :
    lineText mark escapes fuel (word ++ mark :: rest) = some (word, rest) := by
  induction word generalizing fuel with
  | nil =>
    obtain ⟨fuel, rfl⟩ := Nat.exists_eq_add_one_of_ne_zero (Nat.ne_of_gt hfuel)
    simp [lineText]
  | cons c word ih =>
    obtain ⟨fuel, rfl⟩ := Nat.exists_eq_add_one_of_ne_zero (Nat.ne_of_gt (Nat.zero_lt_of_lt hfuel))
    obtain ⟨⟨hplain, hmark, hescape⟩, hword⟩ := List.forall_mem_cons.mp h
    rw [List.cons_append, lineText, ih hword (by simpa using hfuel)]
    simp [hplain, hmark, hescape]

theorem quoted_plain (hne : word ≠ []) (h : ∀ c ∈ word, isPlain c ∧ c ≠ '"' ∧ c ≠ '\\') :
    quoted '"' true ('"' :: word ++ '"' :: rest) = some (word, rest) := by
  have hfuel : word.length < ('"' :: word ++ '"' :: rest).length + 1 := by
    simp only [List.length_append, List.length_cons]
    omega
  have htext := lineText_plain '"' true rest h hfuel
  obtain ⟨c, word, rfl⟩ := List.exists_cons_of_ne_nil hne
  have hc : c ≠ '"' := (h c List.mem_cons_self).2.1
  obtain ⟨e, more, hmore⟩ : ∃ e more, word ++ '"' :: rest = e :: more := List.exists_cons_of_ne_nil (by simp)
  simp only [List.cons_append, hmore] at htext ⊢
  simpa [quoted, hc] using htext

theorem stands_text (hne : word ≠ []) (h : ∀ c ∈ word, isPlain c ∧ c ≠ '"' ∧ c ≠ '\\') :
    Stands ('"' :: word ++ ['"']) (.scalar (.text word)) where
  opens rest := skipBlanks_cons rfl
  reads fuel depth rest := by
    have hscalar : scalar ('"' :: word ++ '"' :: '\n' :: rest) = some (.text word, '\n' :: rest) := by
      rw [List.cons_append, scalar, ← List.cons_append, quoted_plain hne h]
      rfl
    rw [List.append_assoc, List.singleton_append, value, hscalar]
    · rfl
    · simp
    · simp

/-! ### Lines -/

theorem restOfLine?_end : restOfLine? ('\n' :: rest) = some rest := rfl

theorem set_new {t : TomlTable} {key : String} {v : TomlValue} (h : t.get? key = none) :
    t.set key v = t ++ [(key, v)] := by
  induction t with
  | nil => rfl
  | cons e t ih =>
    obtain ⟨k, w⟩ := e
    rw [get?, List.lookup_cons] at h
    cases hkey : key == k with
    | true => simp [hkey] at h
    | false =>
      have hother : (k == key) = false := by rwa [BEq.comm]
      rw [hkey] at h
      rw [TomlTable.set, hother, ih h]
      rfl

theorem assign_new {t : TomlTable} {key : String} {v : TomlValue} (h : t.get? key = none) :
    t.assign [] key v = some (t ++ [(key, v)]) := by
  rw [assign, addNew, h, set_new h]
  rfl

theorem Bare.skipBlanks_append (h : Bare word) : skipBlanks (word ++ rest) = word ++ rest := by
  obtain ⟨c, more, rfl, hc⟩ := h.exists_cons
  exact skipBlanks_cons (by simp_all [isBlank])

theorem restOfLine?_bare (rest : List Char) (h : Bare word) : restOfLine? (word ++ rest) = none := by
  rw [restOfLine?, h.skipBlanks_append]
  obtain ⟨c, more, rfl, hc⟩ := h.exists_cons
  simp only [List.mem_cons, List.not_mem_nil, or_false, not_or] at hc
  have hcomment : skipComment (c :: more ++ rest) = c :: more ++ rest := by
    unfold skipComment
    split
    case h_1 heq => simp_all
    case h_2 => rfl
  rw [hcomment]
  unfold lineEnd?
  simp [hc]

/-- A line of a key and its value adds the entry. -/
theorem line_entry {key : String} {text : List Char} {v : TomlValue} (hkey : Bare key.toList) (htext : Stands text v)
    (hnew : d.lines.get? key = none) :
    line d (Settings.tomlLine key text ++ rest) = some ({ d with lines := d.lines ++ [(key, v)] }, rest) := by
  have hread := key_bare (' ' :: '=' :: ' ' :: (text ++ '\n' :: rest)) hkey (by simp +decide)
    (by simp +decide [skipBlanks])
  have hnone := restOfLine?_bare (' ' :: '=' :: ' ' :: (text ++ '\n' :: rest)) hkey
  have hblanks : skipBlanks (' ' :: (text ++ '\n' :: rest)) = text ++ '\n' :: rest := htext.opens rest
  -- by its first character the line is no header, and by the same not blank
  have hbracket : ∀ more, key.toList ++ ' ' :: '=' :: ' ' :: (text ++ '\n' :: rest) ≠ '[' :: more := by
    obtain ⟨c, others, hcons, hc⟩ := hkey.exists_cons
    simp_all
  rw [String.ofList_toList] at hread
  rw [Settings.tomlLine]
  simp only [List.append_assoc, List.cons_append, List.nil_append]
  unfold line
  rw [hkey.skipBlanks_append]
  split
  case h_1 heq => exact absurd heq (hbracket _)
  case h_2 heq => exact absurd heq (hbracket _)
  case h_3 =>
    rw [hnone, hread]
    show ((value _ depthLimit (skipBlanks (' ' :: (text ++ '\n' :: rest)))).bind fun r =>
      (d.lines.assign [] key r.1).bind fun lines => (restOfLine? r.2).bind fun rest =>
        some ({ d with lines := lines }, rest)) = _
    rw [hblanks, htext.reads]
    simp only [Option.bind_some, assign_new hnew, restOfLine?_end]

theorem line_blank : line d ('\n' :: rest) = some (d, rest) := rfl

/-- A line in brackets goes on under the header. -/
theorem line_header (word rest : List Char) (h : Bare word) :
    line d ('[' :: word ++ ']' :: '\n' :: rest)
      = (d.enter (.table [] (String.ofList word))).map fun d => (d, rest) := by
  have hread := key_bare (']' :: '\n' :: rest) h (by simp +decide) (by simp +decide [skipBlanks])
  have hheader : header false (word ++ ']' :: '\n' :: rest) = some (.table [] (String.ofList word), '\n' :: rest) := by
    rw [header, h.skipBlanks_append, hread]
    rfl
  have hbracket : ∀ more, word ++ ']' :: '\n' :: rest ≠ '[' :: more := by
    obtain ⟨c, others, hcons, hc⟩ := h.exists_cons
    simp_all
  unfold line
  rw [List.cons_append, skipBlanks_cons rfl]
  split
  case h_1 heq => exact absurd (List.cons.inj heq).2 (hbracket _)
  case h_2 heq =>
    rw [← (List.cons.inj heq).2, hheader]
    cases hplace : d.enter (.table [] (String.ofList word)) with
    | none => simp [hplace]
    | some d => simp [hplace, restOfLine?_end]
  case h_3 heq => simp at heq

/-! ### Documents -/

/-- The text is lines that bring the document from `d` to `d'`. -/
def Document.Reads (d : Document) (cs : List Char) (d' : Document) : Prop :=
  ∃ n ≤ cs.length, ∀ fuel rest, document d (fuel + n) (cs ++ rest) = document d' fuel rest

theorem Document.Reads.append {cs cs' : List Char} (h : d.Reads cs d') (h' : d'.Reads cs' d'') :
    d.Reads (cs ++ cs') d'' := by
  obtain ⟨n, hn, hlines⟩ := h
  obtain ⟨n', hn', hlines'⟩ := h'
  refine ⟨n' + n, by rw [List.length_append]; omega, fun fuel rest => ?_⟩
  rw [List.append_assoc, ← Nat.add_assoc, hlines, hlines']

theorem reads_line {cs : List Char} (hne : cs ≠ []) (h : ∀ rest, line d (cs ++ rest) = some (d', rest)) :
    d.Reads cs d' := by
  refine ⟨1, List.length_pos_iff.mpr hne, fun fuel rest => ?_⟩
  obtain ⟨c, cs, rfl⟩ := List.exists_cons_of_ne_nil hne
  have hline := h rest
  rw [List.cons_append] at hline ⊢
  rw [document, hline]
  · rfl
  · exact List.cons_ne_nil _ _

theorem reads_entry {key : String} {text : List Char} {v : TomlValue} (hkey : Bare key.toList) (htext : Stands text v)
    (hnew : d.lines.get? key = none) :
    d.Reads (Settings.tomlLine key text) { d with lines := d.lines ++ [(key, v)] } :=
  reads_line (by simp [Settings.tomlLine]) fun _ => line_entry hkey htext hnew

theorem parse?_of_reads {text : List Char} (hmark : text.head? ≠ some '\ufeff') (h : Document.empty.Reads text d) :
    parse? (String.ofList text) = d.close := by
  obtain ⟨n, hn, hlines⟩ := h
  -- each line costs one of the fuel, and there are no more lines than characters
  have hdocument : document .empty (text.length + 1) text = some d := by
    have hall := hlines (text.length - n + 1) []
    rw [List.append_nil, show text.length - n + 1 + n = text.length + 1 by omega] at hall
    exact hall
  unfold parse?
  rw [String.toList_ofList]
  split
  case h_1 => exact absurd rfl hmark
  case h_2 =>
    dsimp only
    rw [hdocument]
    rfl

end ScriptBridge.Toml
