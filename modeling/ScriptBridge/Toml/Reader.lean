import ScriptBridge.Toml.Value

/-!
Reading TOML text: keys, values, and the lines of a document.

`parse?` gives the table of a whole text, or nothing when the text is not well formed or names
the same thing twice.
-/
namespace ScriptBridge.Toml

open TomlTable

/-! ### Keys -/

def isKeyChar (c : Char) : Bool :=
  ('a' ≤ c && c ≤ 'z') || ('A' ≤ c && c ≤ 'Z') || ('0' ≤ c && c ≤ '9') || c == '_' || c == '-'

/-- One part of a key; quoted parts stay on their line. -/
def keyPart : TomlReader String := fun cs =>
  match cs with
  | '"' :: rest => (lineText '"' true cs.length rest).map fun r => (String.ofList r.1, r.2)
  | '\'' :: rest => (lineText '\'' false cs.length rest).map fun r => (String.ofList r.1, r.2)
  | cs =>
    let word := cs.takeWhile isKeyChar
    if word.isEmpty then none else some (String.ofList word, cs.dropWhile isKeyChar)

/-- Parts of a key with dots between them, and blanks around the dots. -/
def keyParts : Nat → TomlReader (List String × String)
  | 0, _ => none
  | fuel + 1, cs => do
    let (part, rest) ← keyPart cs
    match skipBlanks rest with
    | '.' :: more =>
      let ((path, key), rest) ← keyParts fuel (skipBlanks more)
      return ((part :: path, key), rest)
    | rest => return (([], part), rest)

/-- Levels of brackets that a value may have, and parts that a key may have. -/
def depthLimit : Nat := 80

def key : TomlReader (List String × String) := fun cs => do
  let ((path, name), rest) ← keyParts (cs.length + 1) cs
  if path.length < depthLimit then some ((path, name), rest) else none

/-! ### Values -/

mutual

/-- A value.  `depth` levels of brackets are left, and `fuel` is more than the text is long. -/
def value (fuel depth : Nat) (cs : List Char) : Option (TomlValue × List Char) :=
  match fuel with
  | 0 => none
  | fuel + 1 =>
    match cs with
    | '[' :: rest =>
      match depth with
      | 0 => none
      | depth + 1 => do
        let (items, rest) ← arrayItems fuel depth rest
        return (.array items, rest)
    | '\x7b' :: rest =>
      match depth with
      | 0 => none
      | depth + 1 => do
        let (entries, rest) ← inlineEntries fuel depth [] rest
        return (.table .closed entries, rest)
    | cs => (scalar cs).map fun r => (.scalar r.1, r.2)

/-- Items of an array, up to its closing bracket. -/
def arrayItems (fuel depth : Nat) (cs : List Char) : Option (List TomlValue × List Char) :=
  match fuel with
  | 0 => none
  | fuel + 1 =>
    match skipSpace cs.length cs with
    | ']' :: rest => some ([], rest)
    | cs => do
      let (item, rest) ← value fuel depth cs
      match skipSpace rest.length rest with
      | ']' :: rest => return ([item], rest)
      | ',' :: rest =>
        let (more, rest) ← arrayItems fuel depth rest
        return (item :: more, rest)
      | _ => none

/-- Entries of a table in braces, up to its closing brace, added to those before. -/
def inlineEntries (fuel depth : Nat) (before : TomlTable) (cs : List Char) :
    Option (TomlTable × List Char) :=
  match fuel with
  | 0 => none
  | fuel + 1 =>
    match skipSpace cs.length cs with
    | '\x7d' :: rest => some (before, rest)
    | cs => do
      let ((path, name), rest) ← key cs
      match skipSpace rest.length rest with
      | '=' :: rest =>
        let (v, rest) ← value fuel depth (skipSpace rest.length rest)
        let entries ← before.assign path name v
        match skipSpace rest.length rest with
        | '\x7d' :: rest => return (entries, rest)
        | ',' :: rest => inlineEntries fuel depth entries rest
        | _ => none
      | _ => none

end

/-! ### Lines -/

/-- Where the lines after a header go. -/
inductive Place where
  | root
  | table (path : List String) (key : String)
  | item (path : List String) (key : String)

/-- The document as far as it has been read: what is closed, and the table under way. -/
structure Document where
  root : TomlTable
  place : Place
  lines : TomlTable

def Document.empty : Document := ⟨[], .root, []⟩

/-- Puts the table under way into its place. -/
def Document.close (d : Document) : Option TomlTable :=
  match d.place with
  | .root => some d.lines
  | .table path key => d.root.addTable path key d.lines
  | .item path key => d.root.addItem path key d.lines

/-- Goes on under a new header. -/
def Document.enter (d : Document) (place : Place) : Option Document := do
  let root ← d.close
  match place with
  | .root => return ⟨root, .root, []⟩
  | .table path key =>
    let (root, lines) ← root.openTable path key
    return ⟨root, .table path key, lines⟩
  | .item path key =>
    let _ ← root.addItem path key []
    return ⟨root, .item path key, []⟩

/-- The rest after blanks, a comment and the end of the line or of the text. -/
def restOfLine? (cs : List Char) : Option (List Char) :=
  match skipComment (skipBlanks cs) with
  | [] => some []
  | cs => lineEnd? cs

/-- A header after its opening brackets, without what follows it on its line. -/
def header (double : Bool) : TomlReader Place := fun cs => do
  let ((path, name), rest) ← key (skipBlanks cs)
  match skipBlanks rest with
  | ']' :: rest =>
    if double then
      match rest with
      | ']' :: rest => return (.item path name, rest)
      | _ => none
    else return (.table path name, rest)
  | _ => none

/-- One line: nothing, a header, or a key with its value. -/
def line (d : Document) (cs : List Char) : Option (Document × List Char) := do
  match skipBlanks cs with
  | '[' :: '[' :: rest =>
    let (place, rest) ← header true rest
    return (← d.enter place, ← restOfLine? rest)
  | '[' :: rest =>
    let (place, rest) ← header false rest
    return (← d.enter place, ← restOfLine? rest)
  | cs =>
    match restOfLine? cs with
    | some rest => return (d, rest)
    | none =>
      let ((path, name), rest) ← key cs
      match skipBlanks rest with
      | '=' :: rest =>
        let (v, rest) ← value (2 * rest.length + 2) depthLimit (skipBlanks rest)
        let lines ← d.lines.assign path name v
        return ({ d with lines := lines }, ← restOfLine? rest)
      | _ => none

/-- All lines; `fuel` is more than their number. -/
def document (d : Document) : Nat → List Char → Option Document
  | 0, _ => none
  | _, [] => some d
  | fuel + 1, cs => do
    let (d, rest) ← line d cs
    document d fuel rest

/-- The table of a text.  A byte order mark in front of it says nothing. -/
def parse? (text : String) : Option TomlTable := do
  let cs := match text.toList with
    | '\ufeff' :: rest => rest
    | cs => cs
  let d ← document .empty (cs.length + 1) cs
  d.close

end ScriptBridge.Toml
