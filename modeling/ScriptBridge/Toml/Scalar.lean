import ScriptBridge.Number.Text

/-!
Scalars of TOML text: quoted text, numbers, and moments in time.

Readers take the characters that are left and give what they read with what is left after it,
or nothing when the text is not well formed.
-/
namespace ScriptBridge

/-- Reads something off the front of text. -/
abbrev TomlReader (α : Type) := List Char → Option (α × List Char)

namespace Toml

inductive Scalar where
  | text (s : List Char)
  | integer (i : Int)
  | float
  | bool (b : Bool)
  | moment
  deriving Repr, DecidableEq

/-! ### Blanks, lines and comments -/

def isBlank (c : Char) : Bool := c == ' ' || c == '\t'

/-- May the character stand in a comment or a quoted line? -/
def isPlain (c : Char) : Bool := c == '\t' || (32 ≤ c.toNat && c.toNat != 127)

def skipBlanks (cs : List Char) : List Char := cs.dropWhile isBlank

/-- The rest after the end of a line. -/
def lineEnd? : List Char → Option (List Char)
  | '\n' :: rest => some rest
  | '\r' :: '\n' :: rest => some rest
  | _ => none

/-- The rest after a comment, if there is one; its characters must be plain. -/
def skipComment (cs : List Char) : List Char :=
  match cs with
  | '#' :: rest => rest.dropWhile isPlain
  | cs => cs

/-- Passes over blanks, comments and ends of lines. -/
def skipSpace : Nat → List Char → List Char
  | 0, cs => cs
  | fuel + 1, cs =>
    let rest := skipComment (skipBlanks cs)
    match lineEnd? rest with
    | some more => skipSpace fuel more
    | none => rest

/-! ### Quoted text -/

def hexValue? (c : Char) : Option Nat :=
  if '0' ≤ c && c ≤ '9' then some (c.toNat - 48)
  else if 'a' ≤ c && c ≤ 'f' then some (c.toNat - 87)
  else if 'A' ≤ c && c ≤ 'F' then some (c.toNat - 55)
  else none

/-- The character that `count` hexadecimal digits name. -/
def hexChar (count : Nat) : TomlReader Char := fun cs =>
  let digits := (cs.take count).filterMap hexValue?
  let point := digits.foldl (fun n d => n * 16 + d) 0
  if digits.length == count && point.isValidChar then some (Char.ofNat point, cs.drop count)
  else none

/-- An escape after its backslash. -/
def escape : TomlReader Char
  | 'b' :: rest => some ('\x08', rest)
  | 't' :: rest => some ('\t', rest)
  | 'n' :: rest => some ('\n', rest)
  | 'f' :: rest => some ('\x0c', rest)
  | 'r' :: rest => some ('\r', rest)
  | 'e' :: rest => some ('\x1b', rest)
  | '"' :: rest => some ('"', rest)
  | '\\' :: rest => some ('\\', rest)
  | 'x' :: rest => hexChar 2 rest
  | 'u' :: rest => hexChar 4 rest
  | 'U' :: rest => hexChar 8 rest
  | _ => none

/-- Text on one line, after its opening quote; a quote of the same kind ends it. -/
def lineText (mark : Char) (escapes : Bool) : Nat → TomlReader (List Char)
  | 0, _ => none
  | _, [] => none
  | fuel + 1, c :: rest =>
    if c == mark then some ([], rest)
    else if escapes && c == '\\' then do
      let (d, rest) ← escape rest
      let (more, rest) ← lineText mark escapes fuel rest
      return (d :: more, rest)
    else if isPlain c then do
      let (more, rest) ← lineText mark escapes fuel rest
      return (c :: more, rest)
    else none

/-- Passes over blanks and ends of lines. -/
def skipLines : Nat → List Char → List Char
  | 0, cs => cs
  | fuel + 1, cs =>
    let rest := skipBlanks cs
    match lineEnd? rest with
    | some more => skipLines fuel more
    | none => rest

/-- The rest after blanks and at least one end of line, and all blank lines that follow. -/
def foldedLines? (cs : List Char) : Option (List Char) :=
  (lineEnd? (skipBlanks cs)).map fun rest => skipLines rest.length rest

/-- Text over lines, after its opening quotes; three quotes of the same kind end it, and up to
two more before them belong to it. -/
def blockText (mark : Char) (escapes : Bool) : Nat → TomlReader (List Char)
  | 0, _ => none
  | _, [] => none
  | fuel + 1, c :: rest =>
    if c == mark then
      let run := 1 + (rest.takeWhile (· == mark)).length
      if run ≥ 3 then
        let taken := min run 5
        some (List.replicate (taken - 3) mark, rest.drop (taken - 1))
      else do
        let (more, rest) ← blockText mark escapes fuel rest
        return (c :: more, rest)
    else if escapes && c == '\\' then
      match foldedLines? rest with
      | some rest => blockText mark escapes fuel rest
      | none => do
        let (d, rest) ← escape rest
        let (more, rest) ← blockText mark escapes fuel rest
        return (d :: more, rest)
    else if isPlain c || c == '\n' then do
      let (more, rest) ← blockText mark escapes fuel rest
      return (c :: more, rest)
    else
      match lineEnd? (c :: rest) with
      | some rest => do
        let (more, rest) ← blockText mark escapes fuel rest
        return ('\n' :: more, rest)
      | none => none

/-- Text in quotes of one kind, on a line or over lines. -/
def quoted (mark : Char) (escapes : Bool) : TomlReader (List Char) := fun cs =>
  match cs with
  | a :: b :: c :: rest =>
    if a == mark && b == mark && c == mark then
      let rest := (lineEnd? rest).getD rest
      blockText mark escapes (rest.length + 1) rest
    else if a == mark then lineText mark escapes (cs.length + 1) (b :: c :: rest)
    else none
  | a :: rest => if a == mark then lineText mark escapes (cs.length + 1) rest else none
  | [] => none

/-! ### Numbers -/

def isDigitOf (base : Nat) (c : Char) : Bool := (hexValue? c).any fun d => d < base

/-- Digits of a base, with underscores between two of them only. -/
def digits? (base : Nat) : List Char → Option (List Char)
  | [] => none
  | [c] => if isDigitOf base c then some [c] else none
  | c :: '_' :: rest => if isDigitOf base c then (digits? base rest).map (c :: ·) else none
  | c :: rest => if isDigitOf base c then (digits? base rest).map (c :: ·) else none

def number (base : Nat) (ds : List Char) : Nat :=
  ds.foldl (fun n c => n * base + (hexValue? c).getD 0) 0

/-- A whole number in decimal, without needless zeros. -/
def wholeDigits? (word : List Char) : Option (List Char) := do
  let ds ← digits? 10 word
  if ds.head? == some '0' && ds.length > 1 then none else some ds

/-- The power of ten of a float, after its letter. -/
def isPower (word : List Char) : Bool :=
  match word with
  | '+' :: rest | '-' :: rest => (digits? 10 rest).isSome
  | word => (digits? 10 word).isSome

def isPowerMark (c : Char) : Bool := c == 'e' || c == 'E'

/-- Is the word a float without its sign? -/
def isFloat (word : List Char) : Bool :=
  let mantissa := word.takeWhile fun c => !isPowerMark c
  let power := word.dropWhile fun c => !isPowerMark c
  let whole := mantissa.takeWhile (· != '.')
  let fraction := mantissa.dropWhile (· != '.')
  (wholeDigits? whole).isSome
    && (match fraction with
      | [] => !power.isEmpty
      | _ :: places => (digits? 10 places).isSome)
    && (match power with
      | [] => true
      | _ :: p => isPower p)

/-- No number in digits stands for an infinite float. -/
def fitsFloat (word : List Char) : Bool :=
  match Number.takeDecimal (word.filter (· != '_')) with
  | some (x, _) => Number.isFinite x
  | none => false

def unsigned? (word : List Char) : Option Scalar :=
  if word == ['i', 'n', 'f'] || word == ['n', 'a', 'n'] then some .float
  else
    match wholeDigits? word with
    | some ds => some (.integer (number 10 ds))
    | none => if isFloat word && fitsFloat word then some .float else none

def number? (word : List Char) : Option Scalar :=
  match word with
  | '+' :: rest => unsigned? rest
  | '-' :: rest =>
    (unsigned? rest).map fun s =>
      match s with
      | .integer i => .integer (-i)
      | s => s
  | '0' :: 'x' :: rest => (digits? 16 rest).map fun ds => .integer (number 16 ds)
  | '0' :: 'o' :: rest => (digits? 8 rest).map fun ds => .integer (number 8 ds)
  | '0' :: 'b' :: rest => (digits? 2 rest).map fun ds => .integer (number 2 ds)
  | word => unsigned? word

/-! ### Moments -/

/-- A number of exactly `count` digits at the front. -/
def fixed (count : Nat) : TomlReader Nat := fun cs =>
  let ds := cs.take count
  if ds.length == count && ds.all (isDigitOf 10) then some (number 10 ds, cs.drop count) else none

def mark (c : Char) : TomlReader Unit
  | d :: rest => if c == d then some ((), rest) else none
  | [] => none

def daysOf (year month : Nat) : Nat :=
  if month == 2 then
    if year % 4 == 0 && (year % 100 != 0 || year % 400 == 0) then 29 else 28
  else if month == 4 || month == 6 || month == 9 || month == 11 then 30
  else 31

def date : TomlReader Unit := fun cs => do
  let (year, cs) ← fixed 4 cs
  let (_, cs) ← mark '-' cs
  let (month, cs) ← fixed 2 cs
  let (_, cs) ← mark '-' cs
  let (day, cs) ← fixed 2 cs
  if 1 ≤ month && month ≤ 12 && 1 ≤ day && day ≤ daysOf year month then some ((), cs) else none

/-- Seconds, which may be left out, with their fraction. -/
def seconds : TomlReader Unit := fun cs =>
  match cs with
  | ':' :: rest => do
    let (second, rest) ← fixed 2 rest
    if second > 60 then none
    else
      match rest with
      | '.' :: places =>
        if (places.takeWhile (isDigitOf 10)).isEmpty then none
        else some ((), places.dropWhile (isDigitOf 10))
      | rest => some ((), rest)
  | cs => some ((), cs)

def time : TomlReader Unit := fun cs => do
  let (hour, cs) ← fixed 2 cs
  let (_, cs) ← mark ':' cs
  let (minute, cs) ← fixed 2 cs
  if hour ≤ 23 && minute ≤ 59 then seconds cs else none

def offset : TomlReader Unit := fun cs =>
  match cs with
  | 'Z' :: rest | 'z' :: rest => some ((), rest)
  | '+' :: rest | '-' :: rest => do
    let (hour, rest) ← fixed 2 rest
    let (_, rest) ← mark ':' rest
    let (minute, rest) ← fixed 2 rest
    if hour ≤ 23 && minute ≤ 59 then some ((), rest) else none
  | cs => some ((), cs)

/-- Is the text a time, a date, or a date with a time? -/
def isMoment (cs : List Char) : Bool :=
  match time cs with
  | some (_, []) => true
  | _ =>
    match date cs with
    | some (_, []) => true
    | some (_, sep :: rest) =>
      (sep == 'T' || sep == 't' || sep == ' ')
        && (match time rest with
          | some (_, rest) =>
            match offset rest with
            | some (_, []) => true
            | _ => false
          | none => false)
    | none => false

/-! ### Words -/

def isWordChar (c : Char) : Bool :=
  ('a' ≤ c && c ≤ 'z') || ('A' ≤ c && c ≤ 'Z') || ('0' ≤ c && c ≤ '9')
    || c == '_' || c == '+' || c == '-' || c == '.' || c == ':'

def scalarOfWord? (word : List Char) : Option Scalar :=
  if word == ['t', 'r', 'u', 'e'] then some (.bool true)
  else if word == ['f', 'a', 'l', 's', 'e'] then some (.bool false)
  else
    match number? word with
    | some s => some s
    | none => if isMoment word then some .moment else none

/-- A scalar without quotes.  A date may have its time after one blank. -/
def bare : TomlReader Scalar := fun cs =>
  let word := cs.takeWhile isWordChar
  let rest := cs.dropWhile isWordChar
  let timed := match rest with
    | ' ' :: more => word ++ ' ' :: more.takeWhile isWordChar
    | _ => word
  if timed != word && isMoment timed then some (.moment, rest.drop (timed.length - word.length))
  else (scalarOfWord? word).map fun s => (s, rest)

def scalar : TomlReader Scalar := fun cs =>
  match cs with
  | '"' :: _ => (quoted '"' true cs).map fun r => (.text r.1, r.2)
  | '\'' :: _ => (quoted '\'' false cs).map fun r => (.text r.1, r.2)
  | cs => bare cs

end Toml

end ScriptBridge
