import ScriptBridge.Number.Base
import ScriptBridge.Text.Letters
import ScriptBridge.Text.Units

/-!
Tokens, and the division of a program's text into them.

`tokenize` is total: a place where no token starts gives one `bad` token with the reason, and
the list always ends in `eof`.  Whether a slash starts a regular expression is guessed from the
token before it; a reader that knows better names the places where one does.
-/
namespace ScriptBridge.Script

open Text Number

inductive TokenKind where
  | identifier (name : String) (escaped : Bool)
  | secret (name : String)
  /-- `legacy` numbers begin with a zero and another digit -/
  | number (x : Float) (legacy : Bool)
  | bigint (n : Nat)
  /-- `lenient` says why strict code refuses the string -/
  | string (u : Units) (lenient : Option String)
  /-- text of a template from its start (`head`) or a value, up to its next value or to its end
  (`tail`); a bad escape leaves a reason instead of the text -/
  | template (cooked : Except String Units) (raw : Units) (head tail : Bool)
  | regexp (pattern flags : Units)
  | punctuator (s : String)
  | bad (reason : String)
  | eof
  deriving Repr

structure Token where
  kind : TokenKind
  /-- a line ends between the token before and this one -/
  newline : Bool
  start : Nat
  stop : Nat
  deriving Repr

instance : Inhabited Token := ⟨⟨.eof, false, 0, 0⟩⟩

/-- Rest of the text with the position it starts at. -/
structure Cursor where
  pos : Nat
  rest : List Char

namespace Cursor

def step (c : Cursor) (n : Nat) : Cursor := ⟨c.pos + n, c.rest.drop n⟩

end Cursor

/-! ### Character classes -/

def isLineEnd (c : Char) : Bool := c == '\n' || c == '\r' || c == '\u2028' || c == '\u2029'

def isSpace (c : Char) : Bool :=
  let n := c.toNat
  n == 9 || n == 11 || n == 12 || n == 32 || n == 0xA0 || n == 0x1680 || n == 0xFEFF
    || (0x2000 ≤ n && n ≤ 0x200A) || n == 0x202F || n == 0x205F || n == 0x3000

/-- Letters, `$`, `_`, and the letters beyond ASCII. -/
def isNameStart (c : Char) : Bool :=
  c.isAlpha || c == '$' || c == '_' || (c.toNat ≥ 0x80 && isLetterPoint c.toNat)

def isNamePart (c : Char) : Bool := isNameStart c || c.isDigit || c == '\u200C' || c == '\u200D'

/-! ### Blanks -/

structure Blanks where
  cursor : Cursor
  newline : Bool
  closed : Bool

/-- Past the line end that closes a line comment. -/
def skipLine : Nat → List Char → Cursor
  | pos, [] => ⟨pos, []⟩
  | pos, c :: rest => if isLineEnd c then ⟨pos, c :: rest⟩ else skipLine (pos + 1) rest

/-- Past the end of a block comment, with whether it holds a line end. -/
def skipBlock : Nat → Bool → List Char → Blanks
  | pos, newline, [] => ⟨⟨pos, []⟩, newline, false⟩
  | pos, newline, '*' :: '/' :: rest => ⟨⟨pos + 2, rest⟩, newline, true⟩
  | pos, newline, c :: rest => skipBlock (pos + 1) (newline || isLineEnd c) rest

/-- Past blanks and comments.  Where `markup` is allowed, its comment marks begin line comments
too, the closing one only at the front of a line. -/
def skipBlanks (markup first : Bool) : Nat → Bool → Cursor → Blanks
  | 0, newline, c => ⟨c, newline, true⟩
  | fuel + 1, newline, c =>
    match c.rest with
    | '/' :: '/' :: rest => skipBlanks markup first fuel newline (skipLine (c.pos + 2) rest)
    | '/' :: '*' :: rest =>
      let b := skipBlock (c.pos + 2) newline rest
      if b.closed then skipBlanks markup first fuel b.newline b.cursor else b
    | '<' :: '!' :: '-' :: '-' :: rest =>
      if markup then skipBlanks markup first fuel newline (skipLine (c.pos + 4) rest)
      else ⟨c, newline, true⟩
    | '-' :: '-' :: '>' :: rest =>
      if markup && (newline || first) then
        skipBlanks markup first fuel newline (skipLine (c.pos + 3) rest)
      else ⟨c, newline, true⟩
    | ch :: rest =>
      if isLineEnd ch then skipBlanks markup first fuel true ⟨c.pos + 1, rest⟩
      else if isSpace ch then skipBlanks markup first fuel newline ⟨c.pos + 1, rest⟩
      else ⟨c, newline, true⟩
    | [] => ⟨c, newline, true⟩

/-! ### Escapes -/

def hexDigit? (c : Char) : Option Nat :=
  match digitValue? c with
  | some d => if d < 16 then some d else none
  | none => none

/-- Exactly `count` hex digits. -/
def takeHex : Nat → List Char → Nat → Option (Nat × List Char)
  | 0, rest, n => some (n, rest)
  | count + 1, c :: rest, n =>
    match hexDigit? c with
    | some d => takeHex count rest (n * 16 + d)
    | none => none
  | _ + 1, [], _ => none

/-- A code point in braces, or four hex digits; with the number of characters taken. -/
def takeUnicode (cs : List Char) : Option (Nat × Nat × List Char) :=
  match cs with
  | '\x7b' :: rest =>
    let digits := rest.takeWhile fun c => (hexDigit? c).isSome
    let n := digits.foldl (fun n c => n * 16 + (hexDigit? c).getD 0) 0
    match rest.drop digits.length with
    | '\x7d' :: after =>
      if digits.isEmpty || n > 0x10FFFF then none else some (n, digits.length + 2, after)
    | _ => none
  | _ => (takeHex 4 cs 0).map fun (n, rest) => (n, 4, rest)

structure Escape where
  units : Units
  taken : Nat
  rest : List Char
  /-- why strict code refuses the escape -/
  lenient : Option String := none

def endOfString : String := "unexpected end of string"

def badHexEscape : String := "Invalid hexadecimal escape sequence"

def badUnicodeEscape : String := "Invalid Unicode escape sequence"

def orReason {α : Type} (reason : String) : Option α → Except String α
  | some a => .ok a
  | none => .error reason

/-- What follows a backslash in a string or template. -/
def takeEscape (cs : List Char) : Except String Escape :=
  match cs with
  | [] => .error endOfString
  | 'n' :: r => .ok ⟨[10], 1, r, none⟩
  | 'r' :: r => .ok ⟨[13], 1, r, none⟩
  | 't' :: r => .ok ⟨[9], 1, r, none⟩
  | 'b' :: r => .ok ⟨[8], 1, r, none⟩
  | 'v' :: r => .ok ⟨[11], 1, r, none⟩
  | 'f' :: r => .ok ⟨[12], 1, r, none⟩
  | 'x' :: r =>
    orReason badHexEscape ((takeHex 2 r 0).map fun (n, rest) => ⟨[UInt16.ofNat n], 3, rest, none⟩)
  | 'u' :: r =>
    orReason badUnicodeEscape
      ((takeUnicode r).map fun (n, k, rest) => ⟨Units.ofCodePoint n, k + 1, rest, none⟩)
  | '\r' :: '\n' :: r => .ok ⟨[], 2, r, none⟩
  | c :: r =>
    if isLineEnd c then .ok ⟨[], 1, r, none⟩
    else if c.isDigit then
      if c == '0' && !(r.head?.any Char.isDigit) then .ok ⟨[0], 1, r, none⟩
      else if c.toNat ≥ 56 then .ok ⟨[UInt16.ofNat c.toNat], 1, r, some badHexEscape⟩
      else
        let limit := if c.toNat ≤ 51 then 2 else 1
        let more := (r.take limit).takeWhile fun d => d.toNat ≥ 48 && d.toNat ≤ 55
        let n := more.foldl (fun n d => n * 8 + (d.toNat - 48)) (c.toNat - 48)
        .ok ⟨[UInt16.ofNat n], 1 + more.length, r.drop more.length,
          some "Octal escape sequences are not allowed in strict mode"⟩
    else .ok ⟨Units.ofChar c, 1, r, none⟩

/-! ### Literals -/

abbrev Lexed := TokenKind × Cursor

def takeString (quote : Char) : Nat → Nat → List Char → Units → Option String → Lexed
  | 0, pos, rest, _, _ => (.bad endOfString, ⟨pos, rest⟩)
  | _ + 1, pos, [], _, _ => (.bad endOfString, ⟨pos, []⟩)
  | fuel + 1, pos, c :: rest, acc, lenient =>
    if c == quote then (.string acc.reverse lenient, ⟨pos + 1, rest⟩)
    else if c == '\\' then
      match takeEscape rest with
      | .ok e =>
        takeString quote fuel (pos + 1 + e.taken) e.rest (e.units.reverse ++ acc)
          (lenient.or e.lenient)
      | .error reason => (.bad reason, ⟨pos, []⟩)
    else if c == '\n' || c == '\r' then (.bad endOfString, ⟨pos, []⟩)
    else takeString quote fuel (pos + 1) rest ((Units.ofChar c).reverse ++ acc) lenient

/-- Template text up to `$` with a brace, or to the closing backquote. -/
def takeTemplate (head : Bool) : Nat → Nat → List Char → Except String Units → Units → Lexed
  | 0, pos, rest, _, _ => (.bad endOfString, ⟨pos, rest⟩)
  | _ + 1, pos, [], _, _ => (.bad endOfString, ⟨pos, []⟩)
  | fuel + 1, pos, c :: rest, cooked, raw =>
    let finish (tail : Bool) (after : Cursor) : Lexed :=
      (.template (cooked.map List.reverse) raw.reverse head tail, after)
    match c, rest with
    | '\x60', rest => finish true ⟨pos + 1, rest⟩
    | '$', '\x7b' :: rest => finish false ⟨pos + 2, rest⟩
    | '\\', rest =>
      match takeEscape rest with
      | .ok e =>
        let text := (rest.take e.taken).filter (fun d => d != '\r') |> Units.ofChars
        let cooked := do
          let before ← cooked
          if e.lenient.isSome then throw badHexEscape
          return e.units.reverse ++ before
        takeTemplate head fuel (pos + 1 + e.taken) e.rest cooked (text.reverse ++ 92 :: raw)
      | .error reason =>
        takeTemplate head fuel (pos + 1) rest (cooked.bind fun _ => .error reason) (92 :: raw)
    | '\r', '\n' :: rest => takeTemplate head fuel (pos + 2) rest (cooked.map (10 :: ·)) (10 :: raw)
    | '\r', rest => takeTemplate head fuel (pos + 1) rest (cooked.map (10 :: ·)) (10 :: raw)
    | c, rest =>
      let u := (Units.ofChar c).reverse
      takeTemplate head fuel (pos + 1) rest (cooked.map (u ++ ·)) (u ++ raw)

/-- What keeps a regular expression from being read. -/
inductive RegexpEnd where
  | text | line

/-- Pattern text up to the closing slash; a slash inside brackets does not close. -/
def takeRegexp : Nat → List Char → Bool → List Char → Except RegexpEnd (List Char × Nat × List Char)
  | _, [], _, _ => .error .text
  | pos, '\\' :: c :: rest, inClass, acc =>
    if isLineEnd c then .error .line else takeRegexp (pos + 2) rest inClass (c :: '\\' :: acc)
  | pos, c :: rest, inClass, acc =>
    if isLineEnd c then .error .line
    else if c == '/' && !inClass then .ok (acc.reverse, pos + 1, rest)
    else
      let inClass := if c == '[' then true else if c == ']' then false else inClass
      takeRegexp (pos + 1) rest inClass (c :: acc)

/-- How the digits of a literal are read. -/
structure Numerals where
  base : Nat
  /-- characters in front of the digits -/
  mark : Nat
  /-- the literal begins with a zero and another digit -/
  legacy : Bool
  rest : List Char

/-- A mark after a zero names the base.  Octal digits after a zero need no mark. -/
def numerals (cs : List Char) : Numerals :=
  match cs with
  | '0' :: mark :: rest =>
    if mark == 'x' || mark == 'X' then ⟨16, 2, false, rest⟩
    else if mark == 'o' || mark == 'O' then ⟨8, 2, false, rest⟩
    else if mark == 'b' || mark == 'B' then ⟨2, 2, false, rest⟩
    else if mark.isDigit then
      if (((mark :: rest).dropWhile (isDigitOf 8)).head?.any Char.isDigit) then ⟨10, 0, true, cs⟩
      else ⟨8, 1, true, mark :: rest⟩
    else ⟨10, 0, false, cs⟩
  | cs => ⟨10, 0, false, cs⟩

/-- Digits at the front without the separators between them, the characters taken, the rest. -/
def takeRun (base : Nat) (separated : Bool) : List Char → List Char × Nat × List Char
  | [] => ([], 0, [])
  | c :: rest =>
    if isDigitOf base c then
      let (cs, n, after) := takeRun base separated rest
      (c :: cs, n + 1, after)
    else if c == '_' && separated && (rest.head?.any (isDigitOf base)) then
      let (cs, n, after) := takeRun base separated rest
      (cs, n + 1, after)
    else ([], 0, c :: rest)

/-- The exponent of a literal with its mark and sign, if digits follow them. -/
def takeExponent (base : Nat) (separated : Bool) (cs : List Char) : List Char × Nat × List Char :=
  match cs with
  | e :: rest =>
    let marked := ((e == 'e' || e == 'E') && base == 10)
      || ((e == 'p' || e == 'P') && (base == 2 || base == 8 || base == 16))
    let (sign, rest) := match rest with
      | '-' :: r => (['-'], r)
      | '+' :: r => (['+'], r)
      | r => ([], r)
    if marked && rest.head?.any Char.isDigit then
      let (digits, n, after) := takeRun 10 separated rest
      ('e' :: sign ++ digits, 1 + sign.length + n, after)
    else ([], 0, cs)
  | [] => ([], 0, [])

/-- A number; in a base other than ten neither a fraction nor an exponent changes it. -/
def takeNumber (c : Cursor) : Lexed :=
  let bad : Lexed := (.bad "invalid number literal", c)
  let lead := numerals c.rest
  let separated := !lead.legacy
  let (whole, n, after) := takeRun lead.base separated lead.rest
  let n := lead.mark + n
  let firstDigit := lead.rest.head?.any (isDigitOf lead.base)
  let early := lead.base == 10 && ['0', '_'].isPrefixOf lead.rest
  let pointed := after.head? == some '.'
  let early := early || (pointed && separated && after.tail.head? == some '_')
  if (lead.mark == 2 && !firstDigit) || early then bad
  else
    let (fraction, k, after) :=
      if pointed then takeRun lead.base separated after.tail else ([], 0, after)
    let n := if pointed then n + 1 + k else n
    let (power, k, after) := takeExponent lead.base separated after
    let n := n + k
    let isBig := after.head? == some 'n'
    let after := if isBig then after.tail else after
    let next : Cursor := ⟨c.pos + (if isBig then n + 1 else n), after⟩
    if after.head?.any isNamePart then bad
    else if isBig then
      if lead.legacy || pointed || !power.isEmpty then bad
      else (.bigint (takeDigits lead.base whole 0 0).1, next)
    else if lead.base == 10 then
      match takeDecimal (whole ++ '.' :: fraction ++ power) with
      | some (x, _) => (.number x lead.legacy, next)
      | none => bad
    else (.number (takeInBase lead.base whole).1 lead.legacy, next)

/-- A character of a name, perhaps written as an escape: its value, the characters taken, the
rest, and whether it was escaped. -/
def takeNameChar (cs : List Char) : Option (Char × Nat × List Char × Bool) :=
  match cs with
  | '\\' :: 'u' :: rest => (takeUnicode rest).map fun (n, k, after) => (Char.ofNat n, k + 2, after, true)
  | c :: rest => some (c, 1, rest, false)
  | [] => none

/-- The characters of a name, with escapes resolved; what cannot stand in a name ends it. -/
def takeName : Nat → Nat → List Char → List Char → Bool → List Char × Bool × Cursor
  | 0, pos, rest, acc, escaped => (acc.reverse, escaped, ⟨pos, rest⟩)
  | fuel + 1, pos, cs, acc, escaped =>
    match takeNameChar cs with
    | some (c, k, rest, isEscape) =>
      if isNamePart c then takeName fuel (pos + k) rest (c :: acc) (escaped || isEscape)
      else (acc.reverse, escaped || isEscape, ⟨pos, cs⟩)
    | none => (acc.reverse, escaped, ⟨pos, cs⟩)

/-- Does a name begin here? -/
def startsName (cs : List Char) : Bool :=
  match takeNameChar cs with
  | some (c, _) => isNameStart c
  | none => false

/-! ### The whole text -/

/-- Longest first, so that the first one that fits is the token. -/
def punctuators : List String :=
  [">>>=", "...", "===", "!==", "**=", "<<=", ">>=", ">>>", "&&=", "||=", "??=",
   "=>", "==", "!=", "<=", ">=", "&&", "||", "??", "?.", "++", "--", "+=", "-=", "*=", "/=", "%=",
   "&=", "|=", "^=", "<<", ">>", "**",
   "\x7b", "\x7d", "(", ")", "[", "]", ";", ",", "<", ">", "+", "-", "*", "/", "%", "&", "|", "^",
   "!", "~", "?", ":", "=", "."]

def takePunctuator (cs : List Char) : Option String :=
  punctuators.find? fun p =>
    p.toList.isPrefixOf cs && !(p == "?." && (cs.drop 2).head?.any Char.isDigit)

/-- Keywords after which an operand is due. -/
def operandKeywords : List String :=
  ["return", "typeof", "instanceof", "in", "of", "new", "delete", "void", "throw", "case", "do",
   "else", "await", "yield"]

/-- A slash after this token divides. -/
def TokenKind.endsOperand : TokenKind → Bool
  | .identifier name _ => !operandKeywords.contains name
  | .punctuator p => p == ")" || p == "]" || p == "\x7d" || p == "++" || p == "--"
  | .template _ _ _ tail => tail
  | .bad _ | .eof => false
  | _ => true

/-- Is the brace that closes next one of a template value? -/
abbrev Braces := List Bool

/-- A character that begins no token of its own stands for itself. -/
def strayCharacter (ch : Char) (c : Cursor) : Lexed :=
  if ch.toNat < 0x80 then (.punctuator (String.ofList [ch]), c.step 1)
  else (.bad "unexpected character", ⟨c.pos, []⟩)

def takeSlashed (c : Cursor) : Lexed :=
  match takeRegexp (c.pos + 1) c.rest.tail false [] with
  | .ok (pattern, pos, after) =>
    let flags := after.takeWhile isNamePart
    (.regexp (Units.ofChars pattern) (Units.ofChars flags),
      ⟨pos + flags.length, after.drop flags.length⟩)
  | .error .line => (.bad "unexpected line terminator in regexp", ⟨c.pos, []⟩)
  | .error .text => (.bad "unexpected end of regexp", ⟨c.pos, []⟩)

/-- The token at a place; `regexps` lists places where a slash starts a regular expression. -/
def takeToken (regexps : List Nat) (braces : Braces) (before : TokenKind) (c : Cursor) :
    Lexed × Braces :=
  let fuel := c.rest.length + 1
  match c.rest with
  | [] => ((.eof, c), braces)
  | ch :: rest =>
    if ch == '"' || ch == '\'' then (takeString ch fuel (c.pos + 1) rest [] none, braces)
    else if ch == '\x60' then
      let (kind, after) := takeTemplate true fuel (c.pos + 1) rest (.ok []) []
      let braces := match kind with
        | .template _ _ _ false => true :: braces
        | _ => braces
      ((kind, after), braces)
    else if ch == '\x7d' && braces.head? == some true then
      let (kind, after) := takeTemplate false fuel (c.pos + 1) rest (.ok []) []
      let braces := match kind with
        | .template _ _ _ false => braces
        | _ => braces.tail
      ((kind, after), braces)
    else if ch.isDigit || (ch == '.' && rest.head?.any Char.isDigit) then (takeNumber c, braces)
    else if startsName c.rest then
      let (name, escaped, after) := takeName fuel c.pos c.rest [] false
      ((.identifier (String.ofList name) escaped, after), braces)
    else if ch == '#' then
      if startsName rest then
        let (name, _, after) := takeName fuel (c.pos + 1) rest [] false
        ((.secret (String.ofList ('#' :: name)), after), braces)
      else ((.bad "invalid first character of private name", ⟨c.pos, []⟩), braces)
    else if ch == '/' && (regexps.contains c.pos || !before.endsOperand) then (takeSlashed c, braces)
    else
      match takePunctuator c.rest with
      | some p =>
        let braces := if p == "\x7b" then false :: braces else if p == "\x7d" then braces.tail else braces
        ((.punctuator p, c.step p.length), braces)
      | none => (strayCharacter ch c, braces)

/-- How a text is divided: whether marks of markup are comments, and the places where a slash
starts a regular expression. -/
structure Division where
  markup : Bool
  regexps : List Nat := []

def tokensFrom (d : Division) : Nat → Braces → Option TokenKind → Cursor → List Token
  | 0, _, _, c => [⟨.eof, false, c.pos, c.pos⟩]
  | fuel + 1, braces, before, c =>
    let b := skipBlanks d.markup before.isNone (c.rest.length + 1) false c
    if !b.closed then
      [⟨.bad "unexpected end of comment", b.newline, c.pos, b.cursor.pos⟩]
    else
      let ((kind, after), braces) := takeToken d.regexps braces (before.getD .eof) b.cursor
      let token : Token := ⟨kind, b.newline, b.cursor.pos, after.pos⟩
      match kind with
      | .eof => [token]
      | .bad _ => [token, ⟨.eof, false, after.pos, after.pos⟩]
      | _ => token :: tokensFrom d fuel braces (some kind) after

/-- The tokens of a program; a first line that starts with `#!` is a comment. -/
def tokenize (source : List Char) (d : Division) : List Token :=
  let start : Cursor :=
    match source with
    | '#' :: '!' :: rest => skipLine 2 rest
    | _ => ⟨0, source⟩
  tokensFrom d (source.length + 1) [] none start

end ScriptBridge.Script
