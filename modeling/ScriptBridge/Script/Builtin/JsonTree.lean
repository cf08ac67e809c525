import ScriptBridge.Script.Numeral

/-!
Trees of the interchange notation, read from script text.

`tokens` cuts the text into tokens, each with the byte at which it starts in the eight-bit form of
the text; the first thing that is no token ends the list.  `JsonTree.ofUnits?` reads one tree from
the tokens, and a fault tells the byte, line and column at which the text goes wrong.
-/
namespace ScriptBridge.Script.Builtins

open Text Script

inductive JsonTree where
  | null
  | bool (b : Bool)
  | number (x : Float)
  | string (u : Units)
  | array (items : List JsonTree)
  | object (members : List (Units × JsonTree))

namespace JsonTree

/-! ### Faults -/

inductive Fault where
  /-- something is wrong at a byte of the text -/
  | located (what : String) (byte : Nat)
  | end_
  /-- a token that starts no value -/
  | unexpected (token : Units)
  /-- a character that starts no token -/
  | foreign (point : Nat)
  | trailing

/-- Bytes of the eight-bit form of `points`. -/
def byteCount (points : List Nat) : Nat := points.foldl (fun n p => n + Units.byteWidth p) 0

/-- Line and column of the byte `stop`.  A column counts bytes, and the character that opens a line
is passed over unread, so that of two line ends in a row the second goes uncounted. -/
def lineAndColumn (stop : Nat) : List Nat → (at_ line start : Nat) → Nat × Nat
  | [], _, line, start => (line, stop + 1 - start)
  | p :: rest, at_, line, start =>
    if stop ≤ at_ then (line, stop + 1 - start)
    else if p == 13 || p == 10 then
      match p, rest with
      | 13, 10 :: q :: more =>
        lineAndColumn stop more (at_ + 2 + Units.byteWidth q) (line + 1) (at_ + 2)
      | 13, [10] => (line + 1, stop + 1 - (at_ + 2))
      | _, q :: more => lineAndColumn stop more (at_ + 1 + Units.byteWidth q) (line + 1) (at_ + 1)
      | _, [] => (line + 1, stop + 1 - (at_ + 1))
    else lineAndColumn stop rest (at_ + Units.byteWidth p) line start

def hex4 (n : Nat) : Units :=
  let d (k : Nat) : UInt16 := UInt16.ofNat (if k < 10 then 48 + k else 87 + k)
  [d (n / 4096 % 16), d (n / 256 % 16), d (n / 16 % 16), d (n % 16)]

/-- The wording of a fault in the text `points`. -/
def Fault.message (points : List Nat) : Fault → Units
  | .located what byte =>
    let (line, column) := lineAndColumn byte points 0 1 0
    Units.ofString what ++ Units.ofString " in JSON at position " ++ Units.ofNat byte
      ++ Units.ofString " (line " ++ Units.ofNat line ++ Units.ofString " column "
      ++ Units.ofNat column ++ [41]
  | .end_ => Units.ofString "Unexpected end of JSON input"
  | .unexpected token => Units.ofString "unexpected token: '" ++ token.takeWhile (· != 0) ++ [39]
  | .foreign point =>
    let shown := (Units.ofCodePoint point).headD 0
    Units.ofString "Unexpected token '\\u" ++ hex4 shown.toNat ++ Units.ofString "' in JSON"
  | .trailing => Units.ofString "unexpected data at the end"

/-! ### Tokens -/

inductive Token where
  /-- a character that stands for itself -/
  | mark (point : Nat)
  | word (u : Units)
  | text (u : Units)
  | number (x : Float)
  | broken (f : Fault)

structure Placed where
  token : Token
  byte : Nat

def hexDigit? (p : Nat) : Option Nat :=
  match Number.digitValue? (Char.ofNat p) with
  | some d => if d < 16 then some d else none
  | none => none

/-- Four hexadecimal digits at byte `at_`. -/
def readHex : Nat → Nat → Nat → List Nat → Except Fault (UInt16 × List Nat)
  | 0, value, _, points => .ok (UInt16.ofNat value, points)
  | n + 1, value, at_, points =>
    match points.head?.bind hexDigit? with
    | some d => readHex n (value * 16 + d) (at_ + 1) points.tail
    | none => .error (.located "Bad Unicode escape" at_)

def escaped? (p : Nat) : Option UInt16 :=
  if p == 34 || p == 92 || p == 47 then some (UInt16.ofNat p)
  else if p == 98 then some 8
  else if p == 102 then some 12
  else if p == 110 then some 10
  else if p == 114 then some 13
  else if p == 116 then some 9
  else none

/-- The rest of a string after its opening quote: its units in reverse order, the byte after the
closing quote and what follows. -/
def readText : Nat → Units → Nat → List Nat → Except Fault (Units × Nat × List Nat)
  | 0, _, _, _ => .error .end_
  | _ + 1, _, _, [] => .error .end_
  | n + 1, acc, at_, p :: rest =>
    if p == 34 then .ok (acc, at_ + 1, rest)
    else if p < 32 then .error (.located "Bad control character in string literal" at_)
    else if p == 92 then
      match rest with
      | [] => .error .end_
      | 117 :: more =>
        match readHex 4 0 (at_ + 2) more with
        | .ok (u, more) => readText n (u :: acc) (at_ + 6) more
        | .error f => .error f
      | e :: more =>
        match escaped? e with
        | some u => readText n (u :: acc) (at_ + 2) more
        | none => .error (.located "Bad escaped character" (at_ + 1))
    else readText n ((Units.ofCodePoint p).reverse ++ acc) (at_ + Units.byteWidth p) rest

def isDigit (p : Nat) : Bool := 48 ≤ p && p ≤ 57

/-- Digits at the front, of which there has to be one; `what` is missing otherwise. -/
def someDigits (what : String) (at_ : Nat) (points : List Nat) :
    Except Fault (List Nat × Nat × List Nat) :=
  let digits := points.takeWhile isDigit
  if digits.isEmpty then .error (.located what at_)
  else .ok (digits, at_ + digits.length, points.dropWhile isDigit)

def readFraction (at_ : Nat) (points : List Nat) : Except Fault (List Nat × Nat × List Nat) :=
  match points with
  | 46 :: more => do
    let (digits, at_, rest) ← someDigits "Unterminated fractional number" (at_ + 1) more
    return (46 :: digits, at_, rest)
  | _ => .ok ([], at_, points)

def readPower (at_ : Nat) (points : List Nat) : Except Fault (List Nat × Nat × List Nat) :=
  match points with
  | e :: more =>
    if e == 101 || e == 69 then
      let (sign, more) :=
        match more with
        | s :: after => if s == 43 || s == 45 then ([s], after) else ([], more)
        | [] => ([], more)
      match someDigits "Exponent part is missing a number" (at_ + 1 + sign.length) more with
      | .ok (digits, at_, rest) => .ok (e :: sign ++ digits, at_, rest)
      | .error f => .error f
    else .ok ([], at_, points)
  | [] => .ok ([], at_, points)

/-- The number whose numeral is `points`. -/
def numberOf (points : List Nat) : Float :=
  ((Number.takeDecimal (points.map Char.ofNat)).map Prod.fst).getD 0.0

/-- An unsigned number at the front, of which the first character is a digit. -/
def readUnsigned (at_ : Nat) (points : List Nat) : Except Fault (Float × Nat × List Nat) := do
  let leadingZero :=
    match points with
    | 48 :: d :: _ => isDigit d
    | _ => false
  if leadingZero then throw (.located "Unexpected number" at_)
  let (whole, at_, rest) ← someDigits "No number after minus sign" at_ points
  let (fraction, at_, rest) ← readFraction at_ rest
  let (power, at_, rest) ← readPower at_ rest
  return (numberOf (whole ++ fraction ++ power), at_, rest)

/-- A number at the front; a sign without a digit behind it is the fault of the sign. -/
def readNumber (at_ : Nat) (points : List Nat) : Except Fault (Float × Nat × List Nat) :=
  match points with
  | 45 :: more =>
    if more.head?.any isDigit then do
      let (x, at_, rest) ← readUnsigned (at_ + 1) more
      return (-x, at_, rest)
    else .error (.located "No number after minus sign" at_)
  | _ => readUnsigned at_ points

def isWordStart (p : Nat) : Bool :=
  (97 ≤ p && p ≤ 122) || (65 ≤ p && p ≤ 90) || p == 95 || p == 36

def isWordPart (p : Nat) : Bool := isWordStart p || isDigit p

def isBlank (p : Nat) : Bool := p == 32 || p == 9 || p == 10 || p == 13

/-- All tokens from byte `at_` on; the list ends early, with its fault, where none can be read. -/
def tokens : Nat → Nat → List Nat → List Placed
  | 0, _, _ => []
  | _ + 1, _, [] => []
  | n + 1, at_, p :: rest =>
    if isBlank p then tokens n (at_ + 1) rest
    else if p == 34 then
      match readText (rest.length + 1) [] (at_ + 1) rest with
      | .ok (u, next, more) => ⟨.text u.reverse, at_⟩ :: tokens n next more
      | .error f => [⟨.broken f, at_⟩]
    else if isWordStart p then
      let w := p :: rest.takeWhile isWordPart
      ⟨.word (Units.ofCodePoints w), at_⟩ :: tokens n (at_ + w.length) (rest.dropWhile isWordPart)
    else if p == 45 || isDigit p then
      match readNumber at_ (p :: rest) with
      | .ok (x, next, more) => ⟨.number x, at_⟩ :: tokens n next more
      | .error f => [⟨.broken f, at_⟩]
    else if p ≥ 128 then [⟨.broken (.foreign p), at_⟩]
    else ⟨.mark p, at_⟩ :: tokens n (at_ + 1) rest

/-! ### Trees -/

/-- The fault of finding `ts` where `what` is needed; the text ends at byte `stop`. -/
def misplaced (what : String) (stop : Nat) : List Placed → Fault
  | [] => .located what stop
  | t :: _ =>
    match t.token with
    | .broken f => f
    | _ => .located what t.byte

/-- The character that stands for itself at the front. -/
def mark? : List Placed → Option Nat
  | t :: _ =>
    match t.token with
    | .mark p => some p
    | _ => none
  | [] => none

def wordTree (u : Units) : Except Fault JsonTree :=
  if u == Units.ofString "true" then .ok (.bool true)
  else if u == Units.ofString "false" then .ok (.bool false)
  else if u == Units.ofString "null" then .ok .null
  else .error (.unexpected u)

mutual

def readValue (n stop : Nat) (ts : List Placed) : Except Fault (JsonTree × List Placed) :=
  match n with
  | 0 => .error .end_
  | n + 1 =>
    match ts with
    | [] => .error .end_
    | t :: rest =>
      match t.token with
      | .broken f => .error f
      | .number x => .ok (.number x, rest)
      | .text u => .ok (.string u, rest)
      | .word u =>
        match wordTree u with
        | .ok tree => .ok (tree, rest)
        | .error f => .error f
      | .mark p =>
        if p == 123 then
          if mark? rest == some 125 then .ok (.object [], rest.tail)
          else
            match readMembers n stop rest [] with
            | .ok (ms, after) => .ok (.object ms, after)
            | .error f => .error f
        else if p == 91 then
          if mark? rest == some 93 then .ok (.array [], rest.tail)
          else
            match readItems n stop rest [] with
            | .ok (xs, after) => .ok (.array xs, after)
            | .error f => .error f
        else .error (.unexpected [UInt16.ofNat p])
termination_by structural n

def readMembers (n stop : Nat) (ts : List Placed) (acc : List (Units × JsonTree)) :
    Except Fault (List (Units × JsonTree) × List Placed) :=
  match n with
  | 0 => .error .end_
  | n + 1 =>
    let noName := "Expected property name or '\x7d'"
    match ts with
    | [] => .error (.located noName stop)
    | t :: rest =>
      match t.token with
      | .text name =>
        if mark? rest == some 58 then
          match readValue n stop rest.tail with
          | .error f => .error f
          | .ok (v, after) =>
            if mark? after == some 44 then readMembers n stop after.tail ((name, v) :: acc)
            else if mark? after == some 125 then .ok (((name, v) :: acc).reverse, after.tail)
            else .error (misplaced "Expected ',' or '\x7d' after property value" stop after)
        else .error (misplaced "Expected ':' after property name" stop rest)
      | _ => .error (misplaced noName stop (t :: rest))
termination_by structural n

def readItems (n stop : Nat) (ts : List Placed) (acc : List JsonTree) :
    Except Fault (List JsonTree × List Placed) :=
  match n with
  | 0 => .error .end_
  | n + 1 =>
    match readValue n stop ts with
    | .error f => .error f
    | .ok (v, after) =>
      if mark? after == some 44 then readItems n stop after.tail (v :: acc)
      else if mark? after == some 93 then .ok ((v :: acc).reverse, after.tail)
      else .error (misplaced "Expected ',' or ']' after array element" stop after)
termination_by structural n

end

/-- The one tree that the text is. -/
def ofPoints? (points : List Nat) : Except Fault JsonTree :=
  match readValue (2 * points.length + 2) (byteCount points)
      (tokens (points.length + 1) 0 points) with
  | .error f => .error f
  | .ok (t, []) => .ok t
  | .ok (_, after :: _) =>
    match after.token with
    | .broken f => .error f
    | _ => .error .trailing

/-- The tree that `u` is, or what is said of its first fault. -/
def ofUnits? (u : Units) : Except Units JsonTree :=
  let points := Units.codePoints u
  (ofPoints? points).mapError (Fault.message points)

end JsonTree

end ScriptBridge.Script.Builtins
