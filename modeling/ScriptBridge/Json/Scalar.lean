import ScriptBridge.Json.Source

/-!
Reading scalars: text between quotes, numerals, and the head of any value.

A numeral keeps its digits in a word while they fit.  Whole numbers that fit stay whole; the
others become the double that the kept digits give, scaled by one multiplication or division by
a power of ten.
-/
namespace ScriptBridge.Source

open scoped Number

/-! ### Between quotes -/

def hexValue? : Option Char → Option Nat
  | some c =>
    if '0' ≤ c && c ≤ '9' then some (c.toNat - 48)
    else if 'a' ≤ c && c ≤ 'f' then some (c.toNat - 87)
    else if 'A' ≤ c && c ≤ 'F' then some (c.toNat - 55)
    else none
  | none => none

/-- Are there four bytes? -/
def hasFourBytes (s : Source) : Bool := 4 ≤ ((s.take 4).map pieceWidth).foldl (· + ·) 0

/-- The number that four hexadecimal digits write. -/
def hexUnit (s : Source) : Except JsonFault (Nat × Source) :=
  if !hasFourBytes s then .error .endInText
  else
    match s with
    | a :: b :: c :: d :: rest =>
      match hexValue? a, hexValue? b, hexValue? c, hexValue? d with
      | some a, some b, some c, some d => .ok (((a * 16 + b) * 16 + c) * 16 + d, rest)
      | _, _, _, _ => .error .invalidEscape
    | _ => .error .invalidEscape

/-- The second half of a surrogate pair, with its own escape. -/
def secondUnit (s : Source) : Except JsonFault (Nat × Source) :=
  match s with
  | [] => .error .endInText
  | some '\\' :: rest =>
    match rest with
    | [] => .error .endInText
    | some 'u' :: rest => hexUnit rest
    | _ => .error .halfSurrogatePair
  | _ => .error .halfSurrogatePair

/-- The character of a hexadecimal escape, after its letter. -/
def hexEscape (s : Source) : Except JsonFault (Char × Source) := do
  let (n, rest) ← hexUnit s
  if 0xDC00 ≤ n && n ≤ 0xDFFF then .error .loneSurrogate
  else if 0xD800 ≤ n && n ≤ 0xDBFF then
    let (m, rest) ← secondUnit rest
    if 0xDC00 ≤ m && m ≤ 0xDFFF then
      .ok (Char.ofNat ((n - 0xD800) * 0x400 + (m - 0xDC00) + 0x10000), rest)
    else .error .loneSurrogate
  else .ok (Char.ofNat n, rest)

/-- The character that a letter after a backslash stands for. -/
def shortEscape? : Char → Option Char
  | '"' => some '"'
  | '\\' => some '\\'
  | '/' => some '/'
  | 'b' => some '\x08'
  | 'f' => some '\x0c'
  | 'n' => some '\n'
  | 'r' => some '\r'
  | 't' => some '\t'
  | _ => none

/-- The character of an escape, after the backslash. -/
def escape (s : Source) : Except JsonFault (Char × Source) :=
  match s with
  | [] => .error .endInText
  | some 'u' :: rest => hexEscape rest
  | some c :: rest =>
    match shortEscape? c with
    | some d => .ok (d, rest)
    | none => .error .invalidEscape
  | none :: _ => .error .invalidEscape

/-- Pieces up to the closing quote, with escapes resolved; `fuel` is at least their number. -/
def quotedPieces : Nat → Source → Except JsonFault (Source × Source)
  | 0, _ => .error .endInText
  | _, [] => .error .endInText
  | fuel + 1, p :: rest =>
    if p == some '"' then .ok ([], rest)
    else if p == some '\\' then do
      let (c, rest) ← escape rest
      let (more, rest) ← quotedPieces fuel rest
      .ok (some c :: more, rest)
    else if p.any (fun c => c.toNat < 32) then .error .controlCharacter
    else do
      let (more, rest) ← quotedPieces fuel rest
      .ok (p :: more, rest)

/-- The characters of pieces, if all of them are characters. -/
def chars? : Source → Option (List Char)
  | [] => some []
  | some c :: rest => (chars? rest).map (c :: ·)
  | none :: _ => none

/-- Text after its opening quote. -/
def quoted (s : Source) : Except JsonFault (String × Source) := do
  let (pieces, rest) ← quotedPieces (s.length + 1) s
  match chars? pieces with
  | some cs => .ok (String.ofList cs, rest)
  | none => .error .invalidCodePoint

/-- The rest after an escape that nobody reads. -/
def skipEscape (s : Source) : Except JsonFault Source :=
  match s with
  | [] => .error .endInText
  | some 'u' :: rest => (hexUnit rest).map Prod.snd
  | some c :: rest => if (shortEscape? c).isSome then .ok rest else .error .invalidEscape
  | none :: _ => .error .invalidEscape

/-- The rest after text that nobody reads. -/
def skipQuoted : Nat → Source → Except JsonFault Source
  | 0, _ => .error .endInText
  | _, [] => .error .endInText
  | fuel + 1, p :: rest =>
    if p == some '"' then .ok rest
    else if p == some '\\' then do skipQuoted fuel (← skipEscape rest)
    else if p.any (fun c => c.toNat < 32) then .error .controlCharacter
    else skipQuoted fuel rest

/-! ### Numerals -/

/-- Digits taken into a word while they fit, and the number of those left over. -/
def absorb (n : Nat) : Source → Nat × Nat
  | [] => (n, 0)
  | p :: rest =>
    if n * 10 + digitValue p < 2 ^ (64 : Nat) then absorb (n * 10 + digitValue p) rest
    else (n, rest.length + 1)

def digits (s : Source) : Source := s.takeWhile isDigit

def afterDigits (s : Source) : Source := s.dropWhile isDigit

/-- `x · 10 ^ e` in steps that each round once; `fuel` bounds the steps. -/
def scaled : Nat → Float → Int → Except JsonFault Float
  | 0, x, _ => .ok x
  | fuel + 1, x, e =>
    if e.natAbs ≤ 308 then
      let power := Float.ofScientific 1 false e.natAbs
      if e < 0 then .ok (x / power)
      else if Number.isFinite (x * power) then .ok (x * power) else .error .numberOutOfRange
    else if x == 0.0 then .ok x
    else if e ≥ 0 then .error .numberOutOfRange
    else scaled fuel (x / Float.ofScientific 1 false 308) (e + 308)

def withSign (positive : Bool) (x : Float) : Float := if positive then x else -x

/-- The double `n · 10 ^ e`. -/
def double (positive : Bool) (n : Nat) (e : Int) : Except JsonFault JsonNumeral :=
  (scaled 8 (Float.ofNat n) e).map fun x => .float (withSign positive x)

/-- A power of ten after its letter, for the digits `n · 10 ^ e`. -/
def power (positive : Bool) (n : Nat) (e : Int) (s : Source) :
    Except JsonFault (JsonNumeral × Source) := do
  let (up, s) := match s with
    | some '+' :: rest => (true, rest)
    | some '-' :: rest => (false, rest)
    | s => (true, s)
  if s.isEmpty then .error .endInValue
  else if (digits s).isEmpty then .error .invalidNumber
  else
    let p := (digits s).foldl (fun p d => p * 10 + digitValue d) 0
    let rest := afterDigits s
    if p > 2147483647 then
      if n != 0 && up then .error .numberOutOfRange
      else .ok (.float (withSign positive 0.0), rest)
    else .ok (← double positive n (if up then e + p else e - p), rest)

def isPowerMark (p : Option Char) : Bool := p == some 'e' || p == some 'E'

/-- The digits after a point, for the whole digits `n · 10 ^ e`. -/
def fraction (positive : Bool) (n : Nat) (e : Int) (s : Source) :
    Except JsonFault (JsonNumeral × Source) := do
  let ds := digits s
  let rest := afterDigits s
  if ds.isEmpty then
    if rest.isEmpty then .error .endInValue else .error .invalidNumber
  else
    let (m, left) := absorb n ds
    let e := e - ((ds.length - left : Nat) : Int)
    match rest with
    | p :: more =>
      if isPowerMark p then power positive m e more else .ok (← double positive m e, p :: more)
    | [] => .ok (← double positive m e, [])

/-- A whole number with its sign: a double where it fits no word, and for `-0`. -/
def whole (positive : Bool) (n : Nat) : JsonNumeral :=
  if positive then .unsigned (UInt64.ofNat n)
  else if n == 0 || n > 2 ^ (63 : Nat) then .float (-(Float.ofNat n))
  else .negative (Int64.ofInt (-(n : Int)))

/-- A numeral after its sign. -/
def numeral (positive : Bool) (s : Source) : Except JsonFault (JsonNumeral × Source) := do
  let ds := digits s
  let rest := afterDigits s
  match ds with
  | [] => if s.isEmpty then .error .endInValue else .error .invalidNumber
  | d :: others =>
    if d == some '0' && !others.isEmpty then .error .invalidNumber
    else
      let (n, left) := absorb 0 ds
      match rest with
      | some '.' :: more => fraction positive n left more
      | p :: more =>
        if isPowerMark p then power positive n left more
        else if left == 0 then .ok (whole positive n, p :: more)
        else .ok (← double positive n left, p :: more)
      | [] => if left == 0 then .ok (whole positive n, []) else .ok (← double positive n left, [])

/-- The rest after a numeral that nobody reads. -/
def skipNumeral (s : Source) : Except JsonFault Source := do
  let skipPower (s : Source) : Except JsonFault Source :=
    match s with
    | p :: rest =>
      if isPowerMark p then
        let rest := match rest with
          | some '+' :: r => r
          | some '-' :: r => r
          | r => r
        if (digits rest).isEmpty then .error .invalidNumber else .ok (afterDigits rest)
      else .ok s
    | [] => .ok s
  match digits s with
  | [] => .error .invalidNumber
  | d :: others =>
    if d == some '0' && !others.isEmpty then .error .invalidNumber
    else
      match afterDigits s with
      | some '.' :: rest =>
        if (digits rest).isEmpty then .error .invalidNumber else skipPower (afterDigits rest)
      | rest => skipPower rest

/-! ### Heads -/

/-- How the next value begins, and what follows that. -/
def head (s : Source) : Except JsonFault (JsonHead × Source) := do
  match skipBlanks s with
  | [] => .error .endInValue
  | p :: rest =>
    match p with
    | some 'n' => return (.null, ← word ['u', 'l', 'l'] rest)
    | some 't' => return (.bool true, ← word ['r', 'u', 'e'] rest)
    | some 'f' => return (.bool false, ← word ['a', 'l', 's', 'e'] rest)
    | some '-' => do
      let (n, rest) ← numeral false rest
      return (.number n, rest)
    | some '"' => do
      let (t, rest) ← quoted rest
      return (.text t, rest)
    | some '[' => return (.list, rest)
    | some '\x7b' => return (.object, rest)
    | p =>
      if isDigit p then
        let (n, rest) ← numeral true (p :: rest)
        return (.number n, rest)
      else .error .expectedValue

end ScriptBridge.Source
