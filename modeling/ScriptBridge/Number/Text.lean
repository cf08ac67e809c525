import ScriptBridge.Number.Shortest

/-!
Text of numbers, and numbers in text.

A `Layout` holds the decisions of one notation: between which exponents it writes positional
digits, whether a whole number keeps its point, and how special values are spelled.  The digits
themselves are always the shortest ones.
-/
namespace ScriptBridge.Number

/-- How a notation writes the shortest digits. -/
structure Layout where
  /-- least scientific exponent written positionally -/
  least : Int
  /-- greatest scientific exponent written positionally -/
  greatest : Int
  /-- a whole number ends in `.0` -/
  pointed : Bool
  /-- zero keeps its sign -/
  signedZero : Bool
  deriving Repr, DecidableEq

/-- Script numbers are positional from `1e-6` up to below `1e21`. -/
def scriptLayout : Layout := ⟨-6, 20, false, false⟩

/-- Interchange numbers keep a point and are positional from `1e-5` up to below `1e16`. -/
def interchangeLayout : Layout := ⟨-5, 15, true, true⟩

def digitChars (n : Nat) : List Char := Nat.toDigits 10 n

def intChars (i : Int) : List Char :=
  match i with
  | .ofNat n => digitChars n
  | .negSucc n => '-' :: digitChars (n + 1)

/-- Digits with the point after the first `width` of them, zeros filling in on either side. -/
def positional (pointed : Bool) (digits : List Char) (width : Int) : List Char :=
  if width ≤ 0 then '0' :: '.' :: (List.replicate (-width).toNat '0' ++ digits)
  else if digits.length ≤ width.toNat then
    digits ++ List.replicate (width.toNat - digits.length) '0' ++ (if pointed then ['.', '0'] else [])
  else digits.take width.toNat ++ '.' :: digits.drop width.toNat

/-- Digits with a point after the first, then the signed exponent. -/
def scientific (digits : List Char) (exponent : Int) : List Char :=
  let mark := if exponent < 0 then ['e', '-'] else ['e', '+']
  let power := mark ++ digitChars exponent.natAbs
  match digits with
  | d :: e :: rest => d :: '.' :: e :: rest ++ power
  | short => short ++ power

def Layout.decimal (l : Layout) (d : Decimal) : List Char :=
  let d := d.trim 20
  let digits := digitChars d.digits
  let exponent := d.exponent + digits.length - 1
  if l.least ≤ exponent && exponent ≤ l.greatest then
    positional l.pointed digits (exponent + 1)
  else scientific digits exponent

/-- The shortest text of `x`. -/
def Layout.chars (l : Layout) (x : Float) : List Char :=
  match read x with
  | .nan => "NaN".toList
  | .infinite negative => if negative then "-Infinity".toList else "Infinity".toList
  | .finite d =>
    if d.mantissa == 0 then
      let zero := positional l.pointed ['0'] 1
      if d.negative && l.signedZero then '-' :: zero else zero
    else
      let text := l.decimal (shortest d.mantissa d.exponent)
      if d.negative then '-' :: text else text

/-! ### Fixed digit counts -/

/-- `num / den` to the nearest whole number, a half going up. -/
def roundHalfUp (num den : Nat) : Nat := (2 * num + den) / (2 * den)

/-- The magnitude of a dyadic times `10 ^ places`, rounded to a whole number. -/
def Dyadic.scaledRound (d : Dyadic) (places : Int) : Nat :=
  roundHalfUp (d.mantissa * 2 ^ d.exponent.toNat * 10 ^ places.toNat)
    (2 ^ (-d.exponent).toNat * 10 ^ (-places).toNat)

/-- `n` in decimal with `places` digits after the point. -/
def fixedChars (n places : Nat) : List Char :=
  if places == 0 then digitChars n
  else
    let digits := digitChars n
    let padded := List.replicate (places + 1 - digits.length) '0' ++ digits
    padded.take (padded.length - places) ++ '.' :: padded.drop (padded.length - places)

/-- Exactly `places` digits after the point; the sign stays when a nonzero number rounds to zero. -/
def toFixed (d : Dyadic) (places : Nat) : List Char :=
  let text := fixedChars (d.scaledRound places) places
  if d.negative && d.mantissa != 0 then '-' :: text else text

/-- The first `count` significant digits of a nonzero magnitude and its scientific exponent. -/
def significant (d : Dyadic) (count : Nat) : Nat × Int :=
  let width := decimalWidth d.mantissa d.exponent 5
    (((d.mantissa.log2 : Int) + d.exponent) * 30103 / 100000 - 1)
  let n := d.scaledRound (count - width)
  if n ≥ 10 ^ count then (n / 10, width) else (n, width - 1)

def toExponential (d : Dyadic) (places : Nat) : List Char :=
  let sign := if d.negative && d.mantissa != 0 then ['-'] else []
  if d.mantissa == 0 then sign ++ scientific (List.replicate (places + 1) '0') 0
  else
    let (n, e) := significant d (places + 1)
    sign ++ scientific (digitChars n) e

def toPrecision (d : Dyadic) (count : Nat) : List Char :=
  let sign := if d.negative && d.mantissa != 0 then ['-'] else []
  if d.mantissa == 0 then sign ++ positional false (List.replicate count '0') 1
  else
    let (n, e) := significant d count
    if e < -6 || e ≥ count then sign ++ scientific (digitChars n) e
    else sign ++ positional false (digitChars n) (e + 1)

/-! ### Reading -/

def digitValue? (c : Char) : Option Nat :=
  let n := c.toNat
  if 48 ≤ n && n ≤ 57 then some (n - 48)
  else if 97 ≤ n && n ≤ 122 then some (n - 87)
  else if 65 ≤ n && n ≤ 90 then some (n - 55)
  else none

/-- Digits of `base` at the front, as a number with their count, and the rest. -/
def takeDigits (base : Nat) : List Char → Nat → Nat → Nat × Nat × List Char
  | [], n, count => (n, count, [])
  | c :: rest, n, count =>
    match digitValue? c with
    | some d => if d < base then takeDigits base rest (n * base + d) (count + 1) else (n, count, c :: rest)
    | none => (n, count, c :: rest)

/-- `digits · 10 ^ exponent` as the nearest double; exponents beyond every double are cut off. -/
def ofDecimal (digits : Nat) (exponent : Int) : Float :=
  if digits == 0 then 0.0
  else
    let width : Int := digits.log2 * 30103 / 100000
    if exponent + width > 400 then infinity
    else if exponent + width < -400 then 0.0
    else if exponent < 0 then Float.ofScientific digits true exponent.natAbs
    else Float.ofScientific digits false exponent.toNat

/-- An unsigned decimal literal at the front: whole digits, fraction, exponent. -/
def takeDecimal (cs : List Char) : Option (Float × List Char) :=
  let (whole, count, rest) := takeDigits 10 cs 0 0
  let (digits, places, rest) :=
    match rest with
    | '.' :: more =>
      let (n, k, rest') := takeDigits 10 more whole 0
      if count == 0 && k == 0 then (whole, 0, rest) else (n, k, rest')
    | _ => (whole, 0, rest)
  if count == 0 && places == 0 then none
  else
    let power : Option (Int × List Char) :=
      match rest with
      | e :: more =>
        if e == 'e' || e == 'E' then
          let (negative, more) :=
            match more with
            | '-' :: m => (true, m)
            | '+' :: m => (false, m)
            | m => (false, m)
          let (n, k, after) := takeDigits 10 more 0 0
          if k == 0 then none else some (if negative then -(n : Int) else n, after)
        else none
      | [] => none
    match power with
    | some (p, after) => some (ofDecimal digits (p - places), after)
    | none => some (ofDecimal digits (-(places : Int)), rest)

end ScriptBridge.Number
