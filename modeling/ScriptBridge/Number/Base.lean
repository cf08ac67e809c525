import ScriptBridge.Number.Text

/-!
Numbers in bases other than ten.

Whole numbers are written exactly.  A double is written with as many digits as it takes to pass
half of the exact range of whole numbers, and the last of them is rounded; the rest of the value
is carried along in doubles.  Read back, at most 64 bits of the digits count, and the digits
behind them only scale the result.
-/
namespace ScriptBridge.Number

/-! ### Digits -/

def digitOfValue (n : Nat) : Char :=
  if n < 10 then Char.ofNat (48 + n) else Char.ofNat (87 + n)

/-- Is `c` a digit of `base`? -/
def isDigitOf (base : Nat) (c : Char) : Bool := (digitValue? c).any fun d => d < base

/-- Digits of `n` in `base`, most significant first; `fuel` bounds their number. -/
def baseDigits (base : Nat) : Nat → Nat → List Nat → List Nat
  | 0, _, acc => acc
  | fuel + 1, n, acc =>
    let acc := n % base :: acc
    if n / base == 0 then acc else baseDigits base fuel (n / base) acc

def natDigits (base n : Nat) : List Nat := baseDigits base (n.log2 + 2) n []

def natInBase (base n : Nat) : List Char := (natDigits base n).map digitOfValue

/-! ### Doubles in another base -/

/-- Whole numbers up to this one have a double each. -/
def greatestExact : Nat := 9007199254740991

/-- Digits of a whole number of any size, as division in doubles leaves them: those beyond the
exact range are zero. -/
def largeDigits (base : Nat) : Nat → Float → List Nat → List Nat
  | 0, _, acc => acc
  | fuel + 1, x, acc =>
    let n := ((whole? x).getD 0).toNat
    if n < base then n :: acc
    else
      let next := truncate (x / Float.ofNat base)
      let kept := ((whole? next).getD 0).toNat < greatestExact
      largeDigits base fuel next ((if kept then n % base else 0) :: acc)

/-- What stands behind the point, digit by digit, and the part of the value that is left over.
`seen` is the number that all digits so far spell, `room` how many bits may still come. -/
def fractionDigits (base : Nat) : Nat → Float → Nat → Float → List Nat → List Nat × Float
  | 0, x, _, _, acc => (acc.reverse, x)
  | fuel + 1, x, seen, room, acc =>
    if x == 0 || seen > greatestExact / 2 || room ≤ 0 then (acc.reverse, x)
    else
      let scaled := x * Float.ofNat base
      let digit := ((truncate? scaled).getD 0).toNat
      fractionDigits base fuel (scaled - Float.ofNat digit) (seen * base + digit)
        (room - (Float.ofNat base).log2) (digit :: acc)

/-- One more in the last place, on the digits from the last to the first. -/
def increment (base : Nat) : List Nat → List Nat
  | [] => [1]
  | d :: rest => if d + 1 == base then 0 :: increment base rest else (d + 1) :: rest

/-- Whole digits and the digits behind the point, rounded up in the last place. -/
def roundUp (base : Nat) (whole fraction : List Nat) : List Nat × List Nat :=
  match fraction.reverse.dropWhile fun d => d + 1 == base with
  | [] => ((increment base whole.reverse).reverse, [])
  | d :: rest => (whole, ((d + 1) :: rest).reverse)

/-- A finite double in another base. -/
def inBase (base : Nat) (x : Float) : List Char :=
  let sign := if x < 0 then ['-'] else []
  let x := x.abs
  let head := truncate x
  let n := ((whole? head).getD 0).toNat
  if n > greatestExact then sign ++ (largeDigits base 1100 head []).map digitOfValue
  else
    let (fraction, left) := fractionDigits base 1100 (x - head) n 1074 []
    let (whole, fraction) :=
      if left * Float.ofNat base ≥ Float.ofNat (base / 2) then roundUp base (natDigits base n) fraction
      else (natDigits base n, (fraction.reverse.dropWhile (· == 0)).reverse)
    let point := if fraction.isEmpty then [] else ['.']
    sign ++ whole.map digitOfValue ++ point ++ fraction.map digitOfValue

/-! ### Reading -/

/-- Digits at the front, as a number with how many of the last ones did not count. -/
def takeCounted (base : Nat) : List Char → Nat → Nat → Nat → Nat × Nat × Nat × List Char
  | [], n, spare, count => (n, spare, count, [])
  | c :: rest, n, spare, count =>
    match digitValue? c with
    | some d =>
      if d < base then
        if n ≤ (2 ^ (64 : Nat) - base) / base then takeCounted base rest (n * base + d) spare (count + 1)
        else takeCounted base rest n (spare + 1) (count + 1)
      else (n, spare, count, c :: rest)
    | none => (n, spare, count, c :: rest)

/-- The double that the digits of `base` at the front spell, their count, and the rest. -/
def takeInBase (base : Nat) (cs : List Char) : Float × Nat × List Char :=
  if base == 10 then
    let (n, count, rest) := takeDigits 10 cs 0 0
    (ofDecimal n 0, count, rest)
  else
    let (n, spare, count, rest) := takeCounted base cs 0 0 0
    let x := ofDecimal n 0
    (if spare == 0 then x else x * Float.pow (Float.ofNat base) (Float.ofNat spare), count, rest)

/-- Past a fraction and a binary exponent behind whole digits, which do not change the number. -/
def skipFraction (base : Nat) (cs : List Char) : List Char :=
  let cs := match cs with
    | '.' :: rest => rest.dropWhile (isDigitOf base)
    | rest => rest
  match cs with
  | mark :: rest =>
    if (mark == 'p' || mark == 'P') && (base == 2 || base == 8 || base == 16) then
      let digits := match rest with
        | '+' :: r | '-' :: r => r
        | r => r
      if digits.head?.any Char.isDigit then digits.dropWhile Char.isDigit else cs
    else cs
  | [] => []

end ScriptBridge.Number
