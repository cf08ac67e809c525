import ScriptBridge.Number.Binary64

/-!
The fewest decimal digits that read back as a given double.

`shortest m q` walks the decimal grids from coarse to fine.  On each it tests the two
neighbours of `m · 2^q` against the interval of reals that round to it; the first grid with a
hit wins, and of two hits the nearer one.
-/
namespace ScriptBridge.Number

/-- A decimal `digits · 10 ^ exponent`. -/
structure Decimal where
  digits : Nat
  exponent : Int
  deriving Repr, DecidableEq

/-- `a · 2^p ≤ b · 10^k`, in integers. -/
def scaledLe (a : Nat) (p : Int) (b : Nat) (k : Int) : Bool :=
  a * 2 ^ p.toNat * 10 ^ (-k).toNat ≤ b * 10 ^ k.toNat * 2 ^ (-p).toNat

/-- `a · 2^p ≥ b · 10^k`, in integers. -/
def scaledGe (a : Nat) (p : Int) (b : Nat) (k : Int) : Bool :=
  a * 2 ^ p.toNat * 10 ^ (-k).toNat ≥ b * 10 ^ k.toNat * 2 ^ (-p).toNat

/-- `⌊a · 2^p / 10^k⌋`. -/
def scaledFloor (a : Nat) (p k : Int) : Nat :=
  (a * 2 ^ p.toNat * 10 ^ (-k).toNat) / (10 ^ k.toNat * 2 ^ (-p).toNat)

/-- The reals that round to `m · 2^q`, in units of `2^(q-2)`, ends included or not. -/
structure Interval where
  low : Nat
  value : Nat
  high : Nat
  unit : Int
  closed : Bool

/-- Below a power of two the neighbours lie half as far apart. -/
def Interval.of (m : Nat) (q : Int) : Interval where
  low := if m == 2 ^ (52 : Nat) && q > -1074 then 4 * m - 1 else 4 * m - 2
  value := 4 * m
  high := 4 * m + 2
  unit := q - 2
  closed := m % 2 == 0

def Interval.containsBelow (i : Interval) (d : Nat) (k : Int) : Bool :=
  if i.closed then scaledLe i.low i.unit d k else !scaledGe i.low i.unit d k

def Interval.containsAbove (i : Interval) (d : Nat) (k : Int) : Bool :=
  if i.closed then scaledGe i.high i.unit d k else !scaledLe i.high i.unit d k

/-- The upper neighbour `d + 1` is nearer to the value than `d`, or as near and `d` is odd. -/
def Interval.upperNearer (i : Interval) (d : Nat) (k : Int) : Bool :=
  if scaledLe (2 * i.value) i.unit (2 * d + 1) k then
    scaledGe (2 * i.value) i.unit (2 * d + 1) k && d % 2 == 1
  else true

/-- A neighbour of the value on the grid `10^k` that lies in the interval. -/
def Interval.hit? (i : Interval) (k : Int) : Option Decimal :=
  let d := scaledFloor i.value i.unit k
  let lower := d != 0 && i.containsBelow d k
  let upper := i.containsAbove (d + 1) k
  match lower, upper with
  | true, true => some ⟨if i.upperNearer d k then d + 1 else d, k⟩
  | true, false => some ⟨d, k⟩
  | false, true => some ⟨d + 1, k⟩
  | false, false => none

/-- The first hit on the grids `10^k`, `10^(k-1)`, and so on. -/
def Interval.search (i : Interval) : Nat → Int → Decimal
  | 0, k => ⟨scaledFloor i.value i.unit k, k⟩
  | n + 1, k => (i.hit? k).getD (i.search n (k - 1))

/-- The least `p` at or above `p` with `m · 2^q < 10^p`. -/
def decimalWidth (m : Nat) (q : Int) : Nat → Int → Int
  | 0, p => p
  | n + 1, p => if scaledGe m q 1 p then decimalWidth m q n (p + 1) else p

/-- The shortest decimal that reads back as `m · 2^q`, for `m > 0`. -/
def shortest (m : Nat) (q : Int) : Decimal :=
  let estimate := ((m.log2 : Int) + q) * 30103 / 100000 - 1
  let width := decimalWidth m q 5 estimate
  (Interval.of m q).search 17 (width - 1)

/-- Drops trailing zeros of the digits. -/
def Decimal.trim (d : Decimal) : Nat → Decimal
  | 0 => d
  | n + 1 =>
    if d.digits != 0 && d.digits % 10 == 0 then
      Decimal.trim ⟨d.digits / 10, d.exponent + 1⟩ n
    else d

end ScriptBridge.Number
