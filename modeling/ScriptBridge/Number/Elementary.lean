import ScriptBridge.Number.Binary64

/-!
Elementary functions where the obvious formula loses digits.

`exponentialLess1` is `e^x - 1` and `logarithmOf1Plus` is `log (1 + x)`: both split off a multiple
of `log 2` and evaluate a polynomial in what is left, so that they stay accurate near zero.
`cubeRoot` is the double nearest to the cube root, found among the integers.
-/
namespace ScriptBridge.Number

/-! ### Powers of two -/

/-- The leading 32 bits of a double, sign left out. -/
def highWord (x : Float) : Nat := x.toBits.toNat / 2 ^ (32 : Nat) % 2 ^ (31 : Nat)

/-- `log 2` in two parts, the first with enough zeros at its end to be multiplied exactly. -/
def log2High : Float := Float.ofBits 0x3fe62e42fee00000

def log2Low : Float := Float.ofBits 0x3dea39ef35793c76

/-! ### `e^x - 1` -/

/-- A multiple `k` of `log 2`, and `x` less that multiple as a double with what it rounds off. -/
structure Reduced where
  k : Int
  rest : Float
  lost : Float

def reduceBy (k : Int) (x : Float) : Reduced :=
  let t := Float.ofInt k
  let high := x - t * log2High
  let low := t * log2Low
  let rest := high - low
  ⟨k, rest, (high - rest) - low⟩

/-- The multiple of `log 2` nearest to `x`. -/
def reduceExponent (x : Float) : Reduced :=
  if highWord x ≤ 0x3fd62e42 then ⟨0, x, 0.0⟩
  else if highWord x < 0x3FF0A2B2 then reduceBy (if isNegative x then -1 else 1) x
  else
    let half := if isNegative x then -0.5 else 0.5
    reduceBy ((truncate? (1.44269504088896338700 * x + half)).getD 0) x

/-- `2^k · y` by the exponent alone. -/
def timesPower (y : Float) (k : Int) : Float := y.scaleB k

/-- `e^x - 1` from its reduced argument. -/
def rebuildExponential (r : Reduced) : Float :=
  let x := r.rest
  let half := 0.5 * x
  let s := x * half
  let s2 := s * s
  let p := (1.0 + s * -3.33333333333331316428e-02)
    + s2 * (1.58730158725481460165e-03 + s * -7.93650757867487942473e-05)
    + s2 * s2 * (4.00821782732936239552e-06 + s * -2.01099218183624371326e-07)
  let t := 3.0 - p * half
  let e := s * ((p - t) / (6.0 - x * t))
  if r.k == 0 then x - (x * e - s)
  else
    let e := x * (e - r.lost) - r.lost - s
    if r.k == -1 then 0.5 * (x - e) - 0.5
    else if r.k == 1 then
      if x < -0.25 then -2.0 * (e - (x + 0.5)) else 1.0 + 2.0 * (x - e)
    else if r.k ≤ -2 || r.k > 56 then timesPower (1.0 - (e - x)) r.k - 1.0
    else if r.k < 20 then timesPower ((1.0 - timesPower 1.0 (-r.k)) - (e - x)) r.k
    else timesPower ((x - (e + timesPower 1.0 (-r.k))) + 1.0) r.k

/-- `e^x - 1`. -/
def exponentialLess1 (x : Float) : Float :=
  match read x with
  | .nan => x
  | .infinite negative => if negative then -1.0 else x
  | .finite _ =>
    if highWord x ≥ 0x4043687A && isNegative x then -1.0
    else if x > 709.782712893383973096 then infinity
    else if highWord x < 0x3c900000 then x
    else rebuildExponential (reduceExponent x)

/-! ### `log (1 + x)` -/

/-- `1 + x` as `2^k · (1 + f)`, with the digits that the sum rounds off. -/
structure Normalized where
  k : Int
  f : Float
  lost : Float

def normalizeSum (x : Float) : Normalized :=
  let u := 1.0 + x
  let k : Int := Int.ofNat (highWord u / 2 ^ (20 : Nat)) - 1023
  let lost := (if k > 0 then 1.0 - (u - x) else x - (u - 1.0)) / u
  let lost := if highWord x < 0x43400000 then lost else 0.0
  let significand := timesPower u (-k)
  if highWord u % 2 ^ (20 : Nat) < 0x6a09e then ⟨k, significand - 1.0, lost⟩
  else ⟨k + 1, significand * 0.5 - 1.0, lost⟩

/-- `log (1 + f) + k · log 2`. -/
def rebuildLogarithm (n : Normalized) : Float :=
  let k := Float.ofInt n.k
  let f := n.f
  let half := 0.5 * f * f
  if f == 0.0 then
    if n.k == 0 then 0.0 else k * log2High + (n.lost + k * log2Low)
  else if f.abs < Float.ofBits 0x3eb0000000000000 && n.k != 0 then
    let r := half * (1.0 - 0.66666666666666666 * f)
    k * log2High - ((r - (k * log2Low + n.lost)) - f)
  else
    let s := f / (2.0 + f)
    let z := s * s
    let z2 := z * z
    let z4 := z2 * z2
    let r := z * 6.666666666666735130e-01
      + z2 * (3.999999999940941908e-01 + z * 2.857142874366239149e-01)
      + z4 * (2.222219843214978396e-01 + z * 1.818357216161805012e-01)
      + z4 * z2 * (1.531383769920937332e-01 + z * 1.479819860511658591e-01)
    if n.k == 0 then f - (half - s * (half + r))
    else k * log2High - ((half - (s * (half + r) + (k * log2Low + n.lost))) - f)

/-- `log (1 + x)`. -/
def logarithmOf1Plus (x : Float) : Float :=
  match read x with
  | .nan => x
  | .infinite negative => if negative then nan else x
  | .finite _ =>
    if x == -1.0 then -infinity
    else if x < -1.0 then nan
    else if highWord x < 0x3c900000 then x
    else if highWord x < 0x3e200000 then x - x * x * 0.5
    else if highWord x < 0x3FDA827A && !isNegative x || highWord x ≤ 0x3fd2bec3 then
      rebuildLogarithm ⟨0, x, 0.0⟩
    else rebuildLogarithm (normalizeSum x)

/-! ### Cube roots -/

/-- The greatest natural number whose cube is at most `n`, which is below `2 ^ (3 · bits)`. -/
def cubeRootNat (n : Nat) : Nat → Nat → Nat
  | 0, root => root
  | bits + 1, root =>
    let next := root + 2 ^ bits
    cubeRootNat n bits (if next ^ (3 : Nat) ≤ n then next else root)

/-- The double nearest to the cube root of `x`: the root of the mantissa, moved up by a multiple
of three binary places to more digits than a double has, and one more digit for what is left. -/
def cubeRoot (x : Float) : Float :=
  match read x with
  | .finite d =>
    if d.mantissa == 0 then x
    else
      let shift := 180 - d.mantissa.log2
      let shift := shift + ((d.exponent - shift) % 3).toNat
      let n := d.mantissa * 2 ^ shift
      let root := cubeRootNat n 62 0
      let sticky := if root ^ (3 : Nat) == n then 2 * root else 2 * root + 1
      let y := (Float.ofNat sticky).scaleB ((d.exponent - shift) / 3 - 1)
      if d.negative then -y else y
  | _ => x

end ScriptBridge.Number
