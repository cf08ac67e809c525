/-!
Exact reading of binary floating point.

A finite double is `± m · 2^q` with natural `m`; every question that has an exact answer
(truncation, remainder, residues modulo a power of two, shortest text) is asked of `m` and `q`
in integer arithmetic, never of an approximate operation.
-/
namespace ScriptBridge.Number

/-- A power of a whole number is the core library's, also where an algebra of powers is known. -/
scoped instance (priority := 2000) naturalPower : Pow Nat Nat := instPowNat

/-- The magnitude of a finite double is `mantissa · 2 ^ exponent`. -/
structure Dyadic where
  negative : Bool
  mantissa : Nat
  exponent : Int
  deriving Repr, DecidableEq

inductive Reading where
  | nan
  | infinite (negative : Bool)
  | finite (d : Dyadic)
  deriving Repr, DecidableEq

def read (x : Float) : Reading :=
  let bits := x.toBits.toNat
  let negative := bits / 2 ^ (63 : Nat) == 1
  let biased := bits / 2 ^ (52 : Nat) % 2048
  let fraction := bits % 2 ^ (52 : Nat)
  if biased == 2047 then
    if fraction == 0 then .infinite negative else .nan
  else if biased == 0 then .finite ⟨negative, fraction, -1074⟩
  else .finite ⟨negative, 2 ^ (52 : Nat) + fraction, Int.ofNat biased - 1075⟩

namespace Dyadic

/-- Whole part of the magnitude. -/
def whole (d : Dyadic) : Nat :=
  match d.exponent with
  | .ofNat k => d.mantissa * 2 ^ k
  | .negSucc k => d.mantissa / 2 ^ (k + 1)

/-- The magnitude has no fraction. -/
def isWhole (d : Dyadic) : Bool :=
  match d.exponent with
  | .ofNat _ => true
  | .negSucc k => d.mantissa % 2 ^ (k + 1) == 0

/-- Rounding toward zero. -/
def truncate (d : Dyadic) : Int := if d.negative then -(d.whole : Int) else d.whole

end Dyadic

/-! ### Whole numbers -/

def isNaN (x : Float) : Bool := read x == .nan

def isFinite (x : Float) : Bool :=
  match read x with
  | .finite _ => true
  | _ => false

def isNegative (x : Float) : Bool := x.toBits.toNat / 2 ^ (63 : Nat) == 1

/-- The integer nearest to a finite `x` on the side of zero. -/
def truncate? (x : Float) : Option Int :=
  match read x with
  | .finite d => some d.truncate
  | _ => none

/-- The integer that `x` is, if it is one; both zeros are. -/
def whole? (x : Float) : Option Int :=
  match read x with
  | .finite d => if d.isWhole then some d.truncate else none
  | _ => none

def negativeZero : Float := Float.ofBits 0x8000000000000000

def nan : Float := Float.ofBits 0x7FF8000000000000

def infinity : Float := Float.ofBits 0x7FF0000000000000

/-- The double of an integer, with the sign of `x` kept on zero. -/
private def withSign (x : Float) (i : Int) : Float :=
  if i == 0 && isNegative x then negativeZero else Float.ofInt i

def truncate (x : Float) : Float :=
  match read x with
  | .finite d => withSign x d.truncate
  | _ => x

def floor (x : Float) : Float :=
  match read x with
  | .finite d =>
    if d.isWhole then x
    else if d.negative then Float.ofInt (d.truncate - 1) else Float.ofInt d.truncate
  | _ => x

def ceil (x : Float) : Float :=
  match read x with
  | .finite d =>
    if d.isWhole then x
    else if d.negative then withSign x d.truncate else Float.ofInt (d.truncate + 1)
  | _ => x

/-- Remainder with the sign of the dividend, exact on the two dyadic fractions. -/
def remainder (x y : Float) : Float :=
  match read x, read y with
  | .finite a, .finite b =>
    if b.mantissa == 0 then nan
    else
      let e := min a.exponent b.exponent
      let n := a.mantissa * 2 ^ (a.exponent - e).toNat
      let m := b.mantissa * 2 ^ (b.exponent - e).toNat
      let r := n % m
      let value := match e with
        | .ofNat k => Float.ofNat (r * 2 ^ k)
        | .negSucc k => Float.scaleB (Float.ofNat r) (Int.negSucc k)
      if a.negative then -value else value
  | .finite _, .infinite _ => x
  | _, _ => nan

/-- Residue of the truncation of `x` modulo `2 ^ bits`; zero when `x` is not finite. -/
def residue (bits : Nat) (x : Float) : Nat :=
  match truncate? x with
  | some i => (i % ((2 ^ bits : Nat) : Int)).toNat
  | none => 0

/-- Wrapping conversion to a signed word. -/
def toInt32 (x : Float) : Int32 := Int32.ofInt (residue 32 x)

def toUInt32 (x : Float) : UInt32 := UInt32.ofNat (residue 32 x)

/-- Nearest word, with anything beyond the range moved to its end and no number to zero. -/
def saturatingUInt64 (x : Float) : UInt64 :=
  match read x with
  | .nan => 0
  | .infinite negative => if negative then 0 else UInt64.ofNat (2 ^ (64 : Nat) - 1)
  | .finite d =>
    if d.negative then 0 else UInt64.ofNat (min d.whole (2 ^ (64 : Nat) - 1))

def saturatingInt32 (x : Float) : Int32 :=
  match read x with
  | .nan => 0
  | .infinite negative => Int32.ofInt (if negative then -2147483648 else 2147483647)
  | .finite d => Int32.ofInt (max (-2147483648) (min 2147483647 d.truncate))

end ScriptBridge.Number
