import ScriptBridge.Script.Access
import ScriptBridge.Script.Numeral

/-!
Conversions between kinds of values, and the operators.

Arithmetic keeps 32-bit integers as long as the result is one; a double stays a double even
when it is whole.
-/
namespace ScriptBridge.Script

open Text Script
open scoped Number

variable {ρ α β : Type}

/-! ### Primitive values -/

inductive Preference where
  | none | number | string
  deriving Repr, DecidableEq

def Preference.name : Preference → String
  | .none => "default"
  | .number => "number"
  | .string => "string"

/-- Tries one of the two conversion methods. -/
def primitiveBy (r : Ref) (name : String) : Script ρ (Option Value) := do
  let f ← r.getNamed name
  if ← isCallable f then
    match ← callValue f (.object r) [] with
    | .object _ => return none
    | v => return some v
  else return none

def toPrimitive (p : Preference) (v : Value) : Script ρ Value := do
  match v with
  | .object r =>
    let exotic ← r.get (.symbol symToPrimitive)
    if !exotic.isNullish then
      match ← callValue exotic v [Value.text p.name] with
      | .object _ => throwType "toPrimitive"
      | v => return v
    let (first, second) := if p == .string then ("toString", "valueOf") else ("valueOf", "toString")
    match ← primitiveBy r first with
    | some v => return v
    | none =>
      match ← primitiveBy r second with
      | some v => return v
      | none => throwType "toPrimitive"
  | v => return v

/-- Text of a primitive value. -/
def primitiveUnits (v : Value) : Script ρ Units :=
  match v with
  | .undefined => pure (Units.ofString "undefined")
  | .null => pure (Units.ofString "null")
  | .bool b => pure (Units.ofString (if b then "true" else "false"))
  | .int i => pure (Units.ofInt i.toInt)
  | .double x => pure (Numeral.floatUnits x)
  | .bigint i _ => pure (Units.ofInt i)
  | .string u _ => pure u
  | .symbol _ => throwType "cannot convert symbol to string"
  | .object _ => pure []

def toUnits (v : Value) : Script ρ Units :=
  match v with
  | .string u _ => pure u
  | .object _ => do primitiveUnits (← toPrimitive .string v)
  | v => primitiveUnits v

/-- A value as text; what is text already stays the value that it is. -/
def toText (v : Value) : Script ρ Value := do
  let v ← match v with
    | .object _ => toPrimitive .string v
    | v => pure v
  match v with
  | .string _ _ => return v
  | .int _ | .double _ | .bigint _ _ => newText (← primitiveUnits v)
  | v => return .spelled (← primitiveUnits v)

/-- A primitive value as a number or big integer. -/
def primitiveNumeric (v : Value) : Script ρ Value :=
  match v with
  | .undefined => pure (.double Number.nan)
  | .null => pure (.int 0)
  | .bool b => pure (.int (if b then 1 else 0))
  | .string u _ => pure (.ofFloat (Numeral.ofUnits u))
  | .symbol _ => throwType "cannot convert symbol to number"
  | .object _ => pure (.double Number.nan)
  | v => pure v

def toNumeric (v : Value) : Script ρ Value := do
  match v with
  | .int _ | .double _ => return v
  | v => primitiveNumeric (← toPrimitive .number v)

/-- The value as a number value. -/
def toNumber (v : Value) : Script ρ Value := do
  match ← toNumeric v with
  | .bigint _ _ => throwType "cannot convert BigInt to number"
  | v => return v

def toFloat (v : Value) : Script ρ Float := do
  return (← toNumber v).float?.getD Number.nan

def toInt32 (v : Value) : Script ρ Int32 := do
  match ← toNumber v with
  | .int i => return i
  | .double x => return Number.toInt32 x
  | _ => return 0

def toUInt32 (v : Value) : Script ρ UInt32 := do
  return (← toInt32 v).toUInt32

/-- The value as an integer; what is no number is zero, and the infinities lie just beyond the
signed integers of 64 bits. -/
def toInteger (v : Value) : Script ρ Int := do
  let x ← toFloat v
  match Number.read x with
  | .nan => return 0
  | .infinite negative => return if negative then -Int.pow 2 63 else Int.pow 2 63
  | .finite d => return d.truncate

/-- The nearest signed integer of 64 bits. -/
def toWord64 (v : Value) : Script ρ Int := do
  return max (-Int.pow 2 63) (min (← toInteger v) (Int.pow 2 63 - 1))

/-- An integer between `0` and the greatest safe integer. -/
def toLength (v : Value) : Script ρ Nat := do
  let i ← toInteger v
  return min i.toNat 9007199254740991

/-- The value as an index: an integer that is neither negative nor beyond the safe ones. -/
def toIndex (v : Value) : Script ρ Nat := do
  let i ← toInteger v
  if i < 0 || i > 9007199254740991 then throwRange "invalid array index"
  return i.toNat

/-- The value as a big integer; numbers do not become one by themselves. -/
def toBig (v : Value) : Script ρ Int := do
  match ← toPrimitive .number v with
  | .bigint i _ => return i
  | .bool b => return if b then 1 else 0
  | .string u _ =>
    match Numeral.bigOfUnits? u with
    | some i => return i
    | none => throwWorded .syntaxError "invalid BigInt literal"
  | _ => throwType "cannot convert to BigInt"

/-- A position counted from the end when negative, kept within `0 … length`. -/
def toPosition (v : Value) (length default : Nat) : Script ρ Nat := do
  match v with
  | .undefined => return default
  | v =>
    let i ← toInteger v
    return if i < 0 then (i + length).toNat else min i.toNat length

def toKey (v : Value) : Script ρ Key := do
  match v with
  | .int i => return Key.ofInt i.toInt
  | .string u _ => return Key.ofUnits u
  | .symbol s => return .symbol s
  | v =>
    match ← toPrimitive .string v with
    | .symbol s => return .symbol s
    | v => return Key.ofUnits (← primitiveUnits v)

/-- The prototype that a primitive value's members come from. -/
def primitivePrototype : Value → Option BuiltinObject
  | .bool _ => some .booleanPrototype
  | .int _ | .double _ => some .numberPrototype
  | .bigint _ _ => some .bigintPrototype
  | .string _ _ => some .stringPrototype
  | .symbol _ => some .symbolPrototype
  | _ => none

def toObject (v : Value) : Script ρ Ref := do
  match v with
  | .object r => return r
  | v =>
    match primitivePrototype v with
    | none => throwType "Cannot convert undefined or null to object"
    | some proto =>
      let members := match v with
        | .string u _ => [(lengthKey, Property.fixed (.ofNat u.length))]
        | _ => []
      request (.make (some (.builtin (.object proto))) (.primitive v) members)

/-- What `typeof` says. -/
def typeName (v : Value) : Script ρ String := do
  match v with
  | .undefined => return "undefined"
  | .null => return "object"
  | .bool _ => return "boolean"
  | .int _ | .double _ => return "number"
  | .bigint _ _ => return "bigint"
  | .string _ _ => return "string"
  | .symbol _ => return "symbol"
  | .object _ => return if ← isCallable v then "function" else "object"

/-! ### Members of any value -/

def nullishName (v : Value) : String :=
  match v with
  | .null => "null"
  | _ => "undefined"

def readOfNullish (v : Value) (k : Key) : Script ρ α :=
  throwUnits .typeError
    (Units.ofString "cannot read property '" ++ k.shown ++ Units.ofString ("' of " ++ nullishName v))

def getMember (v : Value) (k : Key) : Script ρ Value := do
  match v with
  | .object r => r.get k
  | .string u _ =>
    match k with
    | .index i =>
      match u[i]? with
      | some c => newText [c]
      | none => get chainLimit (.builtin (.object .stringPrototype)) k v
    | k =>
      if k == lengthKey then return .ofNat u.length
      else get chainLimit (.builtin (.object .stringPrototype)) k v
  | v =>
    match primitivePrototype v with
    | some proto => get chainLimit (.builtin (.object proto)) k v
    | none => readOfNullish v k

def getMemberNamed (v : Value) (name : String) : Script ρ Value := getMember v (Key.ofString name)

/-- The number that is assigned where `v` is: for the length of an array it is asked for twice, and
both answers have to agree. -/
def assigned (r : Ref) (k : Key) (v : Value) : Script ρ Value := do
  if k != lengthKey || v.float?.isSome then return v
  match ← payload r with
  | .array =>
    let n ← toUInt32 v
    let x ← toNumber v
    if x.float? == some (Float.ofNat n.toNat) then return x else throwRange "invalid array length"
  | _ => return v

/-- Assigns to a member; in code that is not strict a refusal stays silent. -/
def setMember (strict : Bool) (target : Value) (k : Key) (v : Value) : Script ρ Unit := do
  match target with
  | .object r =>
    let refusal ← set chainLimit r k (← assigned r k v) target
    if strict then orRefuse refusal
    else
      match refusal with
      | some (.trap what) => if what == "cannot set property" then return () else orRefuse refusal
      | _ => return ()
  | .undefined | .null =>
    throwUnits .typeError
      (Units.ofString "cannot set property '" ++ k.shown
        ++ Units.ofString ("' of " ++ nullishName target))
  | primitive =>
    match primitivePrototype primitive with
    | some proto =>
      let refusal ← set chainLimit (.builtin (.object proto)) k v primitive
      if strict then orRefuse refusal
    | none => return ()

/-- A method that may be absent. -/
def getMethod (v : Value) (k : Key) : Script ρ (Option Value) := do
  let f ← getMember v k
  if f.isNullish then return none
  if ← isCallable f then return some f
  throwType "not a function"

def invoke (v : Value) (name : String) (args : List Value) : Script ρ Value := do
  callValue (← getMemberNamed v name) v args

/-! ### Comparison -/

def bigOfFloat? (x : Float) : Option Int := Number.whole? x

/-- Is the exact value of `x` below, equal to or above `i`?  Not-a-number is none of them. -/
def compareFloatInt (x : Float) (i : Int) : Option Ordering :=
  match Number.read x with
  | .nan => none
  | .infinite negative => some (if negative then .lt else .gt)
  | .finite d =>
    let num : Int := (if d.negative then -1 else 1) * (d.mantissa * 2 ^ d.exponent.toNat : Nat)
    let den : Int := (2 ^ (-d.exponent).toNat : Nat)
    some (compare num (i * den))

def looseEqPrimitive (a b : Value) : Option Bool :=
  match a, b with
  | .undefined, .null | .null, .undefined => some true
  | .bigint i _, .int j => some (i == j.toInt)
  | .int j, .bigint i _ => some (i == j.toInt)
  | .bigint i _, .double x => some (compareFloatInt x i == some .eq)
  | .double x, .bigint i _ => some (compareFloatInt x i == some .eq)
  | .bigint i _, .string u _ => some (Numeral.bigOfUnits? u == some i)
  | .string u _, .bigint i _ => some (Numeral.bigOfUnits? u == some i)
  | .string u _, b =>
    match b.float? with
    | some y => some (Numeral.ofUnits u == y)
    | none => none
  | a, .string u _ =>
    match a.float? with
    | some x => some (x == Numeral.ofUnits u)
    | none => none
  | _, _ => none

def boolNumber (v : Value) : Value :=
  match v with
  | .bool b => .int (if b then 1 else 0)
  | v => v

def isPrimitiveNonNullish : Value → Bool
  | .undefined | .null | .object _ => false
  | _ => true

/-- Equality of the `==` operator. -/
def looseEq (a b : Value) : Script ρ Bool := do
  let (a, b) ← match a, b with
    | .object _, b =>
      if isPrimitiveNonNullish b then pure (← toPrimitive .none a, b) else pure (a, b)
    | a, .object _ =>
      if isPrimitiveNonNullish a then pure (a, ← toPrimitive .none b) else pure (a, b)
    | a, b => pure (a, b)
  match a, b with
  | .bool x, .bool y => return x == y
  | a, b =>
    let (a, b) := (boolNumber a, boolNumber b)
    match looseEqPrimitive a b with
    | some r => return r
    | none => return Value.strictEq a b

/-- Order of two primitive values; `none` when one of them is not a number. -/
def comparePrimitives (a b : Value) : Script ρ (Option Ordering) := do
  match a, b with
  | .string x _, .string y _ =>
    return some (if Units.lt x y then .lt else if x == y then .eq else .gt)
  | .bigint i _, .string u _ =>
    return (Numeral.bigOfUnits? u).map fun j => compare i j
  | .string u _, .bigint i _ =>
    return (Numeral.bigOfUnits? u).map fun j => compare j i
  | a, b =>
    match ← primitiveNumeric a, ← primitiveNumeric b with
    | .int x, .int y => return some (compare x.toInt y.toInt)
    | .bigint x _, .bigint y _ => return some (compare x y)
    | .bigint x _, y =>
      match y.float? with
      | some y => return (compareFloatInt y x).map Ordering.swap
      | none => return none
    | x, .bigint y _ =>
      match x.float? with
      | some x => return compareFloatInt x y
      | none => return none
    | x, y =>
      match x.float?, y.float? with
      | some x, some y =>
        if Number.isNaN x || Number.isNaN y then return none
        return some (if x < y then .lt else if x == y then .eq else .gt)
      | _, _ => return none

def compareValues (a b : Value) : Script ρ (Option Ordering) := do
  match a, b with
  | .int x, .int y => return some (compare x.toInt y.toInt)
  | a, b =>
    let a ← toPrimitive .number a
    let b ← toPrimitive .number b
    comparePrimitives a b

/-! ### Arithmetic -/

/-- `x` to the power `n` by repeated squaring; `fuel` bounds the number of bits of `n`. -/
def powerNat (x : Float) : Nat → Nat → Float → Float
  | 0, _, acc => acc
  | fuel + 1, n, acc =>
    if n == 0 then acc
    else powerNat (x * x) fuel (n / 2) (if n % 2 == 1 then acc * x else acc)

/-- The double nearest to `m · 2^q`, for an odd power of two of any size. -/
def exactPower (base : Int) (n : Nat) : Float := Numeral.floatOfInt (base.pow n)

/-- Exponentiation: exact for whole numbers of moderate size. -/
def power (x y : Float) : Float :=
  if Number.isNaN y then Number.nan
  else if y == 0.0 then 1.0
  else if (x == 1.0 || x == -1.0) && !Number.isFinite y then Number.nan
  else
    match Number.whole? x, Number.whole? y with
    | some b, some n =>
      if 0 < n && n ≤ 4096 && b.natAbs ≤ 2 ^ (53 : Nat) then
        if b == 0 && Number.isNegative x && n % 2 == 1 then Number.negativeZero
        else exactPower b n.toNat
      else Float.pow x y
    | _, _ => Float.pow x y

inductive BigFault where
  /-- a division by zero, a negative exponent -/
  | invalid
  | outOfMemory

/-- Results of more bits than this are not computed. -/
def bigLimit : Nat := 1000000

def throwBig : BigFault → Script ρ α
  | .invalid => throwRange "invalid operation"
  | .outOfMemory => throwWorded .internalError "out of memory"

def bigShift (a : Int) (n : Int) : Except BigFault Int :=
  if n > bigLimit then (if a == 0 then .ok 0 else .error .outOfMemory)
  else if 0 ≤ n then .ok (a * (2 ^ n.toNat : Nat))
  else .ok (a.fdiv (2 ^ (min n.natAbs (a.natAbs.log2 + 1)) : Nat))

/-- Bits of two integers combined position by position, in two's complement. -/
def bigBits (f : Bool → Bool → Bool) (a b : Int) : Int :=
  let width := max a.natAbs.log2 b.natAbs.log2 + 2
  let bit (x : Int) (i : Nat) : Bool := (x.fdiv (2 ^ i : Nat)) % 2 == 1
  let sum := (List.range width).foldl (fun (s : Nat) i => if f (bit a i) (bit b i) then s + 2 ^ i else s) 0
  if f (a < 0) (b < 0) then (sum : Int) - (2 ^ width : Nat) else sum

def bigArithmetic (op : BinaryOp) (a b : Int) : Except BigFault Int :=
  match op with
  | .sub => .ok (a - b)
  | .mul => .ok (a * b)
  | .div => if b == 0 then .error .invalid else .ok (a.tdiv b)
  | .rem => if b == 0 then .error .invalid else .ok (a.tmod b)
  | .pow =>
    if b < 0 then .error .invalid
    else if a.natAbs ≥ 2 && b > bigLimit then .error .outOfMemory
    else if a.natAbs < 2 then .ok (if a == -1 then (if b % 2 == 0 then 1 else -1) else if b == 0 then 1 else a)
    else .ok (a.pow b.toNat)
  | .shiftLeft => bigShift a b
  | .shiftRight => bigShift a (-b)
  | .bitAnd => .ok (bigBits (· && ·) a b)
  | .bitOr => .ok (bigBits (· || ·) a b)
  | .bitXor => .ok (bigBits (· ^^ ·) a b)
  | _ => .ok (a + b)

/-- Remainder of two 32-bit integers as a number. -/
def intRemainder (a b : Int) : Value :=
  if a < 0 || b ≤ 0 then
    .ofFloat (Number.remainder (Float.ofInt a) (Float.ofInt b))
  else .ofInt (a % b)

def intArithmetic (op : BinaryOp) (a b : Int32) : Value :=
  let x := a.toInt
  let y := b.toInt
  match op with
  | .add => .ofInt (x + y)
  | .sub => .ofInt (x - y)
  | .mul => if x * y == 0 && (x < 0 || y < 0) then .double Number.negativeZero else .ofInt (x * y)
  | .div => .ofFloat (Float.ofInt x / Float.ofInt y)
  | .rem => intRemainder x y
  | .pow => .ofFloat (power (Float.ofInt x) (Float.ofInt y))
  | .shiftLeft => .int (a <<< (b &&& 31))
  | .shiftRight => .int (a >>> (b &&& 31))
  | .shiftRightZero => .ofNat (a.toUInt32 >>> (b.toUInt32 &&& 31)).toNat
  | .bitAnd => .int (a &&& b)
  | .bitOr => .int (a ||| b)
  | .bitXor => .int (a ^^^ b)
  | _ => .undefined

def isBitwise : BinaryOp → Bool
  | .shiftLeft | .shiftRight | .shiftRightZero | .bitAnd | .bitOr | .bitXor => true
  | _ => false

def floatArithmetic (op : BinaryOp) (x y : Float) : Value :=
  match op with
  | .add => .double (x + y)
  | .sub => .double (x - y)
  | .mul => .double (x * y)
  | .div => .double (x / y)
  | .rem => .double (Number.remainder x y)
  | .pow => .double (power x y)
  | op => intArithmetic op (Number.toInt32 x) (Number.toInt32 y)

/-- An arithmetic operator on numbers or big integers. -/
def numericArithmetic (op : BinaryOp) (a b : Value) : Script ρ Value := do
  match a, b with
  | .int x, .int y => return intArithmetic op x y
  | .bigint x _, .bigint y _ =>
    if op == .shiftRightZero then throwType "BigInt operands are forbidden for >>>"
    match bigArithmetic op x y with
    | .ok i => newBig i
    | .error f => throwBig f
  | a, b =>
    match a.float?, b.float? with
    | some x, some y => return floatArithmetic op x y
    | _, _ =>
      if op == .shiftRightZero then throwType "BigInt operands are forbidden for >>>"
      else if isBitwise op then throwType "both operands must be BigInt"
      else throwType "cannot convert to BigInt"

/-- One text behind another; next to an empty text the other one stays what it is. -/
def joinTexts (a b : Value) : Script ρ Value :=
  match a, b with
  | .string x _, .string y _ =>
    if x.isEmpty then pure b else if y.isEmpty then pure a else newText (x ++ y)
  | a, _ => pure a

def add (a b : Value) : Script ρ Value := do
  match a, b with
  | .int x, .int y => return intArithmetic .add x y
  | .string _ _, .string _ _ => joinTexts a b
  | a, b =>
    let a ← toPrimitive .none a
    let b ← toPrimitive .none b
    match a, b with
    | .string _ _, b => joinTexts a (← toText b)
    | a, .string _ _ => joinTexts (← toText a) b
    | a, b => numericArithmetic .add (← primitiveNumeric a) (← primitiveNumeric b)

def arithmetic (op : BinaryOp) (a b : Value) : Script ρ Value := do
  match op with
  | .add => add a b
  | op =>
    let a ← toNumeric a
    let b ← toNumeric b
    numericArithmetic op a b

/-- The unary `+`. -/
def plus (v : Value) : Script ρ Value := do
  match ← toNumeric v with
  | .bigint _ _ => throwType "BigInt argument with unary +"
  | v => return v

def negate (v : Value) : Script ρ Value := do
  match ← toNumeric v with
  | .int i =>
    if i == 0 then return .double Number.negativeZero
    else return .ofInt (-i.toInt)
  | .double x => return .double (-x)
  | .bigint i _ => newBig (-i)
  | v => return v

def bitNot (v : Value) : Script ρ Value := do
  match ← toNumeric v with
  | .bigint i _ => newBig (-i - 1)
  | v => return .int (-(1 : Int32) - (← toInt32 v))

/-- One more or one less. -/
def step (increment : Bool) (v : Value) : Script ρ Value :=
  match v with
  | .int i => pure (.ofInt (if increment then i.toInt + 1 else i.toInt - 1))
  | .double x => pure (.double (if increment then x + 1.0 else x - 1.0))
  | .bigint i _ => newBig (if increment then i + 1 else i - 1)
  | v => pure v

/-! ### Ancestry -/

/-- Does `target` stand in the chain of prototypes above `r`? -/
def hasAncestor (target : Ref) : Nat → Ref → Script ρ Bool
  | 0, _ => throwDeep
  | n + 1, r => do
    match ← r.getPrototype with
    | none => return false
    | some p => if p == target then return true else hasAncestor target n p

mutual

/-- Does the `prototype` of `f` stand above `v`?  A bound function asks its target. -/
def ordinaryInstance (n : Nat) (v f : Value) : Script ρ Bool :=
  match n with
  | 0 => throwDeep
  | n + 1 => do
    match f with
    | .object r =>
      if !(← isCallable f) then return false
      match ← payload r with
      | .bound target _ _ => instanceFrom n v (.object target)
      | _ =>
        match v with
        | .object o =>
          match ← r.getNamed "prototype" with
          | .object proto => hasAncestor proto chainLimit o
          | _ => throwType "operand 'prototype' property is not an object"
        | _ => return false
    | _ => return false
termination_by structural n

/-- The answer of `f` to whether `v` is an instance of it. -/
def instanceFrom (n : Nat) (v f : Value) : Script ρ Bool :=
  match n with
  | 0 => throwDeep
  | n + 1 => do
    match f with
    | .object _ =>
      match ← getMember f (.symbol symHasInstance) with
      | .undefined | .null =>
        if ← isCallable f then ordinaryInstance n v f
        else throwType "invalid 'instanceof' right operand"
      | .object (.builtin (.function (.function .hasInstance))) => ordinaryInstance n v f
      | m => return (← callValue m f [v]).truthy
    | _ => throwType "invalid 'instanceof' right operand"
termination_by structural n

end

def instanceOf (v f : Value) : Script ρ Bool := instanceFrom chainLimit v f

/-! ### Iteration -/

structure Iteration where
  iterator : Value
  next : Value

/-- The iterator that a method of `v` makes. -/
def iteratorWith (method v : Value) : Script ρ Ref := do
  match ← callValue method v [] with
  | .object r => return r
  | _ => throwType "not an object"

def iteratorOf (v : Value) : Script ρ Ref := do
  let method ← getMember v (.symbol symIterator)
  if ← isCallable method then iteratorWith method v else throwType "value is not iterable"

def Iteration.ofIterator (r : Ref) : Script ρ Iteration := do
  return ⟨.object r, ← r.getNamed "next"⟩

def iterate (v : Value) : Script ρ Iteration := do Iteration.ofIterator (← iteratorOf v)

/-- The next item, or `none` at the end. -/
def Iteration.step (it : Iteration) : Script ρ (Option Value) := do
  match ← callValue it.next it.iterator [] with
  | .object r =>
    if (← r.getNamed "done").truthy then return none
    return some (← r.getNamed "value")
  | _ => throwType "iterator must return an object"

/-- Tells the iterator that no more items are wanted. -/
def Iteration.close (it : Iteration) : Script ρ Unit := do
  match ← getMethod it.iterator (Key.ofString "return") with
  | none => return ()
  | some f =>
    match ← callValue f it.iterator [] with
    | .object _ => return ()
    | _ => throwType "not an object"

/-- Closes the iterator because of a thrown value, which stays the one that is thrown. -/
def Iteration.abandon (it : Iteration) (thrown : Value) : Script ρ α := do
  try it.close catch _ => pure ()
  throwValue thrown

def iterResult (v : Value) (done : Bool) : Script ρ Value := do
  return .object (← newObject [dataMember "value" v, dataMember "done" (.bool done)])

/-- How many items a loop over an unbounded source may take. -/
def loopLimit : Nat := 1000000000000

/-- Hands every item to `f`; a thrown value closes the iterator first. -/
def Iteration.forEach (it : Iteration) (f : Nat → Value → Script ρ Unit) : Nat → Nat → Script ρ Unit
  | 0, _ => throwDeep
  | n + 1, i => do
    match ← it.step with
    | none => return ()
    | some v =>
      try f i v catch e => it.abandon e
      it.forEach f n (i + 1)

/-- Folds `f` over the items; whatever fails closes the iterator, even when it fails itself. -/
def Iteration.foldAll (it : Iteration) (f : β → Nat → Value → Script ρ β) (start : β) : Script ρ β :=
  tryCatch (walk loopLimit 0 start) fun e => it.abandon e
where
  walk : Nat → Nat → β → Script ρ β
    | 0, _, _ => throwDeep
    | n + 1, i, b => do
      match ← it.step with
      | none => return b
      | some v => walk n (i + 1) (← f b i v)

/-- Hands every item of `v` to `f`; whatever fails closes the iterator, even when its `next` cannot
be read. -/
def eachOf (v : Value) (f : Nat → Value → Script ρ Unit) : Script ρ Unit := do
  let r ← iteratorOf v
  let it ← tryCatch (Iteration.ofIterator r) fun e => Iteration.abandon ⟨.object r, .undefined⟩ e
  it.foldAll (fun _ i v => f i v) ()

def Iteration.toListFrom (it : Iteration) : Nat → List Value → Script ρ (List Value)
  | 0, _ => throwDeep
  | n + 1, acc => do
    match ← it.step with
    | none => return acc.reverse
    | some v => it.toListFrom n (v :: acc)

/-- All items of an iterable value; an iterator that fails is closed. -/
def listOfIterable (v : Value) : Script ρ (List Value) := do
  let it ← iterate v
  tryCatch (it.toListFrom loopLimit []) fun e => it.abandon e

/-- The items of a value that is spread out; it is asked twice for the method that walks it. -/
def spreadItems (v : Value) : Script ρ (List Value) := do
  discard (getMember v (.symbol symIterator))
  listOfIterable v

/-! ### Lists -/

def lengthOf (r : Ref) : Script ρ Nat := do toLength (← r.get lengthKey)

def itemsFrom (r : Ref) : Nat → Nat → Script ρ (List Value)
  | 0, _ => return []
  | n + 1, i => do
    let v ← r.get (.index i)
    return v :: (← itemsFrom r n (i + 1))

/-- The length as an unsigned integer of 32 bits. -/
def length32Of (r : Ref) : Script ρ Nat := do return (← toUInt32 (← r.get lengthKey)).toNat

/-- The items of an array-like object. -/
def listOfArrayLike (v : Value) : Script ρ (List Value) := do
  match v with
  | .object r =>
    let n ← length32Of r
    if n > 65535 then throwRange "too many arguments in function call (only 65535 allowed)"
    itemsFrom r n 0
  | _ => throwType "not a object"

/-! ### Copying members -/

/-- Hands each enumerable own member of `source`, but those of `excluded` keys, to `f`.  Which
members are enumerable is settled at the start; only a proxy is asked when a member's turn comes. -/
def eachEnumerable (source : Ref) (excluded : List Key) (f : Key → Value → Script ρ Unit) :
    Script ρ Unit := do
  let shown (k : Key) : Script ρ (List Key) := do
    return if (← source.getOwn k).any Property.enumerable then [k] else []
  let copy (k : Key) : Script ρ Unit := do f k (← source.get k)
  let keys := (← source.ownKeys).filter fun k => !excluded.contains k
  match ← payload source with
  | .proxy _ => keys |> forEach fun k => do (← shown k) |> forEach copy
  | _ => (← mapEach shown keys).flatten |> forEach copy

/-! ### Constructors -/

/-- The prototype that a constructor call gives its instance. -/
def prototypeOf (newTarget : Ref) (default : BuiltinObject) : Script ρ Ref := do
  match ← newTarget.getNamed "prototype" with
  | .object p => return p
  | _ => return .builtin (.object default)

/-- The constructor that results of methods of `r` are made with. -/
def speciesOf (r : Ref) (default : NativeFn) : Script ρ Value := do
  let c ← r.getNamed "constructor"
  match c with
  | .undefined => return Value.native default
  | .object cr =>
    let s ← cr.get (.symbol symSpecies)
    if s.isNullish then return Value.native default
    if ← isConstructor s then return s
    throwType "not a constructor"
  | _ => throwType "not an object"

/-- Makes an instance as `f` does, for the constructor that `newTarget` is. -/
def constructFor (f : Value) (args : List Value) (newTarget : Ref) : Script ρ Value := do
  match f with
  | .object r =>
    if ← isConstructor f then construct r args newTarget else throwType "not a constructor"
  | _ => throwType "not a function"

def constructValue (f : Value) (args : List Value) : Script ρ Value :=
  match f with
  | .object r => constructFor f args r
  | _ => throwType "not a function"

/-! ### Names of functions -/

/-- A function's name as `kind` shows it: accessors say which they are. -/
def memberName (k : Key) (label : String) : Units :=
  if label == "" then k.functionName else Units.ofString (label ++ " ") ++ k.functionName

def functionMembers (name : Units) (length : Nat) : List (Key × Property) :=
  [(lengthKey, .data (.ofNat length) false false true),
   (Key.ofString "name", .data (.spelled name) false false true)]

/-- A function made by the engine itself. -/
def newHelper (h : Helper) (length : Nat) : Script ρ Ref :=
  request (.make (some (.builtin (.object .functionPrototype))) (.helper h) (functionMembers [] length))

end ScriptBridge.Script
