import ScriptBridge.Number.Elementary
import ScriptBridge.Script.Builtin.Object

/-!
`Number`, `Boolean`, `BigInt`, `Math` and the numeric functions of the global object.
-/
namespace ScriptBridge.Script.Builtins

open Text Script
open scoped Number

variable {ρ α : Type}

/-! ### `Number` -/

def thisNumber (this : Value) : Script ρ Value := do
  match this with
  | .int _ | .double _ => return this
  | .object r =>
    match ← payload r with
    | .primitive v => if v.float?.isSome then return v else throwType "not a number"
    | _ => throwType "not a number"
  | _ => throwType "not a number"

def digitsArgument (v : Value) (low high : Int) : Script ρ Nat := do
  let n ← toInteger v
  if n < low || n > high then throwRange ("toFixed() digits argument must be between "
    ++ toString low ++ " and " ++ toString high)
  return n.toNat

/-- A number's text by `f`, or its plain text when it is not finite. -/
def finiteText (x : Float) (f : Number.Dyadic → List Char) : Units :=
  match Number.read x with
  | .finite d => Units.ofChars (f d)
  | _ => Numeral.floatUnits x

def numberText (v radix : Value) : Script ρ Units := do
  let base ← if radix.isUndefined then pure 10 else toInteger radix
  if base < 2 || base > 36 then throwRange "radix must be between 2 and 36"
  let x := v.float?.getD Number.nan
  if base == 10 then primitiveUnits v
  else return finiteText x fun _ => Number.inBase base.toNat x

def isWhole (v : Value) : Bool :=
  match v.float? with
  | some x => (Number.whole? x).isSome
  | none => false

def isSafe (v : Value) : Bool :=
  match v.float? with
  | some x =>
    match Number.whole? x with
    | some i => i.natAbs ≤ 9007199254740991
    | none => false
  | none => false

def numberCall (f : NumberFn) (this : Value) (args : List Value) (newTarget : Option Ref) :
    Script ρ Value := do
  let a := arg args 0
  match f with
  | .constructor =>
    let v ← match args with
      | [] => pure (Value.int 0)
      | v :: _ => do
        match ← toNumeric v with
        | .bigint i _ => pure (Value.double (Numeral.floatOfInt i))
        | v => pure v
    match newTarget with
    | some t =>
      let proto ← prototypeOf t .numberPrototype
      return .object (← request (.make (some proto) (.primitive v) []))
    | none => return v
  | .isNaN => return .bool (a.float?.any Number.isNaN)
  | .isFinite => return .bool (a.float?.any Number.isFinite)
  | .isInteger => return .bool (isWhole a)
  | .isSafeInteger => return .bool (isSafe a)
  | .toString => newText (← numberText (← thisNumber this) a)
  | .toLocaleString => newText (← numberText (← thisNumber this) .undefined)
  | .valueOf => thisNumber this
  | .toFixed =>
    let v ← thisNumber this
    let n ← digitsArgument a 0 100
    let x := v.float?.getD Number.nan
    if !Number.isNaN x && (x ≥ 1e21 || x ≤ -1e21) then return ← newText (Numeral.floatUnits x)
    newText (finiteText x fun d => Number.toFixed d n)
  | .toExponential =>
    let v ← thisNumber this
    let n ← toInteger a
    let x := v.float?.getD Number.nan
    if !Number.isFinite x then return ← newText (Numeral.floatUnits x)
    if n < 0 || n > 100 then throwRange "toExponential() argument must be between 0 and 100"
    if a.isUndefined then
      return ← newText (finiteText x fun d =>
        let digits := (Number.shortest d.mantissa d.exponent).digits
        Number.toExponential d ((Number.digitChars digits).length - 1))
    newText (finiteText x fun d => Number.toExponential d n.toNat)
  | .toPrecision =>
    let v ← thisNumber this
    if a.isUndefined then return ← newText (← primitiveUnits v)
    let n ← toInteger a
    let x := v.float?.getD Number.nan
    if !Number.isFinite x then return ← newText (Numeral.floatUnits x)
    if n < 1 || n > 100 then throwRange "toPrecision() argument must be between 1 and 100"
    newText (finiteText x fun d => Number.toPrecision d n.toNat)

/-! ### `Boolean` -/

def thisBool (this : Value) : Script ρ Bool := do
  match this with
  | .bool b => return b
  | .object r =>
    match ← payload r with
    | .primitive (.bool b) => return b
    | _ => throwType "not a boolean"
  | _ => throwType "not a boolean"

def booleanCall (f : BooleanFn) (this : Value) (args : List Value) (newTarget : Option Ref) :
    Script ρ Value := do
  match f with
  | .constructor =>
    let v := Value.bool (arg args 0).truthy
    match newTarget with
    | some t =>
      let proto ← prototypeOf t .booleanPrototype
      return .object (← request (.make (some proto) (.primitive v) []))
    | none => return v
  | .toString => return Value.text (if ← thisBool this then "true" else "false")
  | .valueOf => return .bool (← thisBool this)

/-! ### `BigInt` -/

def thisBig (this : Value) : Script ρ Int := do
  match this with
  | .bigint i _ => return i
  | .object r =>
    match ← payload r with
    | .primitive (.bigint i _) => return i
    | _ => throwType "not a BigInt"
  | _ => throwType "not a BigInt"

/-- The integer that the lowest `n` bits of `i` are, with or without a sign. -/
def lowBits (signed : Bool) (n : Nat) (i : Int) : Script ρ Int := do
  let width := i.natAbs.log2 + 2
  if width ≤ n && (signed || 0 ≤ i) then return i
  if n > bigLimit then throwBig .outOfMemory
  if n == 0 then return 0
  return if signed then Int.bmod i (2 ^ n) else i.emod (2 ^ n : Nat)

def bigInBase (base : Nat) (i : Int) : List Char :=
  (if i < 0 then ['-'] else []) ++ Number.natInBase base i.natAbs

def bigintCall (f : BigIntFn) (this : Value) (args : List Value) (newTarget : Option Ref) :
    Script ρ Value := do
  let a := arg args 0
  match f with
  | .constructor =>
    if newTarget.isSome then throwType "not a constructor"
    match ← toPrimitive .number a with
    | .int i => newBig i.toInt
    | .double x =>
      match Number.whole? x with
      | some i => newBig i
      | none =>
        if Number.isFinite x then throwRange "cannot convert to BigInt: not an integer"
        throwRange "cannot convert NaN or Infinity to BigInt"
    | v => newBig (← toBig v)
  | .asIntN =>
    let n ← toIndex a
    newBig (← lowBits true n (← toBig (arg args 1)))
  | .asUintN =>
    let n ← toIndex a
    newBig (← lowBits false n (← toBig (arg args 1)))
  | .toString =>
    let i ← thisBig this
    let base ← if a.isUndefined then pure 10 else toInteger a
    if base < 2 || base > 36 then throwRange "radix must be between 2 and 36"
    newText (Units.ofChars (bigInBase base.toNat i))
  | .toLocaleString => newText (Units.ofInt (← thisBig this))
  | .valueOf => newBig (← thisBig this)

/-! ### `Math` -/

/-- The nearest whole number, a half going up. -/
def roundHalf (x : Float) : Float :=
  if !Number.isFinite x || (Number.whole? x).isSome then x
  else
    let below := Number.floor x
    let f := if x - below ≥ 0.5 then below + 1.0 else below
    if f == 0.0 && Number.isNegative x then Number.negativeZero else f

def signOf (x : Float) : Float := if Number.isNaN x || x == 0.0 then x else if x < 0.0 then -1.0 else 1.0

/-- The greater or the smaller of two numbers; not-a-number wins, and `-0` is below `0`. -/
def extreme (greater : Bool) (x y : Float) : Float :=
  if Number.isNaN x || Number.isNaN y then Number.nan
  else if x == 0.0 && y == 0.0 then
    if Number.isNegative x != greater then x else y
  else if (x > y) == greater then x else y

/-- The longest side over two others, without leaving the range on the way. -/
def hypotenuse (x y : Float) : Float :=
  let longer := if x.abs > y.abs then x.abs else y.abs
  let scale : Int := if longer > 1e150 then -600 else if longer < 1e-150 then 600 else 0
  let a := x.scaleB scale
  let b := y.scaleB scale
  (a * a + b * b).sqrt.scaleB (-scale)

def unaryMath : MathFn → Float → Float
  | .floor, x => Number.floor x
  | .ceil, x => Number.ceil x
  | .round, x => roundHalf x
  | .trunc, x => Number.truncate x
  | .sign, x => signOf x
  | .abs, x => if Number.isNegative x then -x else x
  | .sqrt, x => x.sqrt
  | .acos, x => x.acos
  | .asin, x => x.asin
  | .atan, x => x.atan
  | .cos, x => x.cos
  | .exp, x => x.exp
  | .log, x => x.log
  | .sin, x => x.sin
  | .tan, x => x.tan
  | .cosh, x => x.cosh
  | .sinh, x => x.sinh
  | .tanh, x => x.tanh
  | .acosh, x => x.acosh
  | .asinh, x => x.asinh
  | .atanh, x => x.atanh
  | .expm1, x => Number.exponentialLess1 x
  | .log1p, x => Number.logarithmOf1Plus x
  | .log2, x => x.log2
  | .log10, x => x.log10
  | .cbrt, x => Number.cubeRoot x
  | .fround, x => x.toFloat32.toFloat
  | _, x => x

def mathCall (f : MathFn) (args : List Value) : Script ρ Value := do
  let a := arg args 0
  let b := arg args 1
  match f with
  | .min | .max =>
    let xs ← mapEach toFloat args
    let start := if f == .max then -Number.infinity else Number.infinity
    return .ofFloat (xs.foldl (extreme (f == .max)) start)
  | .atan2 =>
    let y ← toFloat a
    return .ofFloat (Float.atan2 y (← toFloat b))
  | .pow =>
    let x ← toFloat a
    return .ofFloat (power x (← toFloat b))
  | .hypot =>
    let xs ← mapEach toFloat args
    if xs.any fun x => !Number.isFinite x && !Number.isNaN x then return .double Number.infinity
    return .double (xs.foldl hypotenuse 0.0)
  | .random => return .double 0.5
  | .imul =>
    let x ← toInt32 a
    return .int (x * (← toInt32 b))
  | .clz32 =>
    let n := (← toUInt32 a).toNat
    return .ofNat (if n == 0 then 32 else 31 - n.log2)
  | f => return .ofFloat (unaryMath f (← toFloat a))

/-! ### Reading numbers -/

/-- The integer at the front of a text, in a base given or marked. -/
def parseIntOf (u : Units) (radix : Int) : Value :=
  let cs := Numeral.plainChars (Numeral.trimStart u)
  let (negative, cs) := match cs with
    | '-' :: rest => (true, rest)
    | '+' :: rest => (false, rest)
    | rest => (false, rest)
  let (base, cs) := match radix == 0 || radix == 16, cs with
    | true, '0' :: 'x' :: rest | true, '0' :: 'X' :: rest => (16, rest)
    | _, cs => (if radix == 0 then 10 else radix, cs)
  if base < 2 || base > 36 then .double Number.nan
  else
    let (x, count, _) := Number.takeInBase base.toNat cs
    if count == 0 then .double Number.nan else .ofFloat (if negative then -x else x)

def parseFloatOf (u : Units) : Value :=
  let cs := Numeral.plainChars (Numeral.trimStart u)
  let (negative, cs) := match cs with
    | '-' :: rest => (true, rest)
    | '+' :: rest => (false, rest)
    | rest => (false, rest)
  let x := if "Infinity".toList.isPrefixOf cs then some Number.infinity
    else (Number.takeDecimal cs).map Prod.fst
  match x with
  | some x => .ofFloat (if negative then -x else x)
  | none => .double Number.nan

/-! ### Text for addresses -/

def hexUnits (n : Nat) : Units :=
  let d (k : Nat) : UInt16 := UInt16.ofNat (if k < 10 then 48 + k else 55 + k)
  [d (n / 16), d (n % 16)]

def isWordUnit (u : UInt16) : Bool :=
  (48 ≤ u && u ≤ 57) || (65 ≤ u && u ≤ 90) || (97 ≤ u && u ≤ 122) || u == 95

def inUnits (u : UInt16) (s : String) : Bool := (Units.ofString s).contains u

/-- Bytes of a scalar value in the eight-bit form. -/
def utf8Of (n : Nat) : List Nat := (String.singleton (Char.ofNat n)).toUTF8.toList.map UInt8.toNat

def encodeText (kept : UInt16 → Bool) (u : Units) : Script ρ Units := do
  let one (n : Nat) : Script ρ Units := do
    if n < 128 && kept (UInt16.ofNat n) then return [UInt16.ofNat n]
    if Units.isSurrogate n then
      throwWorded .uriError (if n < 0xDC00 then "expecting surrogate pair" else "invalid character")
    return (utf8Of n).flatMap fun b => 37 :: hexUnits b
  return (← mapEach one (Units.codePoints u)).flatten

def hexPair? (u : Units) : Option (Nat × Units) :=
  match u with
  | 37 :: a :: b :: rest =>
    match Number.digitValue? (Char.ofNat a.toNat), Number.digitValue? (Char.ofNat b.toNat) with
    | some x, some y => if x < 16 && y < 16 then some (x * 16 + y, rest) else none
    | _, _ => none
  | _ => none

/-- The byte that an escape stands for, and the text behind it. -/
def escapedByte (u : Units) : Script ρ (Nat × Units) :=
  match hexPair? u, u with
  | some x, _ => pure x
  | none, 37 :: _ => throwWorded .uriError "expecting hex digit"
  | none, _ => throwWorded .uriError "expecting %"

/-- The bytes that follow the first of a character: their number, the least character that needs so
many, and the first byte's share of it. -/
def leadByte (b : Nat) : Nat × Nat × Nat :=
  if 0xC0 ≤ b && b ≤ 0xDF then (1, 0x80, b - 0xC0)
  else if 0xE0 ≤ b && b ≤ 0xEF then (2, 0x800, b - 0xE0)
  else if 0xF0 ≤ b && b ≤ 0xF7 then (3, 0x10000, b - 0xF0)
  else (0, 1, 0)

/-- Adds the escaped bytes that follow the first; one that does not belong ends the character with
nothing. -/
def followingBytes : Nat → Nat → Units → Script ρ (Nat × Units)
  | 0, value, u => pure (value, u)
  | n + 1, value, u => do
    let (b, rest) ← escapedByte u
    if b < 0x80 || b ≥ 0xC0 then return (0, rest)
    followingBytes n (value * 64 + (b - 0x80)) rest

/-- Reads escapes back; an escape of a character in `reserved` stays as it is. -/
def decodeText (reserved : UInt16 → Bool) : Nat → Units → Script ρ Units
  | 0, u => pure u
  | _ + 1, [] => pure []
  | n + 1, u :: rest => do
    if u != 37 then return u :: (← decodeText reserved n rest)
    let (b, after) ← escapedByte (u :: rest)
    if b < 0x80 then
      if reserved (UInt16.ofNat b) then return u :: (← decodeText reserved n rest)
      return UInt16.ofNat b :: (← decodeText reserved n after)
    let (count, least, start) := leadByte b
    let (value, after) ← followingBytes count start after
    if value < least || value > 0x10FFFF || Units.isSurrogate value then
      throwWorded .uriError "malformed UTF-8"
    return Units.ofCodePoint value ++ (← decodeText reserved n after)

/-- Escapes every unit outside a small set. -/
def escapeText (u : Units) : Units :=
  u.flatMap fun c =>
    if isWordUnit c || inUnits c "@*+-./" then [c]
    else if c < 256 then 37 :: hexUnits c.toNat
    else 37 :: 117 :: (hexUnits (c.toNat / 256) ++ hexUnits (c.toNat % 256))

def unescapeText : Nat → Units → Units
  | 0, u => u
  | _ + 1, [] => []
  | n + 1, u :: rest =>
    match hexPair? (u :: rest) with
    | some (b, after) => UInt16.ofNat b :: unescapeText n after
    | none =>
      match u :: rest with
      | 37 :: 117 :: a :: b :: c :: d :: after =>
        match hexPair? [37, a, b], hexPair? [37, c, d] with
        | some (x, _), some (y, _) => UInt16.ofNat (x * 256 + y) :: unescapeText n after
        | _, _ => u :: unescapeText n rest
      | _ => u :: unescapeText n rest

/-- Functions of the global object that need no evaluator. -/
def globalCall (f : GlobalFn) (args : List Value) : Script ρ Value := do
  let a := arg args 0
  match f with
  | .parseInt =>
    let u ← toUnits a
    let radix ← toInt32 (arg args 1)
    return parseIntOf u radix.toInt
  | .parseFloat => return parseFloatOf (← toUnits a)
  | .isNaN => return .bool (Number.isNaN (← toFloat a))
  | .isFinite => return .bool (Number.isFinite (← toFloat a))
  | .queueMicrotask =>
    match a, ← isCallable a with
    | .object r, true =>
      request (.enqueue (.microtask r))
      return .undefined
    | _, _ => throwType "not a function"
  | .encodeURIComponent =>
    newText (← encodeText (fun u => isWordUnit u || inUnits u "-.!~*'()") (← toUnits a))
  | .encodeURI =>
    newText (← encodeText (fun u => isWordUnit u || inUnits u "-.!~*'();/?:@&=+$,#") (← toUnits a))
  | .decodeURIComponent =>
    let u ← toUnits a
    newText (← decodeText (fun _ => false) (u.length + 1) u)
  | .decodeURI =>
    let u ← toUnits a
    newText (← decodeText (fun c => inUnits c ";/?:@&=+$,#") (u.length + 1) u)
  | .escape => newText (escapeText (← toUnits a))
  | .unescape =>
    let u ← toUnits a
    newText (unescapeText (u.length + 1) u)
  | .evaluate => return a

end ScriptBridge.Script.Builtins
