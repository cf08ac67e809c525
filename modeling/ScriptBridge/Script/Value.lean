import ScriptBridge.Number.Text
import ScriptBridge.Script.Builtin.Names
import ScriptBridge.Text.Units

/-!
Values, property keys and properties.

A number is a 32-bit integer or a double; the two may be equal as numbers and still differ as
values, and both kinds cross the bridge as they are.  Text that names an array index is the key
`index`, so equal keys are equal data.
-/
namespace ScriptBridge.Script

open Text

/-- What a private name of a class stands for. -/
inductive Secret where
  | field | method | getter | setter | accessor
  deriving Repr, DecidableEq

namespace Secret

/-- Two declarations of one name: an accessor has two halves. -/
def join : Secret → Secret → Secret
  | .getter, .setter | .setter, .getter => .accessor
  | _, s => s

def isReadable (s : Secret) : Bool := s != .setter

def isWritable : Secret → Bool
  | .field | .setter | .accessor => true
  | .method | .getter => false

end Secret

/-- A symbol; a `secret` one is the key of a private member and is never listed. -/
structure Symbol where
  id : Nat
  description : Option Units
  secret : Option Secret
  deriving Repr, DecidableEq

/-- Where an object lives: among those every script starts with, or on the heap. -/
inductive Ref where
  | builtin (b : Builtin)
  | made (n : Nat)
  deriving Repr, DecidableEq

/-- Tells texts and large integers of equal content apart: each that a script computes has a mark of
its own, and all texts that it spells out share the mark `0`. -/
abbrev Mark := Nat

inductive Value where
  | undefined
  | null
  | bool (b : Bool)
  | int (i : Int32)
  | double (x : Float)
  | bigint (i : Int) (mark : Mark)
  | string (u : Units) (mark : Mark)
  | symbol (s : Symbol)
  | object (r : Ref)
  deriving Repr

instance : Inhabited Value := ⟨.undefined⟩

namespace Value

/-- Text that is spelled out. -/
def spelled (u : Units) : Value := .string u 0

def text (s : String) : Value := spelled (Units.ofString s)

/-- An integer as the number that it is. -/
def ofInt (i : Int) : Value :=
  if -2147483648 ≤ i && i ≤ 2147483647 then .int (Int32.ofInt i) else .double (Float.ofInt i)

def ofNat (n : Nat) : Value := ofInt n

/-- A double as an integer when it is one that fits, negative zero excepted. -/
def ofFloat (x : Float) : Value :=
  match Number.read x with
  | .finite d =>
    if d.isWhole && !(d.mantissa == 0 && d.negative) then
      let i := d.truncate
      if -2147483648 ≤ i && i ≤ 2147483647 then .int (Int32.ofInt i) else .double x
    else .double x
  | _ => .double x

def builtin (o : BuiltinObject) : Value := .object (.builtin (.object o))

/-- The units of a text. -/
def units : Value → Units
  | .string u _ => u
  | _ => []

def native (f : NativeFn) : Value := .object (.builtin (.function f))

def isNullish : Value → Bool
  | .undefined | .null => true
  | _ => false

def isUndefined : Value → Bool
  | .undefined => true
  | _ => false

def object? : Value → Option Ref
  | .object r => some r
  | _ => none

/-- The number that a value of a number kind is. -/
def float? : Value → Option Float
  | .int i => some (Float.ofInt i.toInt)
  | .double x => some x
  | _ => none

/-- Equality of the `===` operator. -/
def strictEq : Value → Value → Bool
  | .undefined, .undefined => true
  | .null, .null => true
  | .bool a, .bool b => a == b
  | .int a, .int b => a == b
  | .int a, .double b => Float.ofInt a.toInt == b
  | .double a, .int b => a == Float.ofInt b.toInt
  | .double a, .double b => a == b
  | .bigint a _, .bigint b _ => a == b
  | .string a _, .string b _ => a == b
  | .symbol a, .symbol b => a.id == b.id
  | .object a, .object b => a == b
  | _, _ => false

/-- The same value, not merely an equal one. -/
def identical : Value → Value → Bool
  | .bigint a m, .bigint b n => m == n && a == b
  | .string a m, .string b n => m == n && a == b
  | .double x, .double y => x.toBits == y.toBits
  | .int _, .double _ | .double _, .int _ => false
  | a, b => strictEq a b

/-- Equality in which every number equals itself; `zeros` says whether both zeros are one. -/
def same (zeros : Bool) (a b : Value) : Bool :=
  match a.float?, b.float? with
  | some x, some y =>
    if Number.isNaN x then Number.isNaN y
    else x == y && (zeros || Number.isNegative x == Number.isNegative y)
  | _, _ => strictEq a b

/-- Whether a test takes the value for true. -/
def truthy : Value → Bool
  | .undefined | .null => false
  | .bool b => b
  | .int i => i != 0
  | .double x => !(x == 0.0) && !Number.isNaN x
  | .bigint i _ => i != 0
  | .string u _ => !u.isEmpty
  | .symbol _ | .object _ => true

end Value

/-! ### Keys -/

inductive Key where
  | index (n : Nat)
  | name (u : Units)
  | symbol (s : Symbol)
  deriving Repr, DecidableEq

namespace Key

def ofUnits (u : Units) : Key :=
  match Units.arrayIndex? u with
  | some n => .index n
  | none => .name u

def ofString (s : String) : Key := ofUnits (Units.ofString s)

/-- Any integer names a key: an index, or the text of its digits. -/
def ofInt (i : Int) : Key :=
  match i with
  | .ofNat n => if n < 4294967295 then .index n else .name (Units.ofNat n)
  | .negSucc n => .name (Units.ofInt (.negSucc n))

/-- The text of a key; a symbol's is its description. -/
def units : Key → Units
  | .index n => Units.ofNat n
  | .name u => u
  | .symbol s => s.description.getD []

/-- The text of a key as messages show it. -/
def shown (k : Key) : Units := Units.shown k.units

def toValue : Key → Value
  | .index n => .spelled (Units.ofNat n)
  | .name u => .spelled u
  | .symbol s => .symbol s

def isSymbol : Key → Bool
  | .symbol _ => true
  | _ => false

/-- What the key of a private member stands for. -/
def secret? : Key → Option Secret
  | .symbol s => s.secret
  | _ => none

def isSecret (k : Key) : Bool := k.secret?.isSome

/-- The name that a function under this key shows. -/
def functionName : Key → Units
  | .symbol s =>
    match s.description with
    | some d => if s.secret.isSome then d else 91 :: d ++ [93]
    | none => []
  | k => k.units

end Key

/-! ### Symbols that every script knows -/

def wellKnown (id : Nat) (name : String) : Symbol := ⟨id, some (Units.ofString name), none⟩

def symIterator : Symbol := wellKnown 0 "Symbol.iterator"
def symAsyncIterator : Symbol := wellKnown 1 "Symbol.asyncIterator"
def symHasInstance : Symbol := wellKnown 2 "Symbol.hasInstance"
def symToPrimitive : Symbol := wellKnown 3 "Symbol.toPrimitive"
def symToStringTag : Symbol := wellKnown 4 "Symbol.toStringTag"
def symSpecies : Symbol := wellKnown 5 "Symbol.species"
def symConcatSpreadable : Symbol := wellKnown 6 "Symbol.isConcatSpreadable"
def symUnscopables : Symbol := wellKnown 7 "Symbol.unscopables"
def symMatch : Symbol := wellKnown 8 "Symbol.match"
def symMatchAll : Symbol := wellKnown 9 "Symbol.matchAll"
def symReplace : Symbol := wellKnown 10 "Symbol.replace"
def symSearch : Symbol := wellKnown 11 "Symbol.search"
def symSplit : Symbol := wellKnown 12 "Symbol.split"

/-- Symbols made by scripts are numbered from here. -/
def firstFreeSymbol : Nat := 13

/-! ### Properties -/

inductive Property where
  | data (value : Value) (writable enumerable configurable : Bool)
  | accessor (get set : Option Ref) (enumerable configurable : Bool)
  /-- a function's prototype object, made when somebody first looks -/
  | pendingPrototype
  deriving Repr

namespace Property

def enumerable : Property → Bool
  | .data _ _ e _ => e
  | .accessor _ _ e _ => e
  | .pendingPrototype => false

def configurable : Property → Bool
  | .data _ _ _ c => c
  | .accessor _ _ _ c => c
  | .pendingPrototype => false

/-- As assignment creates it. -/
def plain (v : Value) : Property := .data v true true true

/-- As built-in methods are. -/
def hidden (v : Value) : Property := .data v true false true

/-- Never to be changed. -/
def fixed (v : Value) : Property := .data v false false false

end Property

/-- A partial description of a property; what is absent stays as it is. -/
structure Change where
  value : Option Value := none
  writable : Option Bool := none
  get : Option (Option Ref) := none
  set : Option (Option Ref) := none
  enumerable : Option Bool := none
  configurable : Option Bool := none

namespace Change

def ofProperty : Property → Change
  | .data v w e c => { value := some v, writable := some w, enumerable := some e, configurable := some c }
  | .accessor g s e c =>
    { get := some g, set := some s, enumerable := some e, configurable := some c }
  | .pendingPrototype => {}

def isAccessor (c : Change) : Bool := c.get.isSome || c.set.isSome

def isData (c : Change) : Bool := c.value.isSome || c.writable.isSome

/-- A new property of this description. -/
def toProperty (c : Change) : Property :=
  if c.isAccessor then
    .accessor (c.get.getD none) (c.set.getD none) (c.enumerable.getD false) (c.configurable.getD false)
  else
    .data (c.value.getD .undefined) (c.writable.getD false) (c.enumerable.getD false)
      (c.configurable.getD false)

/-- The change keeps what an unchangeable property fixes. -/
def admits (c : Change) (p : Property) : Bool :=
  if p.configurable then true
  else if c.configurable == some true then false
  else if c.enumerable.any (· != p.enumerable) then false
  else
    match p with
    | .data v w _ _ =>
      if c.isAccessor then false
      else if w then true
      else c.writable != some true && c.value.all (Value.same false v)
    | .accessor g s _ _ =>
      !c.isData && c.get.all (· == g) && c.set.all (· == s)
    | .pendingPrototype => true

/-- The property after an admitted change. -/
def applyTo (c : Change) (p : Property) : Property :=
  let e := c.enumerable.getD p.enumerable
  let k := c.configurable.getD p.configurable
  match p with
  | .data v w _ _ =>
    if c.isAccessor then .accessor (c.get.getD none) (c.set.getD none) e k
    else .data (c.value.getD v) (c.writable.getD w) e k
  | .accessor g s _ _ =>
    if c.isData then .data (c.value.getD .undefined) (c.writable.getD false) e k
    else .accessor (c.get.getD g) (c.set.getD s) e k
  | .pendingPrototype => c.toProperty

end Change

end ScriptBridge.Script
