import ScriptBridge.Script.Promise

/-!
`Object`, `Reflect` and `Proxy`: the operations of objects as functions.
-/
namespace ScriptBridge.Script

open Text Script

variable {ρ α : Type}

/-! ### Arguments -/

def arg (args : List Value) (i : Nat) : Value := args.getD i .undefined

def needObject (v : Value) : Script ρ Ref :=
  match v with
  | .object r => pure r
  | _ => throwType "not an object"

def needFunction (v : Value) : Script ρ Unit := do
  if !(← isCallable v) then throwType "not a function"

/-- Is the value an array, or a proxy of one? -/
def isArrayFrom : Nat → Value → Script ρ Bool
  | 0, _ => throwDeep
  | n + 1, v => do
    match v with
    | .object r =>
      match ← payload r with
      | .array => return true
      | .proxy p =>
        if p.revoked then throwType "revoked proxy"
        isArrayFrom n (.object p.target)
      | _ => return false
    | _ => return false

def isArray (v : Value) : Script ρ Bool := isArrayFrom chainLimit v

namespace Builtins

/-! ### Integrity -/

/-- Makes every own property unchangeable, and with `frozen` also unwritable. -/
def fixAll (r : Ref) (frozen : Bool) : Script ρ Unit := do
  if !(← r.preventExtensions) then throwType "proxy preventExtensions handler returned false"
  (← r.ownKeys) |> forEach fun k => do
    let writable ← do
      if frozen then
        match ← r.getOwn k with
        | some (.data _ true _ _) => pure (some false)
        | _ => pure none
      else pure none
    orRefuse (← r.defineOwn k { configurable := some false, writable := writable })

def isFixed (r : Ref) (frozen : Bool) : Script ρ Bool := do
  let bad (found : Bool) (k : Key) : Script ρ Bool := do
    if found then return true
    match ← r.getOwn k with
    | some (.data _ w _ c) => return c || (frozen && w)
    | some p => return p.configurable
    | none => return false
  if ← foldEach bad false (← r.ownKeys) then return false
  return !(← r.isExtensible)

/-! ### Listings -/

inductive Listing where
  | keys | values | entries

/-- Own enumerable members with string keys. -/
def listMembers (r : Ref) (l : Listing) : Script ρ Value := do
  let one (k : Key) : Script ρ (List Value) := do
    if k.isSymbol then return []
    match ← r.getOwn k with
    | some p =>
      if !p.enumerable then return []
      match l with
      | .keys => return [k.toValue]
      | .values => return [← r.get k]
      | .entries => return [.object (← newArray [k.toValue, ← r.get k])]
    | none => return []
  let lists ← mapEach one (← r.ownKeys)
  return .object (← newArray lists.flatten)

/-- The change of the member `k` of `r` that a value describes. -/
def changeOf (r : Ref) (k : Key) (v : Value) : Script ρ Change := do
  match v with
  | .object d =>
    let c ← d.readChange
    match c.value with
    | some x => return { c with value := some (← assigned r k x) }
    | none => return c
  | _ => throwType "Property description must be an object"

/-- Defines the properties that the enumerable members of `descriptions` describe, one by one. -/
def defineAll (r : Ref) (descriptions : Value) : Script ρ Unit := do
  let d ← toObject descriptions
  let shown (k : Key) : Script ρ (List Key) := do
    return if (← d.getOwn k).any Property.enumerable then [k] else []
  (← mapEach shown (← d.ownKeys)).flatten |> forEach fun k => do
    orRefuse (← r.defineOwn k (← changeOf r k (← d.get k)))

/-- Groups items by what a function says of each; the groups keep the order of their first. -/
def groupItems (source f : Value) (key : Value → Script ρ Value) : Script ρ (List (Value × List Value)) := do
  needFunction f
  let add (groups : List (Value × List Value)) (i : Nat) (v : Value) :
      Script ρ (List (Value × List Value)) := do
    return place (← key (← callValue f .undefined [v, .ofNat i])) v groups
  (← iterate source).foldAll add []
where
  place (k v : Value) : List (Value × List Value) → List (Value × List Value)
    | [] => [(k, [v])]
    | g :: rest =>
      if Value.same true g.1 k then (g.1, g.2 ++ [v]) :: rest else g :: place k v rest

def toStringTag (v : Value) : Script ρ Units := do
  match v with
  | .undefined => return Units.ofString "[object Undefined]"
  | .null => return Units.ofString "[object Null]"
  | v =>
    let r ← toObject v
    let plain ← do
      if ← isArray (.object r) then pure "Array"
      else if ← isCallable (.object r) then pure "Function"
      else
        match ← payload r with
        | .error => pure "Error"
        | .primitive p =>
          match p with
          | .bool _ => pure "Boolean"
          | .int _ | .double _ => pure "Number"
          | .string _ _ => pure "String"
          | _ => pure "Object"
        | .date _ => pure "Date"
        | .regexp .. => pure "RegExp"
        | .arguments _ => pure "Arguments"
        | _ => pure "Object"
    let tag ← r.get (.symbol symToStringTag)
    let name := match tag with
      | .string u _ => u
      | _ => Units.ofString plain
    return Units.ofString "[object " ++ name ++ [93]

def lookupAccessor (getter : Bool) (k : Key) : Nat → Ref → Script ρ Value
  | 0, _ => throwDeep
  | n + 1, r => do
    match ← r.getOwn k with
    | some (.accessor g s _ _) => return optionValue (if getter then g else s)
    | some _ => return .undefined
    | none =>
      match ← r.getPrototype with
      | some p => lookupAccessor getter k n p
      | none => return .undefined

/-! ### `Object` -/

def objectCall (f : ObjectFn) (this : Value) (args : List Value) (newTarget : Option Ref) :
    Script ρ Value := do
  let a := arg args 0
  let b := arg args 1
  match f with
  | .constructor =>
    match newTarget with
    | some t =>
      if t != .builtin (.function (.object .constructor)) then
        let proto ← prototypeOf t .objectPrototype
        return .object (← request (.make (some proto) .ordinary []))
    | none => pure ()
    if a.isNullish then return .object (← newObject []) else return .object (← toObject a)
  | .create =>
    let proto ← match a with
      | .object p => pure (some p)
      | .null => pure none
      | _ => throwType "object prototype may only be an Object or null"
    let r ← request (.make proto .ordinary [])
    if !b.isUndefined then defineAll r b
    return .object r
  | .getPrototypeOf =>
    match ← (← toObject a).getPrototype with
    | some p => return .object p
    | none => return .null
  | .setPrototypeOf =>
    if a.isNullish then throwType "not an object"
    let proto ← match b with
      | .object p => pure (some p)
      | .null => pure none
      | _ => throwType "not an object"
    match a with
    | .object r => orRefuse (← r.setPrototype proto)
    | _ => pure ()
    return a
  | .defineProperty =>
    let r ← needObject a
    let k ← toKey b
    let c ← changeOf r k (arg args 2)
    orRefuse (← r.defineOwn k c)
    return a
  | .defineProperties =>
    let r ← needObject a
    defineAll r b
    return a
  | .getOwnPropertyNames =>
    keyArray ((← (← toObject a).ownKeys).filter fun k => !k.isSymbol)
  | .getOwnPropertySymbols =>
    keyArray ((← (← toObject a).ownKeys).filter fun k => k.isSymbol)
  | .groupBy =>
    let groups ← groupItems a b fun v => do return (← toKey v).toValue
    let r ← request (.make none .ordinary [])
    groups |> forEach fun g => do r.create (← toKey g.1) (.object (← newArray g.2))
    return .object r
  | .keys => listMembers (← toObject a) .keys
  | .values => listMembers (← toObject a) .values
  | .entries => listMembers (← toObject a) .entries
  | .isExtensible =>
    match a with
    | .object r => return .bool (← r.isExtensible)
    | _ => return .bool false
  | .preventExtensions =>
    match a with
    | .object r =>
      if !(← r.preventExtensions) then throwType "proxy preventExtensions handler returned false"
    | _ => pure ()
    return a
  | .getOwnPropertyDescriptor =>
    let r ← toObject a
    match ← r.getOwn (← toKey b) with
    | some p => describe p
    | none => return .undefined
  | .getOwnPropertyDescriptors =>
    let r ← toObject a
    let result ← newObject []
    (← r.ownKeys) |> forEach fun k => do
      match ← r.getOwn k with
      | some p => result.create k (← describe p)
      | none => pure ()
    return .object result
  | .is => return .bool (Value.same false a b)
  | .assign =>
    let target ← toObject a
    args.drop 1 |> forEach fun source => do
      if !source.isNullish then
        eachEnumerable (← toObject source) [] target.set
    return .object target
  | .seal | .freeze =>
    match a with
    | .object r => fixAll r (f == .freeze)
    | _ => pure ()
    return a
  | .isSealed | .isFrozen =>
    match a with
    | .object r => return .bool (← isFixed r (f == .isFrozen))
    | _ => return .bool true
  | .fromEntries =>
    let r ← newObject []
    eachOf a fun _ v => do
      let pair ← needObject v
      let k ← pair.get (.index 0)
      let x ← pair.get (.index 1)
      r.create (← toKey k) x
    return .object r
  | .hasOwn =>
    let r ← toObject a
    return .bool (← r.getOwn (← toKey b)).isSome
  | .toString => newText (← toStringTag this)
  | .toLocaleString => invoke this "toString" []
  | .valueOf => return .object (← toObject this)
  | .hasOwnProperty =>
    let k ← toKey a
    return .bool (← (← toObject this).getOwn k).isSome
  | .isPrototypeOf =>
    match a with
    | .object r => return .bool (← hasAncestor (← toObject this) chainLimit r)
    | _ => return .bool false
  | .propertyIsEnumerable =>
    let k ← toKey a
    match ← (← toObject this).getOwn k with
    | some p => return .bool p.enumerable
    | none => return .bool false
  | .getProto =>
    match ← (← toObject this).getPrototype with
    | some p => return .object p
    | none => return .null
  | .setProto =>
    if this.isNullish then throwType "not an object"
    match this, a with
    | .object r, .object p => orRefuse (← r.setPrototype (some p))
    | .object r, .null => orRefuse (← r.setPrototype none)
    | _, _ => pure ()
    return .undefined
  | .defineGetter | .defineSetter =>
    let r ← toObject this
    needFunction b
    let half := some b.object?
    let c : Change :=
      if f == .defineGetter then { get := half, enumerable := some true, configurable := some true }
      else { set := half, enumerable := some true, configurable := some true }
    orRefuse (← r.defineOwn (← toKey a) c)
    return .undefined
  | .lookupGetter | .lookupSetter =>
    let r ← toObject this
    lookupAccessor (f == .lookupGetter) (← toKey a) chainLimit r

/-! ### `Reflect` -/

def reflectCall (f : ReflectFn) (args : List Value) : Script ρ Value := do
  let a := arg args 0
  let b := arg args 1
  let c := arg args 2
  match f with
  | .apply =>
    needFunction a
    callValue a b (← listOfArrayLike c)
  | .construct =>
    if args.length > 2 && !(← isConstructor c) then throwType "not a constructor"
    let items ← listOfArrayLike b
    match if args.length > 2 then c else a with
    | .object target => constructFor a items target
    | _ => throwType "not a function"
  | .defineProperty =>
    let r ← needObject a
    let k ← toKey b
    let change ← changeOf r k c
    return .bool (← r.defineOwn k change).isNone
  | .deleteProperty =>
    let r ← needObject a
    return .bool (← r.delete (← toKey b))
  | .get =>
    let r ← needObject a
    let k ← toKey b
    Script.get chainLimit r k (if args.length > 2 then c else a)
  | .getOwnPropertyDescriptor =>
    let r ← needObject a
    match ← r.getOwn (← toKey b) with
    | some p => describe p
    | none => return .undefined
  | .getPrototypeOf =>
    match ← (← needObject a).getPrototype with
    | some p => return .object p
    | none => return .null
  | .has =>
    let r ← needObject a
    return .bool (← r.has (← toKey b))
  | .isExtensible => return .bool (← (← needObject a).isExtensible)
  | .ownKeys => keyArray (← (← needObject a).ownKeys)
  | .preventExtensions => return .bool (← (← needObject a).preventExtensions)
  | .set =>
    let r ← needObject a
    let k ← toKey b
    let receiver := if args.length > 3 then arg args 3 else a
    return .bool (← Script.set chainLimit r k c receiver).isNone
  | .setPrototypeOf =>
    let r ← needObject a
    match b with
    | .object p => return .bool (← r.setPrototype (some p)).isNone
    | .null => return .bool (← r.setPrototype none).isNone
    | _ => throwType "not an object"

/-! ### `Proxy` -/

def newProxy (target handler : Value) : Script ρ Ref := do
  let t ← needObject target
  let h ← needObject handler
  let callable ← isCallable target
  let constructs ← isConstructor target
  request (.make none (.proxy ⟨t, h, callable, constructs, false⟩) [])

def proxyCall (f : ProxyFn) (args : List Value) (newTarget : Option Ref) : Script ρ Value := do
  match f with
  | .constructor =>
    if newTarget.isNone then throwType "must be called with new"
    return .object (← newProxy (arg args 0) (arg args 1))
  | .revocable =>
    let p ← newProxy (arg args 0) (arg args 1)
    let revoke ← match p with
      | .made n => newHelper (.revoke (some n)) 0
      | r => pure r
    return .object (← newObject [dataMember "proxy" (.object p), dataMember "revoke" (.object revoke)])

/-- Applies a proxy as a function. -/
def applyProxy (p : ProxyData) (this : Value) (args : List Value) : Script ρ Value := do
  let (target, handler, f) ← trap chainLimit p "apply"
  if !p.callable then throwType "not a function"
  match f with
  | none => call target this args
  | some f =>
    let list ← newArray args
    callValue f (.object handler) [.object target, this, .object list]

def constructProxy (p : ProxyData) (args : List Value) (newTarget : Ref) : Script ρ Value := do
  let (target, handler, f) ← trap chainLimit p "construct"
  match f with
  | none => construct target args newTarget
  | some f =>
    let list ← newArray args
    match ← callValue f (.object handler) [.object target, .object list, .object newTarget] with
    | .object r => return .object r
    | _ => throwType "not an object"

end Builtins

end ScriptBridge.Script
