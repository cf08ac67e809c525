import ScriptBridge.Script.Builtin.Function

/-!
`Map`, `Set` and the weak collections.

Items are numbered as they are added, so a walk in progress sees what is added behind it and
nothing twice.
-/
namespace ScriptBridge.Script.Builtins

open Data Text Script

variable {ρ α : Type}

structure Collection where
  ref : Ref
  items : NatMap (Value × Value)
  next : Nat

def thisCollection (this : Value) (wantMap : Bool) : Script ρ Collection := do
  let fail : Script ρ Collection :=
    throwType (if wantMap then "Map object expected" else "Set object expected")
  match this with
  | .object r =>
    match ← payload r with
    | .collection isMap items next => if isMap == wantMap then return ⟨r, items, next⟩ else fail
    | _ => fail
  | _ => fail

def findItem (items : NatMap (Value × Value)) (k : Value) : Option (Nat × Value) :=
  (items.entries.find? fun e => Value.same true e.2.1 k).map fun e => (e.1, e.2.2)

/-- Negative zero is kept as zero. -/
def normalKey (k : Value) : Value :=
  match k with
  | .double x => if x == 0.0 then .int 0 else k
  | k => k

def addItem (c : Collection) (isMap : Bool) (k v : Value) : Script ρ Unit :=
  match findItem c.items k with
  | some (i, _) => request (.revise c.ref (.collection isMap (c.items.insert i (normalKey k, v)) c.next))
  | none =>
    request (.revise c.ref (.collection isMap (c.items.insert c.next (normalKey k, v)) (c.next + 1)))

def removeItem (c : Collection) (isMap : Bool) (k : Value) : Script ρ Value :=
  match findItem c.items k with
  | some (i, _) => do
    request (.revise c.ref (.collection isMap (c.items.erase i) c.next))
    return .bool true
  | none => return .bool false

/-- Calls `f` for every item, also for those added on the way. -/
def eachItem (r : Ref) (f : Value → Value → Script ρ Unit) : Nat → Nat → Script ρ Unit
  | 0, _ => throwDeep
  | n + 1, i => do
    let (items, next) ← collectionItems r
    match itemAtOrAfter items (next - i) i with
    | none => return ()
    | some (at_, k, v) =>
      f k v
      eachItem r f n (at_ + 1)

def newCollectionIterator (r : Ref) (isMap : Bool) (kind : IterationKind) : Script ρ Value := do
  let proto : BuiltinObject := if isMap then .mapIteratorPrototype else .setIteratorPrototype
  return .object (← request (.make (some (.builtin (.object proto)))
    (.collectionIterator isMap (some r) 0 kind) []))

def newMapWith (items : List (Value × Value)) : Script ρ Ref :=
  let table := NatMap.ofList (items.zipIdx.map fun x => (x.2, x.1))
  request (.make (some (.builtin (.object .mapPrototype))) (.collection true table items.length) [])

/-- Adds every item of `source` by the collection's own method; to a map an item gives a key and its
value. -/
def fillCollection (isMap : Bool) (r : Ref) (source : Value) : Script ρ Unit := do
  let adder ← r.getNamed (if isMap then "set" else "add")
  if !(← isCallable adder) then throwType "set/add is not a function"
  eachOf source fun _ v => do
    if isMap then
      let pair ← needObject v
      let k ← pair.get (.index 0)
      let x ← pair.get (.index 1)
      discard (callValue adder (.object r) [k, x])
    else discard (callValue adder (.object r) [v])

/-- Makes a collection and fills it through its own adding method. -/
def constructCollection (isMap : Bool) (newTarget : Option Ref) (source : Value) : Script ρ Value := do
  match newTarget with
  | none => throwType "must be called with new"
  | some t =>
    let proto ← prototypeOf t (if isMap then .mapPrototype else .setPrototype)
    let r ← request (.make (some proto) (.collection isMap .empty 0) [])
    if !source.isNullish then
      fillCollection isMap r source
    return .object r

def mapCall (f : MapFn) (this : Value) (args : List Value) (newTarget : Option Ref) :
    Script ρ Value := do
  let a := arg args 0
  let b := arg args 1
  match f with
  | .constructor => constructCollection true newTarget a
  | .species => return this
  | .groupBy =>
    let groups ← groupItems a b pure
    let items ← mapEach (fun g => do return (normalKey g.1, Value.object (← newArray g.2))) groups
    return .object (← newMapWith items)
  | f =>
    let c ← thisCollection this true
    match f with
    | .set =>
      addItem c true a b
      return this
    | .get => return ((findItem c.items a).map Prod.snd).getD .undefined
    | .has => return .bool (findItem c.items a).isSome
    | .delete => removeItem c true a
    | .clear =>
      request (.revise c.ref (.collection true .empty c.next))
      return .undefined
    | .size => return .ofNat c.items.size
    | .forEach =>
      needFunction a
      eachItem c.ref (fun k v => discard (callValue a b [v, k, this])) loopLimit 0
      return .undefined
    | .values => newCollectionIterator c.ref true .values
    | .keys => newCollectionIterator c.ref true .keys
    | _ => newCollectionIterator c.ref true .entries

def setCall (f : SetFn) (this : Value) (args : List Value) (newTarget : Option Ref) :
    Script ρ Value := do
  let a := arg args 0
  match f with
  | .constructor => constructCollection false newTarget a
  | .species => return this
  | f =>
    let c ← thisCollection this false
    match f with
    | .add =>
      addItem c false a a
      return this
    | .has => return .bool (findItem c.items a).isSome
    | .delete => removeItem c false a
    | .clear =>
      request (.revise c.ref (.collection false .empty c.next))
      return .undefined
    | .size => return .ofNat c.items.size
    | .forEach =>
      needFunction a
      eachItem c.ref (fun k _ => discard (callValue a (arg args 1) [k, k, this])) loopLimit 0
      return .undefined
    | .entries => newCollectionIterator c.ref false .entries
    | _ => newCollectionIterator c.ref false .values

/-! ### Weak collections -/

def weakName (isMap : Bool) : String := if isMap then "WeakMap" else "WeakSet"

def weakItems (isMap : Bool) (this : Value) : Script ρ (Ref × List (Value × Value)) := do
  let fail : Script ρ (Ref × List (Value × Value)) := throwType (weakName isMap ++ " object expected")
  match this with
  | .object r =>
    match ← payload r with
    | .weak found items => if found == isMap then return (r, items) else fail
    | _ => fail
  | _ => fail

/-- May the value be held weakly?  An object may, and a symbol that is not shared by key. -/
def isWeakTarget (v : Value) : Script ρ Bool := do
  match v with
  | .object _ => return true
  | .symbol s => return (← request (.symbolKey s)).isNone
  | _ => return false

def findWeak (items : List (Value × Value)) (k : Value) : Option Value :=
  (items.find? fun i => Value.strictEq i.1 k).map Prod.snd

def constructWeak (proto : BuiltinObject) (isMap : Bool) (newTarget : Option Ref) (source : Value) :
    Script ρ Value := do
  match newTarget with
  | none => throwType "must be called with new"
  | some t =>
    let p ← prototypeOf t proto
    let r ← request (.make (some p) (.weak isMap []) [])
    if !source.isNullish then
      fillCollection isMap r source
    return .object r

def putWeak (isMap : Bool) (this k v : Value) : Script ρ Value := do
  let (r, items) ← weakItems isMap this
  if !(← isWeakTarget k) then throwType ("invalid value used as " ++ weakName isMap ++ " key")
  request (.revise r (.weak isMap ((k, v) :: items.filter fun i => !Value.strictEq i.1 k)))
  return this

def dropWeak (isMap : Bool) (this k : Value) : Script ρ Value := do
  let (r, items) ← weakItems isMap this
  match findWeak items k with
  | some _ =>
    request (.revise r (.weak isMap (items.filter fun i => !Value.strictEq i.1 k)))
    return .bool true
  | none => return .bool false

/-! ### Weak references and registries -/

def registryOf (this : Value) : Script ρ (Ref × Ref × List RegistryEntry) := do
  match this with
  | .object r =>
    match ← payload r with
    | .registry callback entries => return (r, callback, entries)
    | _ => throwType "FinalizationRegistry object expected"
  | _ => throwType "FinalizationRegistry object expected"

def registerTarget (this target held token : Value) : Script ρ Value := do
  let (r, callback, entries) ← registryOf this
  if !(← isWeakTarget target) then throwType "invalid target"
  if Value.same false target held then throwType "held value cannot be the target"
  if !token.isUndefined && !(← isWeakTarget token) then throwType "invalid unregister token"
  request (.revise r (.registry callback (entries ++ [⟨target, held, token⟩])))
  return .undefined

def unregisterToken (this token : Value) : Script ρ Value := do
  let (r, callback, entries) ← registryOf this
  if !(← isWeakTarget token) then throwType "invalid unregister token"
  let kept := entries.filter fun (e : RegistryEntry) => !Value.strictEq e.token token
  request (.revise r (.registry callback kept))
  return .bool (kept.length != entries.length)

def weakCall (f : WeakFn) (this : Value) (args : List Value) (newTarget : Option Ref) :
    Script ρ Value := do
  let a := arg args 0
  match f with
  | .mapConstructor => constructWeak .weakMapPrototype true newTarget a
  | .setConstructor => constructWeak .weakSetPrototype false newTarget a
  | .mapSet => putWeak true this a (arg args 1)
  | .setAdd => putWeak false this a .undefined
  | .mapGet => return (findWeak (← weakItems true this).2 a).getD .undefined
  | .mapHas => return .bool (findWeak (← weakItems true this).2 a).isSome
  | .setHas => return .bool (findWeak (← weakItems false this).2 a).isSome
  | .mapDelete => dropWeak true this a
  | .setDelete => dropWeak false this a
  | .refConstructor =>
    match newTarget with
    | none => throwType "constructor requires 'new'"
    | some t =>
      if !(← isWeakTarget a) then throwType "invalid target"
      let proto ← prototypeOf t .weakRefPrototype
      return .object (← request (.make (some proto) (.weakRef a) []))
  | .deref =>
    match this with
    | .object r =>
      match ← payload r with
      | .weakRef target => return target
      | _ => throwType "WeakRef object expected"
    | _ => throwType "WeakRef object expected"
  | .registryConstructor =>
    match newTarget, a with
    | none, _ => throwType "constructor requires 'new'"
    | some t, .object callback =>
      if !(← isCallable a) then throwType "argument must be a function"
      let proto ← prototypeOf t .registryPrototype
      return .object (← request (.make (some proto) (.registry callback []) []))
    | some _, _ => throwType "argument must be a function"
  | .register => registerTarget this a (arg args 1) (arg args 2)
  | .unregister => unregisterToken this a

end ScriptBridge.Script.Builtins
