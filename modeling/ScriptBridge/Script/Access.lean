import ScriptBridge.Script.Request

/-!
Reading and changing objects: the operations that every object answers.

Plain objects answer from their own properties and their prototype, a proxy from its handler,
a wrapped string and a module namespace from what they wrap.  The fuel bounds the length of a
chain of prototypes and proxies; no chain of a script comes near `chainLimit`.
-/
namespace ScriptBridge.Script

open Text Script

variable {ρ α : Type}

/-! ### Text -/

/-- Text that is computed, and so not the same value as equal text from elsewhere.  There is one
empty text. -/
def newText (u : Units) : Script ρ Value :=
  if u.isEmpty then pure (.spelled []) else do return .string u (← request .newMark)

/-- A computed large integer. -/
def newBig (i : Int) : Script ρ Value := do return .bigint i (← request .newMark)

/-- Text computed from `source`: it is the source itself where nothing has changed. -/
def textFrom (source : Value) (u : Units) : Script ρ Value :=
  match source with
  | .string s _ => if s == u then pure source else newText u
  | _ => newText u

/-! ### Errors -/

def newError (c : ErrorClass) (message : Units) : Script ρ Ref :=
  request (.make (some (.builtin (.object (.errorPrototype c)))) .error
    [(Key.ofString "message", .hidden (.spelled message)), (Key.ofString "stack", .hidden (.spelled []))])

/-- Messages that the engine throws have at most this many bytes. -/
def messageLimit : Nat := 255

def throwUnits (c : ErrorClass) (message : Units) : Script ρ α := do
  let r ← newError c (Units.bounded messageLimit message)
  throwValue (.object r)

def throwWorded (c : ErrorClass) (message : String) : Script ρ α :=
  throwUnits c (Units.ofString message)

def throwType (message : String) : Script ρ α := throwWorded .typeError message

def throwRange (message : String) : Script ρ α := throwWorded .rangeError message

def throwReference (message : String) : Script ρ α := throwWorded .referenceError message

def throwDeep : Script ρ α := throwRange "Maximum call stack size exceeded"

/-- Why an object refused a change. -/
inductive Refusal where
  | readOnly (k : Key)
  | noSetter
  | notExtensible
  | notConfigurable
  | notDeletable
  | receiver
  /-- the receiver of an assignment has a getter or a setter of its own -/
  | ownAccessor
  /-- an element that an array is to lose has to stay -/
  | lastingElement
  | circular
  /-- the prototype of the prototype of all objects is fixed -/
  | fixedPrototype
  | trap (what : String)
  deriving Repr, DecidableEq

def Refusal.message : Refusal → Units
  | .readOnly k => 39 :: k.shown ++ Units.ofString "' is read-only"
  | .noSetter => Units.ofString "no setter for property"
  | .notExtensible => Units.ofString "object is not extensible"
  | .notConfigurable => Units.ofString "property is not configurable"
  | .notDeletable => Units.ofString "could not delete property"
  | .receiver => Units.ofString "not an object"
  | .ownAccessor => Units.ofString "setter is forbidden"
  | .lastingElement => Units.ofString "not configurable"
  | .circular => Units.ofString "circular prototype chain"
  | .fixedPrototype => Units.ofString
      "'Immutable prototype object 'Object.prototype' cannot have their prototype set'"
  | .trap what => Units.ofString ("proxy: " ++ what)

/-- A refusal is a `TypeError`. -/
def refuse (r : Refusal) : Script ρ α := throwUnits .typeError r.message

def orRefuse (r : Option Refusal) : Script ρ Unit :=
  match r with
  | none => pure ()
  | some r => refuse r

/-! ### Calls -/

def look (r : Ref) : Script ρ Shape := request (.look r)

def call (f : Ref) (this : Value) (args : List Value) : Script ρ Value := do
  orThrow (← request (.call f this args))

def callValue (f this : Value) (args : List Value) : Script ρ Value :=
  match f with
  | .object r => call r this args
  | _ => throwType "not a function"

def construct (f : Ref) (args : List Value) (newTarget : Ref) : Script ρ Value := do
  orThrow (← request (.construct f args newTarget))

def payload (r : Ref) : Script ρ Payload := do
  match (← look r).kind with
  | .script p => return p
  | .host _ => return .ordinary

def Kind.callable : Kind → Bool
  | .host (.instance ..) => false
  | .host _ => true
  | .script p =>
    match p with
    | .closure _ | .native _ | .bound .. | .helper _ => true
    | .proxy p => p.callable
    | _ => false

def isCallable (v : Value) : Script ρ Bool :=
  match v with
  | .object r => do return (← look r).kind.callable
  | _ => return false

/-- May `new` be applied to objects of this kind?  A bound function asks its target. -/
def Kind.constructs : Kind → Bool
  | .host (.constructor _) => true
  | .host _ => false
  | .script p =>
    match p with
    | .closure c => c.code.info.isConstructor
    | .native f => f.isConstructor
    | .proxy p => p.constructs
    | _ => false

def chainLimit : Nat := 10000

def isConstructorFrom : Nat → Ref → Script ρ Bool
  | 0, _ => return false
  | n + 1, r => do
    match (← look r).kind with
    | .script (.bound target _ _) => isConstructorFrom n target
    | k => return k.constructs

def isConstructor (v : Value) : Script ρ Bool :=
  match v with
  | .object r => isConstructorFrom chainLimit r
  | _ => return false

/-! ### Own properties that are not stored -/

/-- What a wrapped string or a namespace shows under `k`; `none` when the store decides. -/
def virtualOwn (kind : Kind) (k : Key) : Script ρ (Option Property) :=
  match kind, k with
  | .script (.primitive (.string u _)), .index i =>
    match u[i]? with
    | some c => return some (.data (.spelled [c]) false true false)
    | none => return none
  | .script (.namespace members), k =>
    match members.lookup k.units with
    | some cell => do
      if k.isSymbol then return none
      match ← request (.readCell cell) with
      | some v => return some (.data v true true false)
      | none => throwUnits .referenceError (k.shown ++ Units.ofString " is not initialized")
    | none => return none
  | _, _ => return none

def virtualKeys (kind : Kind) : List Key :=
  match kind with
  | .script (.primitive (.string u _)) => (List.range u.length).map .index
  | .script (.namespace members) => members.map fun m => Key.ofUnits m.1
  | _ => []

/-! ### Descriptions as objects -/

def dataMember (name : String) (v : Value) : Key × Property := (Key.ofString name, .plain v)

def optionValue (r : Option Ref) : Value :=
  match r with
  | some r => .object r
  | none => .undefined

def newObject (members : List (Key × Property)) : Script ρ Ref :=
  request (.make (some (.builtin (.object .objectPrototype))) .ordinary members)

/-- The object that describes a property. -/
def describe (p : Property) : Script ρ Value := do
  match p with
  | .data v w e c =>
    return .object (← newObject [dataMember "value" v, dataMember "writable" (.bool w),
      dataMember "enumerable" (.bool e), dataMember "configurable" (.bool c)])
  | .accessor g s e c =>
    return .object (← newObject [dataMember "get" (optionValue g), dataMember "set" (optionValue s),
      dataMember "enumerable" (.bool e), dataMember "configurable" (.bool c)])
  | .pendingPrototype => return .undefined

/-- The object that describes a change, with the fields that it sets. -/
def describeChange (c : Change) : Script ρ Value := do
  let field (name : String) (v : Option Value) : List (Key × Property) :=
    match v with
    | some v => [dataMember name v]
    | none => []
  return .object (← newObject
    (field "value" c.value ++ field "writable" (c.writable.map .bool)
      ++ field "get" (c.get.map optionValue) ++ field "set" (c.set.map optionValue)
      ++ field "enumerable" (c.enumerable.map .bool)
      ++ field "configurable" (c.configurable.map .bool)))

/-- A list as an array. -/
def newArray (items : List Value) : Script ρ Ref := do
  request (.make (some (.builtin (.object .arrayPrototype))) .array
    ((Key.ofString "length", Property.data (.ofNat items.length) true false false)
      :: items.zipIdx.map fun x => (Key.index x.2, .plain x.1)))

def keyArray (keys : List Key) : Script ρ Value := do
  return .object (← newArray (keys.map Key.toValue))

/-- The array length that a number or numeric text is. -/
def lengthOf? (v : Value) : Option Nat :=
  match v with
  | .string u _ => Units.arrayIndex? u
  | v =>
    match v.float? with
    | some x =>
      match Number.whole? x with
      | some i => if 0 ≤ i && i ≤ 4294967295 then some i.toNat else none
      | none => none
    | none => none

def lengthKey : Key := .name (Units.ofString "length")

/-! ### What proxies answer for -/

/-- May a property be described so?  Values are not compared. -/
def Change.fits (c : Change) (p : Property) : Bool :=
  if p.configurable then true
  else if c.configurable == some true then false
  else if c.enumerable.any (· != p.enumerable) then false
  else if !c.isAccessor && !c.isData then true
  else
    match p with
    | .data _ w _ _ => !c.isAccessor && (w || c.writable != some true)
    | .accessor .. => c.isAccessor
    | .pendingPrototype => true

/-- The change makes a property of an object that answers otherwise. -/
def Change.contradicts (c : Change) (p : Property) : Bool :=
  !c.fits p || (p.configurable && c.configurable == some false)
    || (!p.configurable &&
      match p with
      | .data v w _ _ =>
        if w then c.writable == some false else c.value.any (fun x => !Value.same false x v)
      | .accessor g s _ _ => c.get.any (· != g) || c.set.any (· != s)
      | .pendingPrototype => false)

/-- A value that a proxy reads or writes although the target fixes another. -/
def fixesOther (p : Property) (v : Value) : Bool :=
  match p with
  | .data w false _ false => !Value.same false w v
  | .accessor _ _ _ false => !v.isUndefined
  | _ => false

def inconsistent (what : String) : Script ρ α := throwType ("proxy: inconsistent " ++ what)

/-! ### The operations -/

mutual

/-- The handler's function for an operation, with target and handler. -/
def trap (n : Nat) (p : ProxyData) (name : String) : Script ρ (Ref × Ref × Option Value) :=
  match n with
  | 0 => throwDeep
  | n + 1 => do
    if p.revoked then throwType "revoked proxy"
    let f ← get n p.handler (Key.ofString name) (.object p.handler)
    return (p.target, p.handler, if f.isNullish then none else some f)
termination_by structural n

def getPrototype (n : Nat) (r : Ref) : Script ρ (Option Ref) :=
  match n with
  | 0 => throwDeep
  | n + 1 => do
    let s ← look r
    match s.kind with
    | .script (.proxy p) =>
      let (target, handler, f) ← trap n p "getPrototypeOf"
      match f with
      | none => getPrototype n target
      | some f =>
        let proto ← match ← callValue f (.object handler) [.object target] with
          | .object p => pure (some p)
          | .null => pure none
          | _ => inconsistent "prototype"
        if ← isExtensible n target then return proto
        if proto != (← getPrototype n target) then inconsistent "prototype"
        return proto
    | _ => return s.proto
termination_by structural n

def setPrototype (n : Nat) (r : Ref) (p : Option Ref) : Script ρ (Option Refusal) :=
  match n with
  | 0 => throwDeep
  | n + 1 => do
    let s ← look r
    match s.kind with
    | .script (.proxy x) =>
      let (target, handler, f) ← trap n x "setPrototypeOf"
      match f with
      | none => setPrototype n target p
      | some f =>
        let value := match p with
          | some p => Value.object p
          | none => .null
        let ok ← callValue f (.object handler) [.object target, value]
        if !ok.truthy then return some (.trap "bad prototype")
        if !(← isExtensible n target) && (← getPrototype n target) != p then inconsistent "prototype"
        return none
    | _ =>
      if s.proto == p then return none
      if r == .builtin (.object .objectPrototype) then return some .fixedPrototype
      if !s.extensible then return some .notExtensible
      if ← request (.reparent r p) then return none
      else return some .circular
termination_by structural n

def isExtensible (n : Nat) (r : Ref) : Script ρ Bool :=
  match n with
  | 0 => throwDeep
  | n + 1 => do
    let s ← look r
    match s.kind with
    | .script (.proxy p) =>
      let (target, handler, f) ← trap n p "isExtensible"
      match f with
      | none => isExtensible n target
      | some f =>
        let answer := (← callValue f (.object handler) [.object target]).truthy
        if answer != (← isExtensible n target) then inconsistent "isExtensible"
        return answer
    | .script (.namespace _) => return false
    | _ => return s.extensible
termination_by structural n

def preventExtensions (n : Nat) (r : Ref) : Script ρ Bool :=
  match n with
  | 0 => throwDeep
  | n + 1 => do
    let s ← look r
    match s.kind with
    | .script (.proxy p) =>
      let (target, handler, f) ← trap n p "preventExtensions"
      match f with
      | none => preventExtensions n target
      | some f =>
        let answer := (← callValue f (.object handler) [.object target]).truthy
        if answer && (← isExtensible n target) then inconsistent "preventExtensions"
        return answer
    | _ =>
      request (.close r)
      return true
termination_by structural n

def getOwn (n : Nat) (r : Ref) (k : Key) : Script ρ (Option Property) :=
  match n with
  | 0 => throwDeep
  | n + 1 => do
    let s ← look r
    match s.kind with
    | .script (.proxy p) =>
      if k.isSecret then return ← request (.own r k)
      let (target, handler, f) ← trap n p "getOwnPropertyDescriptor"
      match f with
      | none => getOwn n target k
      | some f =>
        let what := "getOwnPropertyDescriptor"
        match ← callValue f (.object handler) [.object target, k.toValue] with
        | .object d =>
          let own ← getOwn n target k
          let open_ ← isExtensible n target
          let c ← readChange n d
          let admitted := match own with
            | some p => c.fits p
            | none => open_
          let fixed := c.configurable != some true
          let writable := match own with
            | some (.data _ w _ _) => w
            | _ => false
          if !admitted || (fixed && (own.all Property.configurable || (c.writable.isNone && writable)))
            then inconsistent what
          return some c.toProperty
        | .undefined =>
          match ← getOwn n target k with
          | some p =>
            if !p.configurable || !(← look target).extensible then inconsistent what
            return none
          | none => return none
        | _ => inconsistent what
    | kind =>
      match ← virtualOwn kind k with
      | some p => return some p
      | none => request (.own r k)
termination_by structural n

/-- Reads the object that describes a change. -/
def readChange (n : Nat) (d : Ref) : Script ρ Change :=
  match n with
  | 0 => throwDeep
  | n + 1 => do
    let field (name : String) : Script ρ (Option Value) := do
      let k := Key.ofString name
      if ← has n d k then return some (← get n d k (.object d)) else return none
    let enumerable ← field "enumerable"
    let configurable ← field "configurable"
    let value ← field "value"
    let writable ← field "writable"
    let accessor (name what : String) : Script ρ (Option (Option Ref)) := do
      let k := Key.ofString name
      if !(← has n d k) then return none
      let v ← try get n d k (.object d) catch _ => pure .null
      if v.isUndefined then return some none
      if ← isCallable v then return some v.object?
      throwType (what ++ " must be a function")
    let get ← accessor "get" "Getter"
    let set ← accessor "set" "Setter"
    if (get.isSome || set.isSome) && (value.isSome || writable.isSome) then
      throwType ("Invalid property descriptor. Cannot both specify accessors and a value "
        ++ "or writable attribute")
    return { value := value, writable := writable.map Value.truthy, get := get, set := set
             enumerable := enumerable.map Value.truthy
             configurable := configurable.map Value.truthy }
termination_by structural n

def defineOwn (n : Nat) (r : Ref) (k : Key) (c : Change) : Script ρ (Option Refusal) :=
  match n with
  | 0 => throwDeep
  | n + 1 => do
    let s ← look r
    match s.kind with
    | .script (.proxy p) =>
      if k.isSecret then
        discard (request (.define r k c))
        return none
      let (target, handler, f) ← trap n p "defineProperty"
      match f with
      | none => defineOwn n target k c
      | some f =>
        let d ← describeChange c
        let ok ← callValue f (.object handler) [.object target, k.toValue, d]
        if !ok.truthy then return some (.trap "defineProperty exception")
        let admitted ← do
          match ← getOwn n target k with
          | some p => pure (!c.contradicts p)
          | none => pure ((← look target).extensible && c.configurable != some false)
        if !admitted then inconsistent "defineProperty"
        return none
    | kind =>
      match ← virtualOwn kind k with
      | some p => return if c.admits p then none else some .notConfigurable
      | none =>
        let isLength := k == lengthKey && (match kind with
          | .script .array => true
          | _ => false)
        let c ← match isLength, c.value with
          | true, some v =>
            match lengthOf? v with
            | some m => pure { c with value := some (.ofNat m) }
            | none => throwRange "invalid array length"
          | _, _ => pure c
        let own ← request (.own r k)
        if ← request (.define r k c) then return none
        match own with
        | some p => return some (if isLength && c.admits p then .lastingElement else .notConfigurable)
        | none =>
          match ← request (.own r lengthKey), kind, k with
          | some (.data n false _ _), .script .array, .index i =>
            if (lengthOf? n).any (· ≤ i) then return some (.readOnly lengthKey)
            return some .notExtensible
          | _, _, _ => return some .notExtensible
termination_by structural n

def has (n : Nat) (r : Ref) (k : Key) : Script ρ Bool :=
  match n with
  | 0 => throwDeep
  | n + 1 => do
    let s ← look r
    match s.kind with
    | .script (.proxy p) =>
      let (target, handler, f) ← trap n p "has"
      match f with
      | none => has n target k
      | some f =>
        if (← callValue f (.object handler) [.object target, k.toValue]).truthy then return true
        match ← getOwn n target k with
        | some p =>
          if !p.configurable || !(← look target).extensible then inconsistent "has"
          return false
        | none => return false
    | _ =>
      if (← getOwn n r k).isSome then return true
      match s.proto with
      | some p => has n p k
      | none => return false
termination_by structural n

/-- The value under `k`; a getter sees `receiver`. -/
def get (n : Nat) (r : Ref) (k : Key) (receiver : Value) : Script ρ Value :=
  match n with
  | 0 => throwDeep
  | n + 1 => do
    let s ← look r
    match s.kind with
    | .script (.proxy p) =>
      let (target, handler, f) ← trap n p "get"
      match f with
      | none => get n target k receiver
      | some f =>
        let v ← callValue f (.object handler) [.object target, k.toValue, receiver]
        match ← getOwn n target k with
        | some p => if fixesOther p v then inconsistent "get" else return v
        | none => return v
    | kind =>
      let own ← do
        match ← virtualOwn kind k with
        | some p => pure (some p)
        | none => request (.own r k)
      match own with
      | some (.data v _ _ _) => return v
      | some (.accessor g _ _ _) =>
        match g with
        | some g => call g receiver []
        | none => return .undefined
      | some .pendingPrototype => return .undefined
      | none =>
        match s.proto with
        | some p => get n p k receiver
        | none => return .undefined
termination_by structural n

end

/-- Creates or overwrites the own property of the receiver of an assignment. -/
def assignOwn (n : Nat) (r : Ref) (k : Key) (v : Value) : Script ρ (Option Refusal) := do
  match ← getOwn n r k with
  | some (.data _ w _ _) =>
    if w then defineOwn n r k { value := some v } else return some (.readOnly k)
  | some (.accessor ..) => return some .ownAccessor
  | _ =>
    match ← defineOwn n r k (Change.ofProperty (.plain v)) with
    | some (.readOnly _) =>
      return some (if (← look r).extensible then .readOnly lengthKey else .notExtensible)
    | other => return other

/-- Assigns under `k` as seen from `receiver`. -/
def set (n : Nat) (r : Ref) (k : Key) (v receiver : Value) : Script ρ (Option Refusal) :=
  match n with
  | 0 => throwDeep
  | n + 1 => do
    let s ← look r
    match s.kind with
    | .script (.proxy p) =>
      let (target, handler, f) ← trap n p "set"
      match f with
      | none => set n target k v receiver
      | some f =>
        let ok ← callValue f (.object handler) [.object target, k.toValue, v, receiver]
        if !ok.truthy then return some (.trap "cannot set property")
        match ← getOwn n target k with
        | some p => if fixesOther p v then inconsistent "set" else return none
        | none => return none
    | .script (.namespace _) => return some (.readOnly k)
    | kind =>
      let own ← do
        match ← virtualOwn kind k with
        | some p => pure (some p)
        | none => request (.own r k)
      let assign : Script ρ (Option Refusal) :=
        match receiver with
        | .object rr => assignOwn n rr k v
        | _ => return some .receiver
      match own with
      | some (.data _ w _ _) => if w then assign else return some (.readOnly k)
      | some (.accessor _ f _ _) =>
        match f with
        | some f =>
          discard (call f receiver [v])
          return none
        | none => return some .noSetter
      | _ =>
        match s.proto with
        | some p => set n p k v receiver
        | none => assign

def deleteOwn (n : Nat) (r : Ref) (k : Key) : Script ρ Bool :=
  match n with
  | 0 => throwDeep
  | n + 1 => do
    let s ← look r
    match s.kind with
    | .script (.proxy p) =>
      let (target, handler, f) ← trap n p "deleteProperty"
      match f with
      | none => deleteOwn n target k
      | some f =>
        if !(← callValue f (.object handler) [.object target, k.toValue]).truthy then return false
        match ← getOwn n target k with
        | some p =>
          if !p.configurable || !(← isExtensible n target) then inconsistent "deleteProperty"
          return true
        | none => return true
    | kind =>
      match ← virtualOwn kind k with
      | some _ => return false
      | none => request (.delete r k)

/-- Keys listed in an array-like object, from position `i`, at most `count` more. -/
def keysOfList (n : Nat) (list : Ref) : Nat → Nat → Script ρ (List Key)
  | 0, _ => return []
  | count + 1, i => do
    let k ← match ← get n list (.index i) (.object list) with
      | .string u _ => pure (Key.ofUnits u)
      | .symbol s => pure (.symbol s)
      | _ => throwType "proxy: properties must be strings or symbols"
    return k :: (← keysOfList n list count (i + 1))

/-- Those keys of the target that a proxy has to list, which it must have listed. -/
def namesToShow (n : Nat) (target : Ref) (isOpen : Bool) (listed : List Key) :
    List Key → Script ρ (List Key)
  | [] => return []
  | k :: rest => do
    let needed ← do
      match ← getOwn n target k with
      | some p => pure (!isOpen || !p.configurable)
      | none => pure false
    if needed && !listed.contains k then
      throwType "proxy: target property must be present in proxy ownKeys"
    let more ← namesToShow n target isOpen listed rest
    return if needed then k :: more else more

def ownKeys (n : Nat) (r : Ref) : Script ρ (List Key) :=
  match n with
  | 0 => throwDeep
  | n + 1 => do
    let s ← look r
    match s.kind with
    | .script (.proxy p) =>
      let (target, handler, f) ← trap n p "ownKeys"
      match f with
      | none => ownKeys n target
      | some f =>
        let listed ← match ← callValue f (.object handler) [.object target] with
          | .object list => do
            let count ← get n list lengthKey (.object list)
            keysOfList n list ((lengthOf? count).getD 0) 0
          | .string u _ => pure (u.map fun c => Key.ofUnits [c])
          | .null => throwType "cannot read property 'length' of null"
          | .undefined => throwType "cannot read property 'length' of undefined"
          | _ => pure []
        if listed.eraseDups.length != listed.length then throwType "proxy: duplicate property"
        let open_ ← isExtensible n target
        let expected ← ownKeys n target
        let found ← namesToShow n target open_ listed expected
        if !open_ && !listed.all found.contains then
          throwType "proxy: property not present in target were returned by non extensible proxy"
        return listed
    | kind => return virtualKeys kind ++ (← request (.keys r))

/-! ### Without fuel -/

namespace Ref

def getPrototype (r : Ref) : Script ρ (Option Ref) := Script.getPrototype chainLimit r

def setPrototype (r : Ref) (p : Option Ref) : Script ρ (Option Refusal) :=
  Script.setPrototype chainLimit r p

def isExtensible (r : Ref) : Script ρ Bool := Script.isExtensible chainLimit r

def preventExtensions (r : Ref) : Script ρ Bool := Script.preventExtensions chainLimit r

def getOwn (r : Ref) (k : Key) : Script ρ (Option Property) := Script.getOwn chainLimit r k

def defineOwn (r : Ref) (k : Key) (c : Change) : Script ρ (Option Refusal) :=
  Script.defineOwn chainLimit r k c

def has (r : Ref) (k : Key) : Script ρ Bool := Script.has chainLimit r k

def get (r : Ref) (k : Key) : Script ρ Value := Script.get chainLimit r k (.object r)

def getNamed (r : Ref) (name : String) : Script ρ Value := r.get (Key.ofString name)

/-- Assignment that refuses to fail in silence. -/
def set (r : Ref) (k : Key) (v : Value) : Script ρ Unit := do
  orRefuse (← Script.set chainLimit r k v (.object r))

def setNamed (r : Ref) (name : String) (v : Value) : Script ρ Unit := r.set (Key.ofString name) v

def delete (r : Ref) (k : Key) : Script ρ Bool := Script.deleteOwn chainLimit r k

def ownKeys (r : Ref) : Script ρ (List Key) := Script.ownKeys chainLimit r

def readChange (r : Ref) : Script ρ Change := Script.readChange chainLimit r

/-- A new own property as assignment makes it, or a `TypeError`. -/
def create (r : Ref) (k : Key) (v : Value) : Script ρ Unit := do
  orRefuse (← r.defineOwn k (Change.ofProperty (.plain v)))

end Ref

end ScriptBridge.Script
