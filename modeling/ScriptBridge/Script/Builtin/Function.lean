import ScriptBridge.Script.Builtin.Object
import ScriptBridge.Script.Task

/-!
Members of functions, iterators and generators, and the constructors of errors.
-/
namespace ScriptBridge.Script.Builtins

open Text Script

variable {ρ α : Type}

/-! ### Functions -/

def nativeSource (name : Units) : Units :=
  Units.ofString "function " ++ name ++ Units.ofString "() \x7b\n    [native code]\n\x7d"

def functionSource (r : Ref) : Script ρ Units := do
  match ← payload r with
  | .closure c => return Units.ofString c.code.info.source
  | _ =>
    match ← r.getNamed "name" with
    | .undefined => return nativeSource []
    | v => return nativeSource (← toUnits v)

/-- The parameters that a bound function still takes. -/
def boundLength (r : Ref) (bound : Nat) : Script ρ Value := do
  if (← r.getOwn lengthKey).isNone then return .int 0
  match ← r.get lengthKey with
  | .int i => return .ofNat (i.toInt.toNat - bound)
  | .double x =>
    match Number.read x with
    | .infinite negative => return if negative then .int 0 else .double x
    | .finite d => return .ofNat (d.truncate.toNat - bound)
    | .nan => return .int 0
  | _ => return .int 0

def bindFunction (r : Ref) (this : Value) (args : List Value) : Script ρ Value := do
  let length ← boundLength r args.length
  let name := match ← r.getNamed "name" with
    | .string u _ => u
    | _ => []
  let proto ← r.getPrototype
  return .object (← request (.make proto (.bound r this args)
    [(lengthKey, .data length false false true),
     (Key.ofString "name", .data (.spelled (Units.ofString "bound " ++ name)) false false true)]))

def functionCall (f : FunctionFn) (this : Value) (args : List Value) : Script ρ Value := do
  match f with
  | .call => callValue this (arg args 0) (args.drop 1)
  | .apply =>
    needFunction this
    let list := arg args 1
    if list.isNullish then callValue this (arg args 0) []
    else callValue this (arg args 0) (← listOfArrayLike list)
  | .bind =>
    match this with
    | .object r =>
      needFunction this
      bindFunction r (arg args 0) (args.drop 1)
    | _ => throwType "not a function"
  | .toString =>
    match this with
    | .object r =>
      needFunction this
      newText (← functionSource r)
    | _ => throwType "not a function"
  | .hasInstance => return .bool (← ordinaryInstance chainLimit (arg args 0) this)
  | _ => return .undefined

/-! ### Iterators -/

def generatorOf (this : Value) : Script ρ NodeId := do
  match this with
  | .object r =>
    match ← payload r with
    | .generator id => return id
    | _ => throwType "not a generator"
  | _ => throwType "not a generator"

def collectionItems (r : Ref) : Script ρ (Data.NatMap (Value × Value) × Nat) := do
  match ← payload r with
  | .collection _ items next => return (items, next)
  | _ => return (.empty, 0)

/-- The first item at or after position `i`; `fuel` bounds the positions. -/
def itemAtOrAfter (items : Data.NatMap (Value × Value)) : Nat → Nat → Option (Nat × Value × Value)
  | 0, _ => none
  | fuel + 1, i =>
    match items.get? i with
    | some e => some (i, e.1, e.2)
    | none => itemAtOrAfter items fuel (i + 1)

def pairOf (kind : IterationKind) (k v : Value) : Script ρ Value := do
  match kind with
  | .keys => return k
  | .values => return v
  | .entries => return .object (← newArray [k, v])

def arrayNext (r : Ref) (target : Option Ref) (i : Nat) (kind : IterationKind) : Script ρ Value := do
  match target with
  | none => iterResult .undefined true
  | some t =>
    if i ≥ (← lengthOf t) then
      request (.revise r (.arrayIterator none i kind))
      iterResult .undefined true
    else
      request (.revise r (.arrayIterator target (i + 1) kind))
      let v ← if kind == .keys then pure .undefined else t.get (.index i)
      iterResult (← pairOf kind (.ofNat i) v) false

def collectionNext (r : Ref) (isMap : Bool) (target : Option Ref) (i : Nat) (kind : IterationKind) :
    Script ρ Value := do
  match target with
  | none => iterResult .undefined true
  | some t =>
    let (items, next) ← collectionItems t
    match itemAtOrAfter items (next - i) i with
    | none =>
      request (.revise r (.collectionIterator isMap none i kind))
      iterResult .undefined true
    | some (at_, k, v) =>
      request (.revise r (.collectionIterator isMap target (at_ + 1) kind))
      iterResult (← pairOf kind k v) false

def stringNext (r : Ref) (rest : Units) : Script ρ Value := do
  match rest with
  | [] => iterResult .undefined true
  | u :: v :: more =>
    if Units.isHigh u && Units.isLow v then
      request (.revise r (.stringIterator more))
      iterResult (← newText [u, v]) false
    else
      request (.revise r (.stringIterator (v :: more)))
      iterResult (← newText [u]) false
  | [u] =>
    request (.revise r (.stringIterator []))
    iterResult (← newText [u]) false

/-- What the receiver of a walking method has to be. -/
def iteratorName : IteratorFn → String
  | .stringNext => "String Iterator"
  | .mapNext => "Map Iterator"
  | .setNext => "Set Iterator"
  | .regexpNext => "RegExp String Iterator"
  | _ => "Array Iterator"

def iteratorCall (f : IteratorFn) (this : Value) (args : List Value) : Script ρ Value := do
  let a := arg args 0
  match f with
  | .self | .asyncSelf => return this
  | .arrayNext | .stringNext | .mapNext | .setNext | .regexpNext =>
    match this with
    | .object r =>
      match f, ← payload r with
      | .arrayNext, .arrayIterator target i kind => arrayNext r target i kind
      | .stringNext, .stringIterator rest => stringNext r rest
      | .mapNext, .collectionIterator true target i kind => collectionNext r true target i kind
      | .setNext, .collectionIterator false target i kind => collectionNext r false target i kind
      | _, _ => throwType (iteratorName f ++ " object expected")
    | _ => throwType (iteratorName f ++ " object expected")
  | .generatorNext => generatorStep (← generatorOf this) (.next a)
  | .generatorReturn => generatorStep (← generatorOf this) (.return a)
  | .generatorThrow => generatorStep (← generatorOf this) (.throw a)
  | .asyncNext => asyncGeneratorStep this (.next a)
  | .asyncReturn => asyncGeneratorStep this (.return a)
  | .asyncThrow => asyncGeneratorStep this (.throw a)

/-! ### Errors -/

/-- Makes an error object; its members come in the order message, cause, stack. -/
def errorConstructor (c : ErrorClass) (args : List Value) (newTarget : Option Ref) :
    Script ρ Value := do
  let proto ← match newTarget with
    | some t => prototypeOf t (.errorPrototype c)
    | none => pure (.builtin (.object (.errorPrototype c)))
  let (message, options) :=
    if c == .aggregateError then (arg args 1, arg args 2) else (arg args 0, arg args 1)
  let r ← request (.make (some proto) .error [])
  let define (name : String) (v : Value) : Script ρ Unit :=
    discard (request (.define r (Key.ofString name) (Change.ofProperty (.hidden v))))
  if !message.isUndefined then define "message" (← toText message)
  match options with
  | .object o => if ← o.has (Key.ofString "cause") then define "cause" (← o.getNamed "cause")
  | _ => pure ()
  if c == .aggregateError then
    let errors ← listOfIterable (arg args 0)
    define "errors" (.object (← newArray errors))
  define "stack" (.spelled [])
  return .object r

def errorText (this : Value) : Script ρ Units := do
  let r ← needObject this
  let name ← do
    match ← r.getNamed "name" with
    | .undefined => pure (Units.ofString "Error")
    | v => toUnits v
  let message ← do
    match ← r.getNamed "message" with
    | .undefined => pure []
    | v => toUnits v
  if name.isEmpty then return message
  if message.isEmpty then return name
  return name ++ Units.ofString ": " ++ message

end ScriptBridge.Script.Builtins
