import ScriptBridge.Data.NatMap
import ScriptBridge.Protocol.Action
import ScriptBridge.Script.Syntax
import ScriptBridge.Script.Value

/-!
Objects and the other nodes of the heap.

The heap is a graph of objects, variables and suspended activations.  `Node.references` lists
the edges that leave a node; lifetimes are computed from it alone, so it names exactly what a
node keeps alive.
-/
namespace ScriptBridge.Script

open Data Text

/-- Place of a node on the heap. -/
abbrev NodeId := Nat

/-! ### Scopes -/

inductive VariableMode where
  | mutable | constant
  /-- the name of a function inside itself: assignment is ignored, or refused in strict code -/
  | self
  deriving Repr, DecidableEq

inductive Binding where
  | variable (n : Name) (cell : NodeId) (mode : VariableMode)
  /-- the properties of an object stand for variables -/
  | object (r : Ref)
  /-- the same for variables that text declares in the function which evaluates it -/
  | declared (r : Ref)
  deriving Repr

/-- Bindings in force, the innermost first; what is not found here is global. -/
abbrev Env := List Binding

/-! ### What an object is inside -/

/-- Something that each new instance of a class receives. -/
inductive FieldPlan where
  | field (key : Key) (init : Ref)
  | secretMethod (key : Key) (p : Property)
  deriving Repr

structure Closure where
  code : FunctionNode
  env : Env
  /-- object whose parent `super` names -/
  home : Option Ref
  fields : List FieldPlan
  /-- script or module that the function was written in -/
  origin : String

/-- Objects that the bridge makes and scripts can only use. -/
inductive HostData where
  | instance (classId : Int32) (token : UInt64)
  | constructor (classId : Int32)
  | member (classId : Int32) (position : Nat)
  | wrapped (token : UInt64)
  | print (level : PrintLevel)
  | globalReader
  deriving Repr, DecidableEq

inductive PromiseState where
  | pending
  | fulfilled (v : Value)
  | rejected (reason : Value)
  deriving Repr

/-- What happens when a promise settles; the capability is absent where nobody listens. -/
structure Reaction where
  onFulfilled : Value
  onRejected : Value
  resolve : Value
  reject : Value
  deriving Repr

structure PromiseData where
  state : PromiseState
  reactions : List Reaction
  handled : Bool
  deriving Repr

inductive IterationKind where
  | keys | values | entries
  deriving Repr, DecidableEq

/-- How one element of a group of promises reports to the group. -/
inductive GroupRole where
  | all | settledFulfilled | settledRejected | any
  deriving Repr, DecidableEq

/-- Functions made by the engine itself, with what they remember. -/
inductive Helper where
  | settle (promise : Ref) (latch : NodeId) (rejects : Bool)
  | capability (slot : NodeId)
  | awaited (task : NodeId) (throws : Bool)
  | returned (task : NodeId) (rejected : Bool)
  | finallyDo (onFinally : Value) (constructor : Value) (rejecting : Bool)
  | giveBack (v : Value) (throws : Bool)
  | groupElement (role : GroupRole) (index : Nat) (values : Ref) (counter latch : NodeId)
      (resolve reject : Value)
  | revoke (proxy : Option NodeId)
  | iterResult (done : Bool)
  | importDone (resolve : Value) (module : Nat)
  | moduleDone (module : Nat) (rejected : Bool)
  deriving Repr

/-- What a proxy stands for; a revoked one keeps both objects but answers for neither. -/
structure ProxyData where
  target : Ref
  handler : Ref
  callable : Bool
  constructs : Bool
  revoked : Bool
  deriving Repr

/-- An object whose death a registry is to tell of, with what it then says. -/
structure RegistryEntry where
  target : Value
  held : Value
  token : Value
  deriving Repr

inductive Payload where
  | ordinary
  | array
  | error
  /-- arguments of a call; an element that is `shared` is one with a variable -/
  | arguments (shared : List (Nat × NodeId))
  | primitive (v : Value)
  | date (t : Float)
  | regexp (pattern flags : Units)
  | closure (c : Closure)
  | native (f : NativeFn)
  | bound (target : Ref) (this : Value) (args : List Value)
  | helper (h : Helper)
  | promise (p : PromiseData)
  | proxy (p : ProxyData)
  /-- a map or set; items are numbered as they were added -/
  | collection (isMap : Bool) (items : NatMap (Value × Value)) (next : Nat)
  /-- a weak map or set; a key is an object or a symbol -/
  | weak (isMap : Bool) (items : List (Value × Value))
  | weakRef (target : Value)
  | registry (callback : Ref) (entries : List RegistryEntry)
  | arrayIterator (target : Option Ref) (next : Nat) (kind : IterationKind)
  | collectionIterator (isMap : Bool) (target : Option Ref) (next : Nat) (kind : IterationKind)
  | stringIterator (rest : Units)
  | regexpIterator (regexp : Ref) (text flags : Units) (done : Bool)
  | generator (task : NodeId)
  | asyncGenerator (task : NodeId)
  | namespace (members : List (Units × NodeId))

/-- Which side looks after the object. -/
inductive Kind where
  | script (p : Payload)
  | host (h : HostData)

structure Obj where
  proto : Option Ref
  extensible : Bool
  kind : Kind
  elements : NatMap Property
  members : List (Key × Property)

instance : Inhabited Obj := ⟨⟨none, true, .script .ordinary, .empty, []⟩⟩

/-! ### Suspended activations -/

/-- How a suspended activation goes on. -/
inductive Resumption where
  | next (v : Value)
  | throw (v : Value)
  | return (v : Value)
  deriving Repr

/-- How far an activation that can be suspended has come. -/
inductive Stage where
  | fresh | suspended | running
  /-- it has ended, and the value of its last answer has not settled yet -/
  | returning
  | ended
  deriving Repr, DecidableEq

/-- A request to an asynchronous generator, with the promise that answers it. -/
structure GeneratorRequest where
  input : Resumption
  resolve : Value
  reject : Value
  deriving Repr

structure Task where
  /-- the function that runs; it stays alive while the task does -/
  function : Option Ref
  /-- the module whose body it is, when it is no function's -/
  module : Option Nat
  /-- does the activation answer requests rather than end with one result? -/
  isGenerator : Bool
  /-- the receiver and the arguments -/
  arguments : List Value
  /-- variables made so far, each under its place in the text -/
  locals : List (Name × Nat × NodeId)
  /-- operands that wait for the rest of their expression -/
  held : List Value
  /-- receivers of the final result -/
  resolve : Value
  reject : Value
  stage : Stage
  queue : List GeneratorRequest

inductive Node where
  | object (o : Obj)
  | cell (v : Option Value)
  | task (t : Task)

/-! ### Edges -/

def Ref.nodes : Ref → List NodeId
  | .made n => [n]
  | .builtin _ => []

def optionNodes (r : Option Ref) : List NodeId :=
  match r with
  | some r => r.nodes
  | none => []

def Value.nodes : Value → List NodeId
  | .object r => r.nodes
  | _ => []

def Property.nodes : Property → List NodeId
  | .data v _ _ _ => v.nodes
  | .accessor g s _ _ => optionNodes g ++ optionNodes s
  | .pendingPrototype => []

def Binding.nodes : Binding → List NodeId
  | .variable _ cell _ => [cell]
  | .object r | .declared r => r.nodes

def Env.nodes (e : Env) : List NodeId := e.flatMap Binding.nodes

def FieldPlan.nodes : FieldPlan → List NodeId
  | .field _ init => init.nodes
  | .secretMethod _ p => p.nodes

def Closure.nodes (c : Closure) : List NodeId :=
  Env.nodes c.env ++ optionNodes c.home ++ c.fields.flatMap FieldPlan.nodes

def Reaction.nodes (r : Reaction) : List NodeId :=
  r.onFulfilled.nodes ++ r.onRejected.nodes ++ r.resolve.nodes ++ r.reject.nodes

def PromiseData.nodes (p : PromiseData) : List NodeId :=
  (match p.state with
    | .pending => []
    | .fulfilled v | .rejected v => v.nodes)
  ++ p.reactions.flatMap Reaction.nodes

def Helper.nodes : Helper → List NodeId
  | .settle promise latch _ => promise.nodes ++ [latch]
  | .capability slot => [slot]
  | .awaited task _ | .returned task _ => [task]
  | .finallyDo onFinally constructor _ => onFinally.nodes ++ constructor.nodes
  | .giveBack v _ => v.nodes
  | .groupElement _ _ values counter latch resolve reject =>
    values.nodes ++ [counter, latch] ++ resolve.nodes ++ reject.nodes
  | .revoke proxy => proxy.toList
  | .iterResult _ => []
  | .importDone resolve _ => resolve.nodes
  | .moduleDone _ _ => []

def Payload.nodes : Payload → List NodeId
  | .primitive v => v.nodes
  | .closure c => c.nodes
  | .bound target this args => target.nodes ++ this.nodes ++ args.flatMap Value.nodes
  | .helper h => h.nodes
  | .promise p => p.nodes
  | .proxy p => p.target.nodes ++ p.handler.nodes
  | .collection _ items _ => items.entries.flatMap fun e => e.2.1.nodes ++ e.2.2.nodes
  | .weak _ items => items.flatMap fun e => e.2.nodes
  | .registry callback entries =>
    callback.nodes ++ entries.flatMap fun e => e.held.nodes ++ e.token.nodes
  | .arrayIterator target _ _ => optionNodes target
  | .collectionIterator _ target _ _ => optionNodes target
  | .regexpIterator r _ _ _ => r.nodes
  | .generator task => [task]
  | .asyncGenerator task => [task]
  | .namespace members => members.map Prod.snd
  | .arguments shared => shared.map Prod.snd
  | _ => []

def Kind.nodes : Kind → List NodeId
  | .script p => p.nodes
  | .host _ => []

def Obj.nodes (o : Obj) : List NodeId :=
  optionNodes o.proto ++ o.kind.nodes
    ++ o.elements.entries.flatMap (fun e => e.2.nodes)
    ++ o.members.flatMap fun e => e.2.nodes

def Resumption.nodes : Resumption → List NodeId
  | .next v | .throw v | .return v => v.nodes

def Task.nodes (t : Task) : List NodeId :=
  optionNodes t.function ++ t.arguments.flatMap Value.nodes
    ++ t.locals.map (fun l => l.2.2) ++ t.held.flatMap Value.nodes
    ++ t.resolve.nodes ++ t.reject.nodes
    ++ t.queue.flatMap fun q => q.input.nodes ++ q.resolve.nodes ++ q.reject.nodes

/-- The nodes that a node keeps alive, one entry for each reference. -/
def Node.references : Node → List NodeId
  | .object o => o.nodes
  | .cell v =>
    match v with
    | some v => v.nodes
    | none => []
  | .task t => t.nodes

/-! ### Own properties -/

namespace Obj

def find? (o : Obj) (k : Key) : Option Property :=
  match k with
  | .index n => o.elements.get? n
  | k => o.members.lookup k

def replace (k : Key) (p : Property) : List (Key × Property) → List (Key × Property)
  | [] => [(k, p)]
  | e :: rest => if e.1 == k then (k, p) :: rest else e :: replace k p rest

/-- Sets an own property; a new one comes last. -/
def put (o : Obj) (k : Key) (p : Property) : Obj :=
  match k with
  | .index n => { o with elements := o.elements.insert n p }
  | k => { o with members := replace k p o.members }

def remove (o : Obj) (k : Key) : Obj :=
  match k with
  | .index n => { o with elements := o.elements.erase n }
  | k => { o with members := o.members.filter fun e => e.1 != k }

/-- Own keys: indices by rising value, then names, then symbols, each in order of creation. -/
def keys (o : Obj) : List Key :=
  let names := o.members.map Prod.fst
  o.elements.toList.map (fun e => Key.index e.1)
    ++ names.filter (fun k => !k.isSymbol)
    ++ names.filter fun k => k.isSymbol && !k.isSecret

def isCallable (o : Obj) : Bool :=
  match o.kind with
  | .host (.instance ..) => false
  | .host _ => true
  | .script p =>
    match p with
    | .closure _ | .native _ | .bound .. | .helper _ => true
    | .proxy p => p.callable
    | _ => false

end Obj

/-- Built-in functions that `new` may be applied to. -/
def NativeFn.isConstructor : NativeFn → Bool
  | .object f => f == .constructor
  | .function f =>
    match f with
    | .constructor | .generatorConstructor | .asyncConstructor | .asyncGeneratorConstructor => true
    | _ => false
  | .array f => f == .constructor
  | .string f => f == .constructor
  | .number f => f == .constructor
  | .boolean f => f == .constructor
  | .symbol f => f == .constructor
  | .bigint f => f == .constructor
  | .proxy f => f == .constructor
  | .promise f => f == .constructor
  | .map f => f == .constructor
  | .set f => f == .constructor
  | .weak f =>
    match f with
    | .mapConstructor | .setConstructor | .refConstructor | .registryConstructor => true
    | _ => false
  | .date f => f == .constructor
  | .regexp f => f == .constructor
  | .errorConstructor _ => true
  | _ => false

end ScriptBridge.Script
