import ScriptBridge.Script.Object

/-!
Running scripts as trees of requests.

A script never touches the heap or the host by itself: it is a tree whose inner nodes are
requests to the engine and whose branches are the possible answers.  So what holds of every
request holds of every script, whatever its text.  `Script ρ α` builds such trees in
continuation style, with one continuation for a value and one for a thrown value.
-/
namespace ScriptBridge.Script

open Text

/-- An object without its properties. -/
structure Shape where
  proto : Option Ref
  extensible : Bool
  kind : Kind

/-- Work that waits until the host asks for the next job. -/
inductive Job where
  /-- a settled promise tells one listener -/
  | reaction (handler : Value) (rejected : Bool) (argument resolve reject : Value)
  /-- a promise takes over the state of another object with a `then` -/
  | adopt (promise : Ref) (thenable : Ref) (then_ : Ref)
  | importModule (resolve reject : Value) (base : String) (specifier : Value)
  | microtask (f : Ref)
  /-- a registry tells of a death -/
  | cleanup (callback : Ref) (held : Value)

def Job.nodes : Job → List NodeId
  | .reaction handler _ argument resolve reject =>
    handler.nodes ++ argument.nodes ++ resolve.nodes ++ reject.nodes
  | .adopt promise thenable then_ => promise.nodes ++ thenable.nodes ++ then_.nodes
  | .importModule resolve reject _ specifier => resolve.nodes ++ reject.nodes ++ specifier.nodes
  | .microtask f => f.nodes
  | .cleanup callback held => callback.nodes ++ held.nodes

inductive ModuleStatus where
  | unlinked | linking | linked | evaluating | waiting | evaluated
  deriving Repr, DecidableEq

/-- A module that has been read, with what became of it. -/
structure ModuleRecord where
  name : String
  program : ModuleProgram
  /-- its requests have been looked up, or are being looked up -/
  resolved : Bool
  /-- the module that each request led to -/
  links : List (String × Nat)
  /-- the module's own variables -/
  cells : List (Name × NodeId)
  env : Env
  namespace_ : Option Ref
  status : ModuleStatus
  failure : Option Value
  /-- promise of the evaluation with its two functions, once that has begun -/
  promise : Option Ref
  resolve : Value
  reject : Value
  /-- place in the walk through the requests, and the lowest place reached from here -/
  place : Nat
  lowest : Nat
  /-- the first module of the cycle that this one is in -/
  root : Nat
  /-- the turn of an evaluation that does not end at once -/
  turn : Option Nat
  /-- asynchronous dependencies that are still running -/
  waitingFor : Nat
  /-- modules that wait for this one -/
  parents : List Nat

def ModuleRecord.nodes (m : ModuleRecord) : List NodeId :=
  m.cells.map Prod.snd ++ Env.nodes m.env ++ optionNodes m.namespace_
    ++ (match m.failure with
      | some v => v.nodes
      | none => [])
    ++ optionNodes m.promise ++ m.resolve.nodes ++ m.reject.nodes

/-- Why an activation is suspended: it waits for a promise, hands out a value, or hands on the
answer of another iterator. -/
inductive Pause where
  | await | yield | delegate
  deriving Repr, DecidableEq

/-- How far a resumed activation came. -/
inductive StepResult where
  | finished (v : Value)
  | threw (v : Value)
  | paused (p : Pause) (v : Value)
  deriving Repr

/-- What a script asks of the engine. -/
inductive Request where
  | look (r : Ref)
  | own (r : Ref) (k : Key)
  | keys (r : Ref)
  | define (r : Ref) (k : Key) (c : Change)
  | delete (r : Ref) (k : Key)
  | reparent (r : Ref) (proto : Option Ref)
  | close (r : Ref)
  | make (proto : Option Ref) (p : Payload) (members : List (Key × Property))
  | revise (r : Ref) (p : Payload)
  | newCell (v : Option Value)
  | readCell (c : NodeId)
  | writeCell (c : NodeId) (v : Option Value)
  | findGlobal (n : Name)
  | declareGlobal (n : Name) (constant : Bool)
  | newSymbol (description : Option Units) (secret : Option Secret)
  | newMark
  | symbolFor (key : Units)
  | symbolKey (s : Symbol)
  | newTask (t : Task)
  | readTask (id : NodeId)
  | writeTask (id : NodeId) (t : Task)
  | enqueue (j : Job)
  | findModule (name : String)
  | addModule (m : ModuleRecord)
  | readModule (id : Nat)
  | writeModule (id : Nat) (m : ModuleRecord)
  | dropModule (id : Nat)
  | call (f : Ref) (this : Value) (args : List Value)
  | construct (f : Ref) (args : List Value) (newTarget : Ref)
  | suspend (v : Value) (p : Pause)
  | resume (task : NodeId) (input : Resumption)
  /-- a promise was rejected, or a rejected promise found its first listener -/
  | rejection (promise : Ref) (reason : Value) (handled : Bool)
  | resolveName (base name : String)
  | loadSource (name : String)

/-- The answer of a call: a value, or the value that was thrown. -/
abbrev CallResult := Except Value Value

@[reducible] def Request.Answer : Request → Type
  | .look _ => Shape
  | .own _ _ => Option Property
  | .keys _ => List Key
  | .define _ _ _ => Bool
  | .delete _ _ => Bool
  | .reparent _ _ => Bool
  | .close _ => Unit
  | .make _ _ _ => Ref
  | .revise _ _ => Unit
  | .newCell _ => NodeId
  | .readCell _ => Option Value
  | .writeCell _ _ => Unit
  | .findGlobal _ => Option (NodeId × Bool)
  | .declareGlobal _ _ => NodeId
  | .newSymbol _ _ => Symbol
  | .newMark => Mark
  | .symbolFor _ => Symbol
  | .symbolKey _ => Option Units
  | .newTask _ => NodeId
  | .readTask _ => Option Task
  | .writeTask _ _ => Unit
  | .enqueue _ => Unit
  | .findModule _ => Option Nat
  | .addModule _ => Nat
  | .readModule _ => Option ModuleRecord
  | .writeModule _ _ => Unit
  | .dropModule _ => Unit
  | .call _ _ _ => CallResult
  | .construct _ _ _ => CallResult
  | .suspend _ _ => Resumption
  | .resume _ _ => StepResult
  | .rejection _ _ _ => Unit
  | .resolveName _ _ => Except Value String
  | .loadSource _ => Except Value String

/-- A running script: finished, failed with a thrown value, or waiting for an answer. -/
inductive Prog (ρ : Type) where
  | done (r : ρ)
  | fail (v : Value)
  | ask (q : Request) (k : q.Answer → Prog ρ)

/-- A piece of a script with result `α`, inside a script with result `ρ`. -/
def Script (ρ α : Type) : Type := (α → Prog ρ) → (Value → Prog ρ) → Prog ρ

namespace Script

variable {ρ α β : Type}

@[inline] def request (q : Request) : Script ρ q.Answer := fun k _ => .ask q k

@[inline] protected def pure (a : α) : Script ρ α := fun k _ => k a

@[inline] protected def bind (m : Script ρ α) (f : α → Script ρ β) : Script ρ β :=
  fun k e => m (fun a => f a k e) e

@[inline] def throwValue (v : Value) : Script ρ α := fun _ e => e v

@[inline] def catchValue (m : Script ρ α) (handler : Value → Script ρ α) : Script ρ α :=
  fun k e => m k (fun v => handler v k e)

instance : Monad (Script ρ) where
  pure := Script.pure
  bind := Script.bind

instance : MonadExcept Value (Script ρ) where
  throw := throwValue
  tryCatch := catchValue

/-- The whole script of a piece. -/
@[inline] def run (m : Script ρ ρ) : Prog ρ := m .done .fail

/-- Throws an error again. -/
def orThrow (x : Except Value α) : Script ρ α :=
  match x with
  | .ok a => pure a
  | .error v => throwValue v

/-- The result of a piece as data, thrown values included. -/
def attempt (m : Script ρ α) : Script ρ (Except Value α) :=
  fun k _ => m (fun a => k (.ok a)) (fun v => k (.error v))

/-! ### Lists -/

def forEach (f : α → Script ρ Unit) : List α → Script ρ Unit
  | [] => pure ()
  | a :: rest => do
    f a
    forEach f rest

def mapEach (f : α → Script ρ β) : List α → Script ρ (List β)
  | [] => pure []
  | a :: rest => do
    let b ← f a
    return b :: (← mapEach f rest)

def foldEach (f : β → α → Script ρ β) : β → List α → Script ρ β
  | b, [] => pure b
  | b, a :: rest => do
    let b ← f b a
    foldEach f b rest

end Script

end ScriptBridge.Script
