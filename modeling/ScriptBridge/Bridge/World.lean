import ScriptBridge.Ledger
import ScriptBridge.LineBuffer
import ScriptBridge.Projection.Descriptor
import ScriptBridge.Script.Apply
import ScriptBridge.Script.Lifetime

/-!
The world of a running bridge: the engine, the tables of the host's side, and the host.

A host is data that the bridge is run against.  To a callback it gives a `Turn`: a tree of
requests that ends in a reply, so what holds for every tree holds for every host, and a script
that runs on the host's behalf in between is an ordinary run.
-/
namespace ScriptBridge

open Data Script

/-! ### Tables -/

/-- A promise that the host has made and not yet completed. -/
structure PendingPromise where
  target : Value
  resolve : Value
  reject : Value

structure PromiseTable where
  pending : NatMap PendingPromise
  lastId : UInt32

namespace PromiseTable

def empty : PromiseTable := ⟨.empty, 0⟩

def get (t : PromiseTable) (id : PromiseId) : Except BridgeFault PendingPromise :=
  match t.pending.get? id.id.toNat with
  | some p => .ok p
  | none => .error (.promiseNotPending id.id)

def insert (t : PromiseTable) (p : PendingPromise) : PromiseId × PromiseTable :=
  let id := t.lastId + 1
  (⟨id⟩, ⟨t.pending.insert id.toNat p, id⟩)

/-- Takes a promise out; it can be taken only once. -/
def take (t : PromiseTable) (id : PromiseId) : Except BridgeFault (PendingPromise × PromiseTable) :=
  match t.get id with
  | .ok p => .ok (p, { t with pending := t.pending.erase id.id.toNat })
  | .error e => .error e

def size (t : PromiseTable) : Nat := t.pending.size

def values (t : PromiseTable) : List Value :=
  t.pending.toList.flatMap fun p => [p.2.target, p.2.resolve, p.2.reject]

end PromiseTable

structure ClassEntry where
  name : String
  routes : List (Option MemberRoute)
  constructor : Value
  prototype : Value

/-- Registered classes under their numbers. -/
abbrev ClassTable := List (Int32 × ClassEntry)

namespace ClassTable

def route? (t : ClassTable) (classId : Int32) (position : Nat) : Option MemberRoute :=
  match t.lookup classId with
  | some c => (c.routes[position]?).join
  | none => none

def values (t : ClassTable) : List Value := t.flatMap fun c => [c.2.constructor, c.2.prototype]

end ClassTable

/-- Script objects that the bridge keeps from its beginning. -/
structure Intrinsics where
  /-- as the only argument of a construction, it stands for the host's own request -/
  sentinel : Value
  promiseConstructor : Value
  promiseResolve : Value

/-- What the bridge notes when it happens. -/
inductive Occurrence where
  /-- a handle was given out -/
  | issued (h : Handle)
  /-- the host took one more reference, or gave one back -/
  | retained (h : Handle)
  | released (h : Handle)
  /-- a token was drawn; then its object was made, or the construction came to nothing -/
  | drawn (token : UInt64)
  | made (token : UInt64)
  | refused (token : UInt64)
  /-- the object of a token died -/
  | died (token : UInt64)
  /-- the host was entered for a callback, and left again -/
  | entered (c : Callback) (slots : List Slot)
  | left
  /-- a member function was called with this receiver -/
  | asked (classId : Int32) (position : Nat) (route : MemberRoute) (this : Value)
  /-- an instance of the class was made, with this token -/
  | built (r : Ref) (classId : Int32) (token : UInt64)
  /-- the host made a promise; the promise was completed -/
  | promised (id : PromiseId) (p : PendingPromise)
  | completed (id : PromiseId)
  /-- a promise was rejected and nobody listens; such a rejection was written to the log -/
  | rejected (promise : Ref) (reason : Value)
  | logged (reason : Value)
  /-- the host's side gave up all that it held -/
  | ended

structure Bridge where
  ledger : Ledger Value
  promises : PromiseTable
  classes : ClassTable
  intrinsics : Option Intrinsics
  log : LineBuffer
  /-- reasons of rejections that are withheld, while they are -/
  deferred : Option (List Value)
  maxArguments : Nat
  tracksRejections : Bool
  /-- tokens whose objects have died and whose notices are due -/
  finalized : List UInt64
  lastToken : UInt64
  /-- what has happened, the latest first -/
  journal : List Occurrence

namespace Bridge

def fresh (maxArguments : Nat) (tracksRejections : Bool) : Bridge :=
  { ledger := .empty, promises := .empty, classes := [], intrinsics := none, log := .empty
    deferred := none, maxArguments := maxArguments, tracksRejections := tracksRejections
    finalized := [], lastToken := 0, journal := [] }

def note (b : Bridge) (x : Occurrence) : Bridge := { b with journal := x :: b.journal }

/-- What the host's side keeps alive. -/
def heldValues (b : Bridge) : List Value :=
  b.ledger.values ++ b.promises.values ++ b.classes.values
    ++ (match b.intrinsics with
      | some i => [i.sentinel, i.promiseConstructor, i.promiseResolve]
      | none => [])
    ++ b.deferred.getD []

def heldNodes (b : Bridge) : List NodeId := b.heldValues.flatMap Value.nodes

end Bridge

/-! ### Hosts -/

/-- What a host may ask for while it answers a callback. -/
inductive ScopeRequest where
  | retain (s : Slot)
  | release (s : Slot)
  | stringOf (s : Slot)
  | stringify (s : Slot)
  | newPromise
  deriving Repr

@[reducible] def ScopeRequest.Answer : ScopeRequest → Type
  | .retain _ => Except BridgeFault Slot
  | .release _ => Except BridgeFault Unit
  | .stringOf _ => Except BridgeFault String
  | .stringify _ => Except BridgeFault String
  | .newPromise => Except BridgeFault Slot

/-- A host's conduct in one callback; `σ` is its memory. -/
inductive Turn (σ : Type) where
  | reply (r : Reply) (memory : σ)
  | ask (q : ScopeRequest) (k : q.Answer → Turn σ)

structure Host (σ : Type) where
  act : σ → Callback → List Slot → Turn σ
  print : σ → PrintLevel → String → σ

structure World (σ : Type) where
  engine : Engine
  bridge : Bridge
  memory : σ
  /-- the host is answering a callback -/
  busy : Bool

/-! ### Operations -/

/-- Why an operation of the bridge ended without a result. -/
inductive Failure where
  | fault (f : BridgeFault)
  | thrown (v : Value)
  /-- the run was given too few steps -/
  | interrupted

/-- An operation of the bridge. -/
abbrev Act (σ : Type) : Type → Type := EStateM Failure (World σ)

namespace Act

variable {σ α : Type}

def fault (f : BridgeFault) : Act σ α := throw (.fault f)

def orFault (x : Except BridgeFault α) : Act σ α :=
  match x with
  | .ok a => pure a
  | .error f => fault f

def bridge : Act σ Bridge := do return (← get).bridge

def setBridge (b : Bridge) : Act σ Unit := modify fun w => { w with bridge := b }

def note (x : Occurrence) : Act σ Unit := modify fun w => { w with bridge := w.bridge.note x }

def engine : Act σ Engine := do return (← get).engine

def setEngine (e : Engine) : Act σ Unit := modify fun w => { w with engine := e }

end Act

/-! ### Running scripts -/

/-- How a run ends. -/
inductive Finish (ρ : Type) where
  | done (r : ρ)
  | threw (v : Value)
  | suspended (v : Value) (p : Pause) (k : Resumption → Prog ρ)
  | interrupted

/-- A way to run scripts in a world. -/
structure Runner (σ : Type) where
  run : {ρ : Type} → Prog ρ → World σ → Finish ρ × World σ

namespace Runner

variable {σ ρ : Type}

/-- Runs a script to its end. -/
def exec (r : Runner σ) (p : Prog ρ) : Act σ ρ := fun w =>
  match r.run p w with
  | (.done a, w) => .ok a w
  | (.threw v, w) => .error (.thrown v) w
  | (_, w) => .error .interrupted w

def script (r : Runner σ) (m : Script ρ ρ) : Act σ ρ := r.exec m.run

/-- The result of a script, or `none` when it throws. -/
def script? (r : Runner σ) (m : Script ρ ρ) : Act σ (Option ρ) := fun w =>
  match r.run m.run w with
  | (.done a, w) => .ok (some a) w
  | (.threw _, w) => .ok none w
  | (_, w) => .error .interrupted w

end Runner

end ScriptBridge
