import ScriptBridge.Bridge.Dispatch

/-!
Contexts: a bridge with its host, and everything that the host can do with it.

The host writes arguments into a row of slots, dispatches an action and reads the result slot.
Objects whose last reference has gone are noticed when an operation ends, and the host is told
of each of them by a callback of its own.
-/
namespace ScriptBridge

open Data Text Script Script.Script

/-- How long and how deep a run may be. -/
structure Limits where
  steps : Nat
  depth : Nat

namespace Limits

def standard : Limits := ⟨1000000000000000, 1800⟩

/-- Room on the stack that a call takes. -/
def callSize : Nat := 582

/-- The limits for a stack of so many bytes; a stack of no size is as large as it needs to be. -/
def ofStack (bytes : Nat) : Limits :=
  if bytes == 0 then standard
  else { standard with depth := min standard.depth (bytes / callSize) }

end Limits

/-- What a context is made with. -/
structure Setup where
  maxArguments : Nat
  tracksRejections : Bool
  /-- bytes that scripts may use, where there is a limit -/
  memory : Option Nat

/-- Bytes that the built-in objects take. -/
def Setup.leastMemory : Nat := 65536

/-- Is there room for the built-in objects? -/
def Setup.hasRoom (s : Setup) : Bool := s.memory.all fun n => Setup.leastMemory ≤ n

structure Context (σ : Type) where
  host : Host σ
  limits : Limits
  arguments : List Slot
  result : Slot
  world : World σ

/-- What an operation of a context gives: its result, or why there is none. -/
abbrev Answer (α : Type) : Type := Except BridgeFault α

namespace Context

variable {σ α : Type}

def runner (c : Context σ) : Runner σ :=
  ⟨fun p w => Machine.run c.host c.limits.steps c.limits.depth p w⟩

/-- The fault that a failed operation answers with. -/
def faultOf : Failure → BridgeFault
  | .fault f => f
  | .thrown _ => .engine .unsettled
  | .interrupted => .exception "interrupted"

/-- Performs an operation in the context's world. -/
def perform (c : Context σ) (m : Runner σ → Act σ α) : Answer α × Context σ :=
  match m c.runner c.world with
  | .ok a w => (.ok a, { c with world := w })
  | .error e w => (.error (faultOf e), { c with world := w })

/-! ### Notices of death -/

def insertToken (t : UInt64) : List UInt64 → List UInt64
  | [] => [t]
  | u :: rest => if t ≤ u then t :: u :: rest else u :: insertToken t rest

def sortTokens : List UInt64 → List UInt64
  | [] => []
  | t :: rest => insertToken t (sortTokens rest)

/-- Puts the tokens of the dead in the queue, in order. -/
def queueDeaths (b : Bridge) : List UInt64 → Bridge
  | [] => b
  | t :: rest => queueDeaths ({ b with finalized := b.finalized ++ [t] }.note (.died t)) rest

/-- Removes what nothing refers to any more, and queues the tokens found. -/
def sweep (w : World σ) : World σ :=
  let (e, tokens) := w.engine.release w.bridge.heldNodes
  { w with engine := e, bridge := queueDeaths w.bridge (sortTokens tokens) }

/-- Removes what cannot be reached, cycles included, and queues the tokens found. -/
def collect (w : World σ) : World σ :=
  let (e, tokens) := w.engine.collect w.bridge.heldNodes
  { w with engine := e, bridge := queueDeaths w.bridge (sortTokens tokens) }

/-- Tells the host of one object's death. -/
def deliver (run : Runner σ) (host : Host σ) (token : UInt64) : Act σ Unit := fun w =>
  match (run.callHost host .delete [.rawPointer token] [] fun _ => pure () : Act σ Unit) w with
  | .ok _ w => .ok () w
  | .error e w =>
    match e with
    | .interrupted => .error .interrupted w
    | _ => .ok () w

/-- Delivers the first notice of the queue, if there is one. -/
def deliverNext (run : Runner σ) (host : Host σ) : Act σ Unit := do
  let b ← Act.bridge
  match b.finalized with
  | [] => return ()
  | t :: rest =>
    Act.setBridge { b with finalized := rest }
    deliver run host t

/-- Delivers as many notices as are in the queue. -/
def deliverAll (run : Runner σ) (host : Host σ) : Nat → Act σ Unit
  | 0 => pure ()
  | n + 1 => do
    deliverNext run host
    deliverAll run host n

/-- Delivers notices until none is due; what they free is noticed in turn. -/
def deliverDue (run : Runner σ) (host : Host σ) : Nat → Act σ Unit
  | 0 => throw .interrupted
  | n + 1 => do
    modify sweep
    let b ← Act.bridge
    if b.finalized.isEmpty then return ()
    deliverAll run host b.finalized.length
    deliverDue run host n

def flush (c : Context σ) : Answer Unit × Context σ :=
  c.perform fun run => deliverDue run c.host c.limits.steps

/-- An operation after which the due notices go out. -/
def performFlushed (c : Context σ) (m : Runner σ → Act σ α) : Answer α × Context σ :=
  let (a, c) := c.perform m
  match c.flush with
  | (.ok _, c) => (a, c)
  | (.error f, c) => (.error f, c)

/-! ### Creation -/

/-- A world in which nothing has happened yet. -/
def emptyWorld (s : Setup) (memory : σ) : World σ :=
  { engine := .fresh, bridge := .fresh s.maxArguments s.tracksRejections, memory := memory, busy := false }

/-- A context before anything is installed in it. -/
def blank (host : Host σ) (limits : Limits) (s : Setup) (memory : σ) : Context σ :=
  { host := host, limits := limits, arguments := List.replicate s.maxArguments .null
    result := .null, world := emptyWorld s memory }

/-- Installs what scripts and the bridge find from the start. -/
def install (run : Runner σ) : Act σ Unit := do
  run.installIntrinsics
  run.installConsole

def create (host : Host σ) (limits : Limits) (s : Setup) (memory : σ) : Answer (Context σ) :=
  if !s.hasRoom then .error (.init EngineFault.noRoom.message) else
  match (blank host limits s memory).perform install with
  | (.ok _, c) => .ok c
  | (.error f, _) => .error (.init f.message)

/-! ### Dispatch -/

/-- Runs an action; a thrown value is worded, and due notices go out. -/
def tryDispatch (c : Context σ) (a : Action) (args : List Slot) : Answer (Option Slot) × Context σ :=
  c.performFlushed fun run => run.settle (Dispatch.perform run c.host a args)

/-- Runs the action with this code on the first `argc` arguments. -/
def runCode (c : Context σ) (code : Int32) (argc : Nat) : Answer (Option Slot) × Context σ :=
  if argc > c.arguments.length then (.error (.tooManyArguments argc), c)
  else
    match Action.ofCode? code.toInt with
    | some a => c.tryDispatch a (c.arguments.take argc)
    | none => (.error (.notImplemented code), c)

/-- Runs an action by its code.  The number of results is the answer, or `-1` with the failure's
text as the result. -/
def dispatch (c : Context σ) (code : Int32) (argc : Nat) : Int × Context σ :=
  match c.runCode code argc with
  | (.ok none, c) => (0, c)
  | (.ok (some s), c) => (1, { c with result := s })
  | (.error f, c) => (-1, { c with result := .text f.message })

/-- Writes the arguments and dispatches. -/
def dispatchWith (c : Context σ) (code : Int32) (args : List Slot) : Int × Context σ :=
  if args.length > c.arguments.length then
    (-1, { c with result := .text (BridgeFault.tooManyArguments args.length).message })
  else
    { c with arguments := args ++ c.arguments.drop args.length }.dispatch code args.length

def setArgument (c : Context σ) (i : Nat) (s : Slot) : Context σ :=
  { c with arguments := c.arguments.set i s }

/-! ### References and text -/

def retain (c : Context σ) (s : Slot) : Answer Slot × Context σ := c.perform fun run => run.retain s

def release (c : Context σ) (s : Slot) : Answer Unit × Context σ :=
  c.performFlushed fun _ => Runner.release s

/-- Gives back every reference of the cache. -/
def clearCache (c : Context σ) : Context σ :=
  (c.performFlushed fun _ =>
    (modify fun w => { w with bridge := { w.bridge with ledger := w.bridge.ledger.clearCache.2 } })).2

def stringOf (c : Context σ) (s : Slot) : Answer String := c.world.bridge.stringOf s

def stringify (c : Context σ) (s : Slot) : Answer String × Context σ :=
  c.perform fun run => run.settle (run.stringify s)

def registerClass (c : Context σ) (d : ClassDescriptor) (classId : Int32) : Answer Slot × Context σ :=
  c.perform fun run => run.settle (run.registerClass d classId)

def newPromise (c : Context σ) : Answer Slot × Context σ := c.perform fun run => run.newPromise

/-! ### Jobs -/

def hasPendingJob (c : Context σ) : Bool := !c.world.engine.jobs.isEmpty

/-- Runs the first waiting job; `false` when none waits. -/
def takeJob (run : Runner σ) : Act σ Bool := do
  let e ← Act.engine
  match e.jobs with
  | [] => return false
  | j :: rest =>
    Act.setEngine { e with jobs := rest }
    discard (run.script (runJob j))
    return true

/-- Runs one job: `1` when one ran, `0` when none waited, `-1` when it threw. -/
def runOneJob (c : Context σ) : Int × Context σ :=
  match c.performFlushed fun run => run.settle (takeJob run) with
  | (.ok true, c) => (1, c)
  | (.ok false, c) => (0, c)
  | (.error f, c) => (-1, { c with result := .text f.message })

inductive JobStatus where
  | ran | idle
  | threw (text : String)
  deriving Repr, DecidableEq

namespace JobStatus

def code : JobStatus → Int
  | .ran => 1
  | .idle => 0
  | .threw _ => -1

def name : JobStatus → String
  | .ran => "Ran"
  | .idle => "Idle"
  | .threw _ => "Threw"

end JobStatus

def stepJob (c : Context σ) : JobStatus × Context σ :=
  let (n, c) := c.runOneJob
  if n == 1 then (.ran, c)
  else if n == 0 then (.idle, c)
  else (.threw (c.result.text?.getD ""), c)

/-- Runs jobs until none waits; `fuel` bounds their number. -/
def drainFrom : Nat → Nat → List String → Context σ → (Nat × List String) × Context σ
  | 0, ran, errors, c => ((ran, errors), c)
  | fuel + 1, ran, errors, c =>
    match c.stepJob with
    | (.idle, c) => ((ran, errors), c)
    | (.ran, c) => drainFrom fuel (ran + 1) errors c
    | (.threw text, c) => drainFrom fuel (ran + 1) (errors ++ [text]) c

/-- Runs all jobs; the number that ran and the texts of those that threw. -/
def drainJobs (c : Context σ) : (Nat × List String) × Context σ := drainFrom c.limits.steps 0 [] c

/-! ### Log, collection, end -/

def writeLog (c : Context σ) (fragment : String) : Context σ :=
  (c.perform fun _ => Runner.writeLog c.host fragment).2

def flushLog (c : Context σ) : Context σ := (c.perform fun _ => Runner.flushLog c.host).2

def runGc (c : Context σ) : Context σ := (c.performFlushed fun _ => modify collect).2

/-- Empties every table of the host's side. -/
def releaseTables (w : World σ) : World σ :=
  { w with bridge := { w.bridge with
      ledger := w.bridge.ledger.drain.2, promises := { w.bridge.promises with pending := .empty }
      classes := [], intrinsics := none, deferred := none }.note .ended }

/-- Ends the context.  What only the host's tables held, and every cycle that nothing global
reaches, dies and is told of. -/
def close (c : Context σ) : Context σ :=
  let c := c.flushLog
  (c.performFlushed fun _ => do modify releaseTables; modify collect).2

/-- Counts that the host can read: cached handles, live handles, frames, promises, classes. -/
def counts (c : Context σ) : List Nat :=
  let b := c.world.bridge
  [b.ledger.cacheSize, b.ledger.size, b.ledger.depth, b.promises.size, b.classes.length]

end Context

end ScriptBridge
