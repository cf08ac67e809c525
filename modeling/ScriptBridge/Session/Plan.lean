import ScriptBridge.Bridge.Context
import ScriptBridge.Settings.Basic

/-!
Sessions: a context, a host that answers by rules, and a list of steps to perform.

This module says what a session consists of: slots that may name earlier ones, the rules of the
host, the steps, and the report that each step leaves.
-/
namespace ScriptBridge.Session

/-- A slot, or where to find one. -/
inductive SlotExpr where
  | literal (s : Slot)
  /-- kept earlier under a name -/
  | kept (name : String)
  /-- an argument of the callback -/
  | argument (n : Nat)
  /-- the number of the callback's arguments -/
  | count
  /-- the sum of the callback's 32-bit integers -/
  | sum
  deriving Repr

namespace SlotExpr

def sumOf (args : List Slot) : Int32 :=
  args.foldl (fun n s =>
    match s with
    | .int32 i => n + i
    | _ => n) 0

/-- The slot meant, among kept slots and a callback's arguments. -/
def value (vars : List (String × Slot)) (args : List Slot) : SlotExpr → Slot
  | .literal s => s
  | .kept name => (vars.lookup name).getD .null
  | .argument n => args.getD n .null
  | .count => .int32 (Int32.ofNat args.length)
  | .sum => .int32 (sumOf args)

end SlotExpr

/-! ### The host -/

/-- What an argument has to be for a rule to apply. -/
inductive Pattern where
  | number (n : Int)
  | text (s : String)
  deriving Repr, DecidableEq

/-- A number matches integers and pointers, a text matches texts. -/
def Pattern.accepts : Pattern → Slot → Bool
  | .number n, .int32 i => i.toInt == n
  | .number n, .rawPointer p => (p.toNat : Int) == n
  | .text t, .text s => t == s
  | _, _ => false

inductive ScopeStep where
  | retain (s : SlotExpr) (keep : Option String)
  | release (s : SlotExpr)
  | stringOf (s : SlotExpr)
  | stringify (s : SlotExpr)
  | newPromise (keep : Option String)
  deriving Repr

inductive ReplyPlan where
  | done
  | value (s : SlotExpr)
  | throw (s : SlotExpr)
  | failure (code : Int32)
  deriving Repr

structure Rule where
  on : Callback
  first : Option Pattern
  second : Option Pattern
  /-- how often the rule may be used -/
  times : Option Nat
  scope : Option (List ScopeStep)
  reply : ReplyPlan

structure HostPlan where
  rules : List Rule
  modules : List (String × String)
  /-- a silent host answers nothing and notes nothing -/
  silent : Bool

/-! ### Steps -/

inductive Step where
  | perform (a : Action) (args : List SlotExpr) (keep : Option String)
  | dispatch (code : Int32) (args : List SlotExpr) (keep : Option String)
  | dispatchRaw (changes : List (Nat × SlotExpr)) (code : Int32) (argc : Nat) (keep : Option String)
  | slots
  | retain (s : SlotExpr) (keep : Option String)
  | release (s : SlotExpr)
  | stringOf (s : SlotExpr)
  | stringify (s : SlotExpr)
  | registerClass (d : ClassDescriptor) (classId : Int32) (keep : Option String)
  | newPromise (keep : Option String)
  | runOneJob
  | stepJob
  | drainJobs
  | clearCache
  | writeLog (text : String)
  | flushLog
  | gc

/-! ### Reports -/

/-- A slot with the text that it has, if it is a string of the script. -/
structure ShownSlot where
  slot : Slot
  text : Option String
  deriving Repr

/-- What a successful operation gave. -/
inductive Shown where
  | nothing
  | text (t : String)
  | slot (s : ShownSlot)
  deriving Repr

inductive Event where
  | host (c : Callback) (args : List ShownSlot) (scope : Option (List (Answer Shown)))
  | print (level : PrintLevel) (text : String)

inductive StepResult where
  | answer (a : Answer Shown)
  | code (n : Int) (result : ShownSlot)
  | slots (arguments results : List ShownSlot)
  | status (s : Context.JobStatus)
  | drained (ran : Nat) (errors : List String)

structure StepReport where
  result : StepResult
  events : List Event
  counts : List Nat
  hasPendingJob : Bool

structure Report where
  steps : List StepReport
  ending : List Event

end ScriptBridge.Session
