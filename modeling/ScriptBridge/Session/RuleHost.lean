import ScriptBridge.Session.Plan

/-!
The host that answers by rules.

Its memory counts the uses of each rule, keeps slots by name and notes every callback and every
printed line.  The arguments of a callback are noted as they are when it begins.
-/
namespace ScriptBridge.Session

structure Memory where
  /-- uses of each rule, in the order of the rules -/
  uses : List Nat
  vars : List (String × Slot)
  /-- what happened, the latest first -/
  events : List Event

namespace Memory

def empty (p : HostPlan) : Memory := ⟨p.rules.map fun _ => 0, [], []⟩

def note (m : Memory) (e : Event) : Memory := { m with events := e :: m.events }

def keep (m : Memory) (name : Option String) (s : Slot) : Memory :=
  match name with
  | some n => { m with vars := (n, s) :: m.vars.filter fun v => v.1 != n }
  | none => m

end Memory

/-- Does the rule apply to a callback, after so many uses? -/
def Rule.applies (r : Rule) (uses : Nat) (c : Callback) (args : List Slot) : Bool :=
  let fits (p : Option Pattern) (i : Nat) : Bool :=
    match p with
    | some p => (args[i]?).any p.accepts
    | none => true
  r.on == c && fits r.first 0 && fits r.second 1 && r.times.all (uses < ·)

/-- The first rule that applies, and the uses of all rules with this one counted. -/
def findRule (c : Callback) (args : List Slot) : List Rule → List Nat → Option Rule × List Nat
  | r :: rules, n :: uses =>
    if r.applies n c args then (some r, (n + 1) :: uses)
    else
      let (found, uses) := findRule c args rules uses
      (found, n :: uses)
  | _, uses => (none, uses)

/-! ### Turns -/

def showThen (s : Slot) (k : ShownSlot → Turn Memory) : Turn Memory :=
  match s with
  | .scriptString _ => .ask (.stringOf s) fun t => k ⟨s, t.toOption⟩
  | s => k ⟨s, none⟩

def showAllThen : List Slot → (List ShownSlot → Turn Memory) → Turn Memory
  | [], k => k []
  | s :: rest, k => showThen s fun shown => showAllThen rest fun more => k (shown :: more)

/-- The slot of an answer, shown and kept. -/
def keepThen (m : Memory) (name : Option String) (a : Answer Slot)
    (k : Memory → Answer Shown → Turn Memory) : Turn Memory :=
  match a with
  | .ok s => showThen s fun shown => k (m.keep name s) (.ok (.slot shown))
  | .error f => k m (.error f)

def scopeStepThen (args : List Slot) (m : Memory) (s : ScopeStep)
    (k : Memory → Answer Shown → Turn Memory) : Turn Memory :=
  match s with
  | .retain e name => .ask (.retain (e.value m.vars args)) fun a => keepThen m name a k
  | .release e => .ask (.release (e.value m.vars args)) fun a => k m (a.map fun _ => .nothing)
  | .stringOf e => .ask (.stringOf (e.value m.vars args)) fun a => k m (a.map .text)
  | .stringify e => .ask (.stringify (e.value m.vars args)) fun a => k m (a.map .text)
  | .newPromise name => .ask .newPromise fun a => keepThen m name a k

def scopeThen (args : List Slot) :
    List ScopeStep → Memory → (Memory → List (Answer Shown) → Turn Memory) → Turn Memory
  | [], m, k => k m []
  | s :: rest, m, k =>
    scopeStepThen args m s fun m a => scopeThen args rest m fun m more => k m (a :: more)

def ReplyPlan.reply (p : ReplyPlan) (vars : List (String × Slot)) (args : List Slot) : Reply :=
  match p with
  | .done => .done
  | .value e => .value (e.value vars args)
  | .throw e => .throw (e.value vars args)
  | .failure n => .failure n

/-- What the host replies without a rule. -/
def defaultReply (modules : List (String × String)) (c : Callback) (args : List Slot) : Reply :=
  match c, args with
  | .loadModule, .text name :: _ =>
    match modules.lookup name with
    | some source => .value (.text source)
    | none => .failure (-1)
  | .loadModule, _ => .failure (-1)
  | _, _ => .done

def answerBy (p : HostPlan) (m : Memory) (c : Callback) (args : List Slot) : Turn Memory :=
  if p.silent then .reply .done m
  else
    showAllThen args fun shown =>
      let (rule, uses) := findRule c args p.rules m.uses
      let m := { m with uses := uses }
      match rule with
      | none => .reply (defaultReply p.modules c args) (m.note (.host c shown none))
      | some r =>
        scopeThen args (r.scope.getD []) m fun m results =>
          .reply (r.reply.reply m.vars args) (m.note (.host c shown (r.scope.map fun _ => results)))

/-- The host of a plan. -/
def ruleHost (p : HostPlan) : Host Memory :=
  { act := answerBy p
    print := fun m level text => if p.silent then m else m.note (.print level text) }

end ScriptBridge.Session
