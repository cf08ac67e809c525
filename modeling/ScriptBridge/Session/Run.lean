import ScriptBridge.Session.RuleHost

/-!
Performing a session: step after step on one context, with a report of each.

Reports leave out what depends on where a script stood: lines of text that show a place in a
call stack are dropped, and notices of death that follow each other are put in order.
-/
namespace ScriptBridge.Session

/-! ### Text without places -/

def splitLines : List Char → List (List Char)
  | [] => [[]]
  | c :: rest =>
    if c == '\n' then [] :: splitLines rest
    else
      match splitLines rest with
      | [] => [[c]]
      | line :: more => (c :: line) :: more

/-- A line that shows a place in a call stack. -/
def isPlace (line : List Char) : Bool := "    at ".toList.isPrefixOf line

def withoutPlaces (text : String) : String :=
  let lines := (splitLines text.toList).filter fun l => !isPlace l
  String.ofList (lines.intersperse ['\n']).flatten

def ShownSlot.withoutPlaces (s : ShownSlot) : ShownSlot :=
  match s.slot with
  | .text t => ⟨.text (Session.withoutPlaces t), s.text⟩
  | _ => s

def faultWithoutPlaces : BridgeFault → BridgeFault
  | .exception t => .exception (withoutPlaces t)
  | .init t => .init (withoutPlaces t)
  | f => f

/-! ### Events -/

/-- The token of a notice of death. -/
def noticeToken? : Event → Option UInt64
  | .host .delete (⟨.rawPointer t, _⟩ :: _) _ => some t
  | _ => none

/-- Puts a notice in its place among the notices at the front. -/
def insertNotice (t : UInt64) (e : Event) : List Event → List Event
  | [] => [e]
  | f :: rest =>
    match noticeToken? f with
    | some u => if t ≤ u then e :: f :: rest else f :: insertNotice t e rest
    | none => e :: f :: rest

def orderNotices : List Event → List Event
  | [] => []
  | e :: rest =>
    match noticeToken? e with
    | some t => insertNotice t e (orderNotices rest)
    | none => e :: orderNotices rest

/-- A printed line as the report shows it, if it does. -/
def showEvent : Event → Option Event
  | .print level text =>
    let isLine := !text.toList.contains '\n'
    if isLine && isPlace text.toList then none else some (.print level (withoutPlaces text))
  | .host c args scope => some (.host c (args.map ShownSlot.withoutPlaces) scope)

/-- The events noted so far, the first one first; the notes are cleared. -/
def takeEvents (c : Context Memory) : List Event × Context Memory :=
  let m := c.world.memory
  (orderNotices (m.events.reverse.filterMap showEvent),
    { c with world := { c.world with memory := { m with events := [] } } })

/-! ### Steps -/

def showSlot (c : Context Memory) (s : Slot) : ShownSlot :=
  match s with
  | .scriptString _ => ⟨s, (c.stringOf s).toOption⟩
  | s => (⟨s, none⟩ : ShownSlot).withoutPlaces

def keepSlot (c : Context Memory) (name : Option String) (s : Slot) : Context Memory :=
  { c with world := { c.world with memory := c.world.memory.keep name s } }

def slotOf (c : Context Memory) (e : SlotExpr) : Slot := e.value c.world.memory.vars []

/-- Reports a slot and keeps it. -/
def reportSlot (name : Option String) (a : Answer Slot) (c : Context Memory) :
    StepResult × Context Memory :=
  match a with
  | .ok s => (.answer (.ok (.slot (showSlot c s))), keepSlot c name s)
  | .error f => (.answer (.error (faultWithoutPlaces f)), c)

def reportNothing (c : Context Memory) : StepResult × Context Memory := (.answer (.ok .nothing), c)

/-- Reports a return code with the result slot, which is kept. -/
def reportCode (name : Option String) (n : Int) (c : Context Memory) : StepResult × Context Memory :=
  (.code n (showSlot c c.result), keepSlot c name c.result)

def setArguments (c : Context Memory) : List (Nat × SlotExpr) → Context Memory
  | [] => c
  | (i, e) :: rest => setArguments (c.setArgument i (slotOf c e)) rest

def performStep (c : Context Memory) : Step → StepResult × Context Memory
  | .perform a args name =>
    match c.tryDispatch a (args.map (slotOf c)) with
    | (.ok (some s), c) => reportSlot name (.ok s) c
    | (.ok none, c) => reportNothing c
    | (.error f, c) => reportSlot name (.error f) c
  | .dispatch code args name =>
    let (n, c) := c.dispatchWith code (args.map (slotOf c))
    reportCode name n c
  | .dispatchRaw changes code argc name =>
    let (n, c) := (setArguments c changes).dispatch code argc
    reportCode name n c
  | .slots => (.slots (c.arguments.map (showSlot c)) [showSlot c c.result], c)
  | .retain s name =>
    let (a, c) := c.retain (slotOf c s)
    reportSlot name a c
  | .release s =>
    let (a, c) := c.release (slotOf c s)
    (.answer (a.map fun _ => .nothing), c)
  | .stringOf s => (.answer ((c.stringOf (slotOf c s)).map .text), c)
  | .stringify s =>
    match c.stringify (slotOf c s) with
    | (.ok t, c) => (.answer (.ok (.text (withoutPlaces t))), c)
    | (.error f, c) => (.answer (.error (faultWithoutPlaces f)), c)
  | .registerClass d classId name =>
    let (a, c) := c.registerClass d classId
    reportSlot name a c
  | .newPromise name =>
    let (a, c) := c.newPromise
    reportSlot name a c
  | .runOneJob =>
    let (n, c) := c.runOneJob
    reportCode none n c
  | .stepJob =>
    let (s, c) := c.stepJob
    (.status s, c)
  | .drainJobs =>
    let ((ran, errors), c) := c.drainJobs
    (.drained ran (errors.map withoutPlaces), c)
  | .clearCache => reportNothing c.clearCache
  | .writeLog text => reportNothing (c.writeLog text)
  | .flushLog => reportNothing c.flushLog
  | .gc => reportNothing c.runGc

def reportStep (c : Context Memory) (s : Step) : StepReport × Context Memory :=
  let (result, c) := performStep c s
  let (events, c) := takeEvents c
  (⟨result, events, c.counts, c.hasPendingJob⟩, c)

def performAll (c : Context Memory) : List Step → List StepReport × Context Memory
  | [] => ([], c)
  | s :: rest =>
    let (r, c) := reportStep c s
    let (more, c) := performAll c rest
    (r :: more, c)

/-! ### Sessions -/

/-- A context with the rule host of a plan. -/
def start (s : Settings) (p : HostPlan) : Answer (Context Memory) :=
  match s.validate with
  | .error why => .error (.init (SettingsFault.invalid why).message)
  | .ok _ =>
    let memory := if s.memoryLimit == 0 then none else some s.memoryLimit.toNat
    Context.create (ruleHost p) (.ofStack s.maxStackSize.toNat)
      ⟨s.maxArguments.toNat, s.tracksRejections, memory⟩ (.empty p)

def perform (s : Settings) (p : HostPlan) (steps : List Step) : Answer Report := do
  let c ← start s p
  let (reports, c) := performAll c steps
  return ⟨reports, (takeEvents c.close).1⟩

end ScriptBridge.Session
