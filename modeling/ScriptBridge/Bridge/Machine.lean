import ScriptBridge.Bridge.Console
import ScriptBridge.Module.Source
import ScriptBridge.Module.Specifier

/-!
The machine: runs scripts in a world.

`serve` answers one request.  What the engine can answer it answers; calls run the program of the
function, or the bridge's own code when the function belongs to the host.  `run` answers request
after request.  It is recursive on a number of steps, and code of the bridge that runs scripts in
turn gets a runner with fewer steps, so what every request keeps, every run keeps.
-/
namespace ScriptBridge

open Data Text Script Script.Script

namespace Machine

variable {σ α : Type}

/-! ### Calls -/

/-- What a function of the host's side runs when it is called. -/
def callHostSide (run : Runner σ) (host : Host σ) (h : HostData) (this : Value) (args : List Value) :
    Act σ Value :=
  match h with
  | .instance .. => run.throwNew .typeError "not a function"
  | .constructor classId => run.constructInstance host classId this args
  | .member classId position => run.callMember host classId position this args
  | .wrapped token => run.callWrapped host token args
  | .print level => run.printArguments host level args
  | .globalReader => pure (.object globalObject)

def callObject (run : Runner σ) (host : Host σ) (f : Ref) (this : Value) (args : List Value) :
    Act σ Value := do
  match ((← Act.engine).obj f).kind with
  | .script p => run.script (applyFunction f p this args)
  | .host h => callHostSide run host h this args

def constructObject (run : Runner σ) (host : Host σ) (f : Ref) (args : List Value) (newTarget : Ref) :
    Act σ Value := do
  match ((← Act.engine).obj f).kind with
  | .script p => run.script (applyConstructor f p args newTarget)
  | .host h =>
    match h with
    | .constructor classId => run.constructInstance host classId (.object newTarget) args
    | _ => run.throwNew .typeError "not a constructor"

/-! ### Activations -/

/-- What an activation has left to do. -/
def taskProgram (e : Engine) (id : NodeId) (t : Task) (input : Resumption) : Prog Value :=
  if t.stage == .fresh then (startTask id t).run
  else
    match e.suspended.get? id with
    | some k => k input
    | none => .done .undefined

/-- Marks an activation as running. -/
def beginTask (id : NodeId) (t : Task) (w : World σ) : World σ :=
  let e := w.engine.writeTask id { t with stage := .running, held := [] }
  { w with engine := { e with suspended := e.suspended.erase id } }

/-- Marks an activation as suspended. -/
def endTask (id : NodeId) (w : World σ) : World σ :=
  match w.engine.readTask id with
  | some t => { w with engine := w.engine.writeTask id { t with stage := .suspended } }
  | none => w

/-- Goes on with an activation until it ends or waits. -/
def resumeTask (run : Runner σ) (id : NodeId) (input : Resumption) : Act σ StepResult := fun w =>
  match w.engine.readTask id with
  | none => .ok (.finished .undefined) w
  | some t =>
    match run.run (taskProgram w.engine id t input) (beginTask id t w) with
    | (.done v, w) => .ok (.finished v) (endTask id w)
    | (.threw v, w) => .ok (.threw v) (endTask id w)
    | (.suspended v pause k, w) =>
      let w := endTask id w
      let w := { w with engine := { w.engine with suspended := w.engine.suspended.insert id k } }
      .ok (.paused pause v) w
    | (.interrupted, w) => .error .interrupted w

/-! ### Modules -/

/-- Text as far as its first zero byte. -/
def beforeNul (s : String) : String := String.ofList (s.toList.takeWhile (· != '\x00'))

/-- A reply to the question for a module's full name. -/
def namedModule (base name : String) (r : Reply) : Act σ (Option String) :=
  match r with
  | .value s => do return ((← Act.bridge).stringOf s).toOption
  | .done => pure (some (Specifier.normalize base name))
  | _ => pure none

/-- Asks the host what a module's name means in another module. -/
def resolveName (run : Runner σ) (host : Host σ) (base name : String) : Act σ String := do
  let base := beforeNul base
  let name := beforeNul name
  let found ← run.callHost host .moduleName [.text base, .text name] [] (namedModule base name)
  match found with
  | some path => return beforeNul path
  | none =>
    run.throwFault (.engine (.resolving base name (ModuleFault.unresolved base name).message))

/-- The byte position of the first zero byte. -/
def nulPosition? : List Char → Nat → Option Nat
  | [], _ => none
  | c :: rest, n => if c == '\x00' then some n else nulPosition? rest (n + c.utf8Size)

/-- Text that the engine reads must not have a zero byte. -/
def checkNul (s : String) : Except BridgeFault Unit :=
  match nulPosition? s.toList 0 with
  | some n => .error (.engine (.nulByte n))
  | none => .ok ()

/-- A reply to the question for a module's text. -/
def moduleSource (r : Reply) : Act σ (Option String) :=
  match r with
  | .value s => do return ((← Act.bridge).stringOf s).toOption
  | _ => pure none

/-- Asks the host for a module's text. -/
def loadSource (run : Runner σ) (host : Host σ) (name : String) : Act σ String := do
  let found ← run.callHost host .loadModule [.text name] [] moduleSource
  match found with
  | some text =>
    let source := ModuleText.ofSource text
    run.orThrowFault (checkNul source)
    return source
  | none => run.throwFault (.engine (.loading name (ModuleFault.notFound name).message))

/-! ### Requests -/

/-- The outcome of an operation as a script sees it. -/
def outcome (run : Runner σ) (m : Act σ α) : Act σ (Except Value α) := fun w =>
  let seen (m : Act σ α) (w : World σ) : EStateM.Result Failure (World σ) (Except Value α) :=
    match m w with
    | .ok a w => .ok (.ok a) w
    | .error (.thrown v) w => .ok (.error v) w
    | .error _ w => .error .interrupted w
  match m w with
  | .ok a w => .ok (.ok a) w
  | .error e w =>
    match e with
    | .thrown v => .ok (.error v) w
    | .fault f => seen (run.throwFault f) w
    | .interrupted => .error .interrupted w

/-- Answers one request; `deep` says that no further call may begin. -/
def serve (host : Host σ) (run : Runner σ) (deep : Bool) : (q : Request) → Act σ q.Answer
  | .call f this args =>
    outcome run (if deep then run.script throwDeep else callObject run host f this args)
  | .construct f args newTarget =>
    outcome run (if deep then run.script throwDeep else constructObject run host f args newTarget)
  | .resume id input => resumeTask run id input
  | .rejection promise reason handled => do
    if !handled && (← Act.bridge).tracksRejections then
      Act.note (.rejected promise reason)
      run.reportRejection host reason
  | .resolveName base name => outcome run (resolveName run host base name)
  | .loadSource name => outcome run (loadSource run host name)
  | q => fun w =>
    let (a, e) := w.engine.answer q
    .ok a { w with engine := e }

/-- Runs a script for at most `steps` requests, with calls at most `depth` deep. -/
def run (host : Host σ) (steps depth : Nat) {ρ : Type} (p : Prog ρ) (w : World σ) :
    Finish ρ × World σ :=
  match steps with
  | 0 => (.interrupted, w)
  | n + 1 =>
    match p with
    | .done r => (.done r, w)
    | .fail v => (.threw v, w)
    | .ask (.suspend v pause) k => (.suspended v pause k, w)
    | .ask q k =>
      match serve host ⟨fun p w => run host n (depth - 1) p w⟩ (depth == 0) q w with
      | .ok a w => run host n depth (k a) w
      | .error _ w => (.interrupted, w)
termination_by structural steps

end Machine

end ScriptBridge
