import ScriptBridge.Bridge.Marshal

/-!
Callbacks: what happens when a script needs the host.

A callback opens a frame in the ledger, stages its arguments there, takes the host's turn, reads
the reply while the frame still stands, and closes the frame on every path.  While the host
answers one callback it is not entered for another.
-/
namespace ScriptBridge

open Data Text Script Script.Script

/-! ### Throwing -/

namespace Runner

variable {σ α : Type} (run : Runner σ)

/-- Throws a new error into the script. -/
def throwNew (c : ErrorClass) (message : String) : Act σ α := do
  let e ← run.script (newError c (Units.bounded messageLimit (Units.ofString message)))
  throw (.thrown (.object e))

/-- The class of the error that a script sees for a fault at the border. -/
def errorClassOf : EngineFault → ErrorClass
  | .resolving .. | .loading .. => .referenceError
  | _ => .typeError

/-- Throws a fault into the script. -/
def throwFault (f : BridgeFault) : Act σ α :=
  match f with
  | .engine e => run.throwNew (errorClassOf e) e.message
  | f => run.throwNew .internalError f.message

def orThrowFault (x : Except BridgeFault α) : Act σ α :=
  match x with
  | .ok a => pure a
  | .error f => run.throwFault f

def checkArity (count limit : Nat) : Act σ Unit :=
  if count > limit then run.throwFault (.tooManyArguments count) else pure ()

/-! ### The host's turn -/

/-- An operation's failure as an answer to the host; a thrown value stays unknown to it. -/
def answered (m : Act σ α) : Act σ (Except BridgeFault α) := fun w =>
  match m w with
  | .ok a w => .ok (.ok a) w
  | .error e w =>
    match e with
    | .fault f => .ok (.error f) w
    | .thrown _ => .ok (.error (.engine .unsettled)) w
    | .interrupted => .error .interrupted w

def answerScope : (q : ScopeRequest) → Act σ q.Answer
  | .retain s => answered (run.retain s)
  | .release s => answered (release s)
  | .stringOf s => do return (← Act.bridge).stringOf s
  | .stringify s => answered (run.stringify s)
  | .newPromise => answered run.newPromise

/-- Answers the host's requests until it replies. -/
def takeTurn : Turn σ → Act σ Reply
  | .reply r memory => do
    modify fun w => { w with memory := memory }
    return r
  | .ask q k => do
    let a ← answerScope run q
    takeTurn (k a)

/-- Lets the host answer a callback. -/
def enterHost (host : Host σ) (c : Callback) (slots : List Slot) : Act σ Reply := fun w =>
  let entered := { w with bridge := w.bridge.note (.entered c slots), busy := true }
  let leave (w : World σ) : World σ := { w with bridge := w.bridge.note .left, busy := false }
  match takeTurn run (host.act w.memory c slots) entered with
  | .ok r w => .ok r (leave w)
  | .error e w => .error e (leave w)

/-- Opens a frame and stages the arguments of a callback in it. -/
def openFrame (args : List Value) (w : World σ) : List Slot × World σ :=
  let (slots, b) := { w.bridge with ledger := w.bridge.ledger.pushFrame }.encodeAll args
  (slots, { w with bridge := b })

/-- Closes the frame on top. -/
def closeFrame (w : World σ) : World σ :=
  { w with bridge := { w.bridge with ledger := w.bridge.ledger.popFrame.2 } }

/-- Calls the host with `slots` and the encoded `args`, and reads the reply by `finish`. -/
def callHost (host : Host σ) (c : Callback) (slots : List Slot) (args : List Value)
    (finish : Reply → Act σ α) : Act σ α := fun w =>
  let (more, opened) := openFrame args w
  let body : Act σ α :=
    if w.busy then run.throwFault .hostBusy
    else do finish (← enterHost run host c (slots ++ more))
  match body opened with
  | .ok a w => .ok a (closeFrame w)
  | .error e w => .error e (closeFrame w)

/-- A reply as the result of a call. -/
def replyValue (r : Reply) : Act σ Value := do
  match r with
  | .done => return .undefined
  | .value s => run.orThrowFault ((← Act.bridge).decode s)
  | .throw s =>
    let v ← run.orThrowFault ((← Act.bridge).decode s)
    throw (.thrown v)
  | .failure c => run.throwNew .internalError ("Unknown Error (" ++ toString c.toInt ++ ")")

/-! ### Text for the host -/

/-- Hands a line to the host; while the host is busy, the line is lost. -/
def print (host : Host σ) (level : PrintLevel) (text : String) : Act σ Unit :=
  modify fun w => if w.busy then w else { w with memory := host.print w.memory level text }

def printAll (host : Host σ) (level : PrintLevel) : List String → Act σ Unit
  | [] => pure ()
  | line :: rest => do
    print host level line
    printAll host level rest

/-- Adds to the log; complete lines reach the host. -/
def writeLog (host : Host σ) (fragment : String) : Act σ Unit := do
  let b ← Act.bridge
  let (lines, log) := b.log.write fragment
  Act.setBridge { b with log := log }
  printAll host .log lines

def flushLog (host : Host σ) : Act σ Unit := do
  let b ← Act.bridge
  let (rest, log) := b.log.flush
  Act.setBridge { b with log := log }
  match rest with
  | some text => print host .log text
  | none => pure ()

end Runner

/-! ### Thrown values -/

/-- The text of a thrown value: the value and, when it has one, its stack, a line each. -/
def renderThrown {ρ : Type} (v : Value) : Script ρ String := do
  let text ← do
    match ← attempt (toUnits v) with
    | .ok u =>
      match Units.toText u with
      | .ok t => pure t
      | .error _ => pure ("[" ++ (← shownType v) ++ "]")
    | .error _ => pure ("[" ++ (← shownType v) ++ "]")
  let stack ← do
    match v with
    | .object r =>
      match ← attempt (r.getNamed "stack") with
      | .ok s =>
        if s.isNullish then pure none
        else
          match ← attempt (toUnits s) with
          | .ok u => pure (Units.toText u).toOption
          | .error _ => pure none
      | .error _ => pure none
    | _ => pure none
  match stack with
  | some s => return text ++ "\n" ++ s ++ "\n"
  | none => return text ++ "\n"

namespace Runner

variable {σ α : Type} (run : Runner σ)

/-- An operation whose thrown value, if any, is taken and worded. -/
def settle (m : Act σ α) : Act σ α := fun w =>
  match m w with
  | .ok a w => .ok a w
  | .error e w =>
    match e with
    | .thrown v => (do Act.fault (.exception (← run.script (renderThrown v))) : Act σ α) w
    | e => .error e w

/-! ### Rejections -/

/-- Logs the reason of a rejection, or withholds it for later. -/
def reportRejection (host : Host σ) (reason : Value) : Act σ Unit := do
  let b ← Act.bridge
  match b.deferred with
  | some reasons => Act.setBridge { b with deferred := some (reasons ++ [reason]) }
  | none =>
    let text ← run.script (renderThrown reason)
    Act.note (.logged reason)
    writeLog host ("Possibly unhandled promise rejection: " ++ text)

def reportEach (host : Host σ) : List Value → Act σ Unit
  | [] => pure ()
  | v :: rest => do
    reportRejection run host v
    reportEach host rest

end Runner

/-- Stops withholding; what is not `handled` is reported after all. -/
def Runner.releaseRejections {σ : Type} (run : Runner σ) (host : Host σ) (handled : Option Value) :
    Act σ Unit := do
  let b ← Act.bridge
  Act.setBridge { b with deferred := none }
  run.reportEach host ((b.deferred.getD []).filter fun v => !(handled.any (Value.identical v)))

end ScriptBridge
