import ScriptBridge.Script.Promise

/-!
Suspended activations: asynchronous functions and generators.

A task runs until it waits or ends.  An asynchronous function goes on when the promise it waits
for settles; a generator goes on when it is asked to; an asynchronous generator answers its
requests one after the other, each through a promise of its own.
-/
namespace ScriptBridge.Script

open Text Script

variable {ρ α : Type}

def newTask (function : Option Ref) (module : Option Nat) (isGenerator : Bool) (args : List Value)
    (resolve reject : Value) : Script ρ NodeId :=
  request (.newTask
    { function := function, module := module, isGenerator := isGenerator, arguments := args, locals := [], held := []
      resolve := resolve, reject := reject, stage := .fresh, queue := [] })

def updateTask (id : NodeId) (f : Task → Task) : Script ρ Unit := do
  match ← request (.readTask id) with
  | some t => request (.writeTask id (f t))
  | none => return ()

/-- What remains of a task that has ended. -/
def Task.ended (t : Task) : Task :=
  { t with function := none, arguments := [], locals := [], held := [], resolve := .undefined
           reject := .undefined, stage := .ended }

def endTask (id : NodeId) : Script ρ Unit := updateTask id Task.ended

/-! ### Asynchronous functions -/

/-- Has the task go on once `v` has settled. -/
def awaitIn (id : NodeId) (v : Value) : Script ρ Unit := do
  match ← promiseResolve (.object promiseConstructor) v with
  | .object p =>
    let onFulfilled ← newHelper (.awaited id false) 1
    let onRejected ← newHelper (.awaited id true) 1
    performThen p (.object onFulfilled) (.object onRejected) .undefined .undefined
  | _ => return ()

/-- Runs an asynchronous function until it waits or ends. -/
def asyncStep (id : NodeId) (input : Resumption) : Script ρ Unit := do
  match ← request (.readTask id) with
  | none => return ()
  | some t =>
    match ← request (.resume id input) with
    | .finished v =>
      endTask id
      discard (callValue t.resolve .undefined [v])
    | .threw e =>
      endTask id
      discard (callValue t.reject .undefined [e])
    | .paused _ v =>
      match ← attempt (awaitIn id v) with
      | .ok _ => return ()
      | .error e =>
        endTask id
        discard (callValue t.reject .undefined [e])

/-! ### Generators -/

def Resumption.isNext : Resumption → Bool
  | .next _ => true
  | _ => false

/-- One request to a generator that is not running. -/
def generatorStep (id : NodeId) (input : Resumption) : Script ρ Value := do
  match ← request (.readTask id) with
  | none => iterResult .undefined true
  | some t =>
    if t.stage == .running then throwType "cannot invoke a running generator"
    if t.stage == .ended || (t.stage == .fresh && !input.isNext) then
      endTask id
      match input with
      | .next _ => iterResult .undefined true
      | .throw e => throwValue e
      | .return v => iterResult v true
    else
      match ← request (.resume id input) with
      | .paused .delegate v => return v
      | .paused _ v => iterResult v false
      | .finished v =>
        endTask id
        iterResult v true
      | .threw e =>
        endTask id
        throwValue e

/-! ### Asynchronous generators -/

def setStage (id : NodeId) (s : Stage) : Script ρ Unit := updateTask id fun t => { t with stage := s }

/-- Answers the first request of the queue. -/
def answerRequest (id : NodeId) (result : Except Value (Value × Bool)) : Script ρ Unit := do
  match ← request (.readTask id) with
  | none => return ()
  | some t =>
    match t.queue with
    | [] => return ()
    | q :: rest =>
      request (.writeTask id { t with queue := rest })
      match result with
      | .ok (v, done) => discard (callValue q.resolve .undefined [← iterResult v done])
      | .error e => discard (callValue q.reject .undefined [e])

/-- A promise for `v`; when there is none to be had, one that is rejected for that reason. -/
def promiseFor (v : Value) : Script ρ Value := do
  match ← attempt (promiseResolve (.object promiseConstructor) v) with
  | .ok p => return p
  | .error e =>
    let cap ← ownCapability
    discard (callValue cap.reject .undefined [e])
    return cap.promise

/-- A request to return arrives after the end: it is answered once its value has settled. -/
def returnAfterEnd (id : NodeId) (v : Value) : Script ρ Unit := do
  setStage id .returning
  match ← promiseFor v with
  | .object p =>
    let onFulfilled ← newHelper (.returned id false) 1
    let onRejected ← newHelper (.returned id true) 1
    performThen p (.object onFulfilled) (.object onRejected) .undefined .undefined
  | _ => return ()

/-- The value of a request to return has settled. -/
def finishReturn (id : NodeId) (rejected : Bool) (v : Value) : Script ρ Unit := do
  setStage id .ended
  answerRequest id (if rejected then .error v else .ok (v, true))

/-- Goes on with the activation; `false` when it waits.  What keeps it from waiting for a value is
thrown where it would have waited. -/
def runGenerator (id : NodeId) : Nat → Resumption → Script ρ Bool
  | 0, _ => return false
  | n + 1, input => do
    match ← request (.resume id input) with
    | .paused .await v =>
      setStage id .running
      match ← attempt (awaitIn id v) with
      | .ok _ => return false
      | .error e => runGenerator id n (.throw e)
    | .paused _ v =>
      answerRequest id (.ok (v, false))
      return true
    | .finished v =>
      endTask id
      answerRequest id (.ok (v, true))
      return true
    | .threw e =>
      endTask id
      answerRequest id (.error e)
      return true

/-- Works on the queue as long as the activation does not wait.  Once it has ended, one request is
answered for each that arrives. -/
def drainRequests (id : NodeId) : Nat → Script ρ Unit
  | 0 => pure ()
  | n + 1 => do
    match ← request (.readTask id) with
    | none => return ()
    | some t =>
      match t.queue, t.stage with
      | [], _ => return ()
      | _, .running | _, .returning => return ()
      | q :: _, .ended =>
        match q.input with
        | .next _ => answerRequest id (.ok (.undefined, true))
        | .throw e => answerRequest id (.error e)
        | .return v => returnAfterEnd id v
      | q :: _, stage =>
        if stage == .fresh && !q.input.isNext then
          endTask id
          drainRequests id n
        else if ← runGenerator id loopLimit q.input then drainRequests id n

/-- What the generator waited for has settled. -/
def asyncGeneratorResume (id : NodeId) (input : Resumption) : Script ρ Unit := do
  if ← runGenerator id loopLimit input then drainRequests id loopLimit

/-- A request to an asynchronous generator; its answer is a promise. -/
def asyncGeneratorStep (this : Value) (input : Resumption) : Script ρ Value := do
  let cap ← ownCapability
  let task ← do
    match this with
    | .object r =>
      match ← payload r with
      | .asyncGenerator id => pure (some id)
      | _ => pure none
    | _ => pure none
  match task with
  | none =>
    let e ← newError .typeError (Units.ofString "not an AsyncGenerator object")
    discard (callValue cap.reject .undefined [.object e])
  | some id =>
    updateTask id fun t => { t with queue := t.queue ++ [⟨input, cap.resolve, cap.reject⟩] }
    drainRequests id loopLimit
  return cap.promise

/-- What an activation waited for has settled. -/
def continueTask (id : NodeId) (input : Resumption) : Script ρ Unit := do
  match ← request (.readTask id) with
  | some t => if t.isGenerator then asyncGeneratorResume id input else asyncStep id input
  | none => return ()

end ScriptBridge.Script
