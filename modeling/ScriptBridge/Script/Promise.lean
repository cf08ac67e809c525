import ScriptBridge.Script.Convert

/-!
Promises.

A promise settles once: both of its functions share a latch, and the first call trips it.
Listeners are never called on the spot; settling enqueues one job for each of them.  A rejection
that nobody listens to is made known at once, and again when its first listener arrives.
-/
namespace ScriptBridge.Script

open Text Script

variable {ρ α : Type}

/-- A promise with the functions that settle it; `promise` is any object for other constructors. -/
structure Capability where
  promise : Value
  resolve : Value
  reject : Value

def promiseConstructor : Ref := .builtin (.function (.promise .constructor))

def newPromise (proto : Ref) : Script ρ Ref :=
  request (.make (some proto) (.promise ⟨.pending, [], false⟩) [])

def promiseData? (r : Ref) : Script ρ (Option PromiseData) := do
  match ← payload r with
  | .promise p => return some p
  | _ => return none

/-! ### Settling -/

/-- The job that tells one listener of a settled promise. -/
def reactionJob (r : Reaction) (rejected : Bool) (v : Value) : Job :=
  .reaction (if rejected then r.onRejected else r.onFulfilled) rejected v r.resolve r.reject

def enqueueAll (rejected : Bool) (v : Value) : List Reaction → Script ρ Unit
  | [] => pure ()
  | r :: rest => do
    request (.enqueue (reactionJob r rejected v))
    enqueueAll rejected v rest

def settlePromise (r : Ref) (rejected : Bool) (v : Value) : Script ρ Unit := do
  match ← promiseData? r with
  | none => return ()
  | some p =>
    let state := if rejected then PromiseState.rejected v else .fulfilled v
    request (.revise r (.promise { p with state := state, reactions := [] }))
    if rejected && !p.handled then request (.rejection r v false)
    enqueueAll rejected v p.reactions

/-- Settles with `v`, or follows it when it has a `then` of its own. -/
def resolvePromise (r : Ref) (v : Value) : Script ρ Unit := do
  match v with
  | .object o =>
    if o == r then
      let e ← newError .typeError (Units.ofString "promise self resolution")
      settlePromise r true (.object e)
    else
      match ← attempt (o.getNamed "then") with
      | .error e => settlePromise r true e
      | .ok f =>
        match f, ← isCallable f with
        | .object f, true => request (.enqueue (.adopt r o f))
        | _, _ => settlePromise r false v
  | v => settlePromise r false v

/-- The two functions of a promise. -/
def resolvingFunctions (r : Ref) : Script ρ (Value × Value) := do
  let latch ← request (.newCell (some (.bool false)))
  let resolve ← newHelper (.settle r latch false) 1
  let reject ← newHelper (.settle r latch true) 1
  return (.object resolve, .object reject)

/-- What calling one of the two functions does. -/
def settleOnce (r : Ref) (latch : NodeId) (rejects : Bool) (v : Value) : Script ρ Unit := do
  match ← request (.readCell latch) with
  | some (.bool true) => return ()
  | _ =>
    request (.writeCell latch (some (.bool true)))
    if rejects then settlePromise r true v else resolvePromise r v

/-! ### Capabilities -/

def ownCapability : Script ρ Capability := do
  let p ← newPromise (.builtin (.object .promisePrototype))
  let (resolve, reject) ← resolvingFunctions p
  return ⟨.object p, resolve, reject⟩

def newCapability (c : Value) : Script ρ Capability := do
  match c with
  | .object r =>
    if r == promiseConstructor then ownCapability
    else
      let slot ← request (.newCell none)
      let executor ← newHelper (.capability slot) 2
      let promise ← constructValue c [.object executor]
      match ← request (.readCell slot) with
      | some (.object pair) =>
        let resolve ← pair.get (.index 0)
        let reject ← pair.get (.index 1)
        if !(← isCallable resolve) || !(← isCallable reject) then throwType "not a function"
        return ⟨promise, resolve, reject⟩
      | _ => throwType "not a function"
  | _ => throwType "not a constructor"

/-- What the executor of a capability does with the two functions it is given. -/
def fillCapability (slot : NodeId) (resolve reject : Value) : Script ρ Unit := do
  match ← request (.readCell slot) with
  | some (.object pair) =>
    let first ← pair.get (.index 0)
    let second ← pair.get (.index 1)
    if !first.isUndefined || !second.isUndefined then throwType "resolving function already set"
    request (.writeCell slot (some (.object (← newArray [resolve, reject]))))
  | _ => request (.writeCell slot (some (.object (← newArray [resolve, reject]))))

/-- `v` itself when it is a promise of the constructor, else a promise of it for `v`. -/
def promiseResolve (c v : Value) : Script ρ Value := do
  let same ← do
    match v with
    | .object r =>
      match ← promiseData? r with
      | some _ => pure (Value.strictEq (← r.getNamed "constructor") c)
      | none => pure false
    | _ => pure false
  if same then return v
  let cap ← newCapability c
  discard (callValue cap.resolve .undefined [v])
  return cap.promise

/-! ### Listening -/

/-- Registers a listener; handlers that are not functions pass the result on. -/
def performThen (r : Ref) (onFulfilled onRejected resolve reject : Value) : Script ρ Unit := do
  match ← promiseData? r with
  | none => return ()
  | some p =>
    let handler (v : Value) : Script ρ Value := do
      return if ← isCallable v then v else .undefined
    let reaction : Reaction := ⟨← handler onFulfilled, ← handler onRejected, resolve, reject⟩
    match p.state with
    | .pending =>
      request (.revise r (.promise { p with reactions := p.reactions ++ [reaction], handled := true }))
    | .fulfilled v =>
      request (.enqueue (reactionJob reaction false v))
      request (.revise r (.promise { p with handled := true }))
    | .rejected v =>
      if !p.handled then request (.rejection r v true)
      request (.enqueue (reactionJob reaction true v))
      request (.revise r (.promise { p with handled := true }))

/-! ### Jobs -/

/-- Tells one listener, and settles the promise that depends on what it returns. -/
def runReaction (handler : Value) (rejected : Bool) (v resolve reject : Value) : Script ρ Unit := do
  let result ← do
    if handler.isUndefined then pure (if rejected then Except.error v else .ok v)
    else attempt (callValue handler .undefined [v])
  let tell (f v : Value) : Script ρ Unit := do
    if !f.isUndefined then discard (callValue f .undefined [v])
  match result with
  | .ok v => tell resolve v
  | .error e => tell reject e

/-- Hands the functions of the promise to the `then` of the object that it follows. -/
def runAdopt (promise thenable then_ : Ref) : Script ρ Unit := do
  let (resolve, reject) ← resolvingFunctions promise
  match ← attempt (call then_ (.object thenable) [resolve, reject]) with
  | .ok _ => return ()
  | .error e => discard (callValue reject .undefined [e])

end ScriptBridge.Script
