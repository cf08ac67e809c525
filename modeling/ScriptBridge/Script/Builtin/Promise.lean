import ScriptBridge.Script.Builtin.Object

/-!
`Promise` and its members, and what the functions made for promises do.
-/
namespace ScriptBridge.Script.Builtins

open Text Script

variable {ρ α : Type}

/-! ### Groups -/

inductive GroupKind where
  | all | allSettled | any | race

/-- The error of a group that nobody fulfilled: it has nothing but the errors of its members. -/
def aggregateError (errors : Ref) : Script ρ Value := do
  return .object (← request (.make (some (.builtin (.object (.errorPrototype .aggregateError)))) .error
    [(Key.ofString "errors", .hidden (.object errors))]))

/-- Runs a group of promises; each reports to the group by the functions given to its `then`. -/
def runGroup (kind : GroupKind) (this : Value) (cap : Capability) (source : Value) : Script ρ Unit := do
  let resolve ← getMemberNamed this "resolve"
  needFunction resolve
  let values ← newArray []
  let counter ← request (.newCell (some (.int 1)))
  let it ← iterate source
  let element (role : GroupRole) (i : Nat) (latch : NodeId) : Script ρ Value := do
    return .object (← newHelper (.groupElement role i values counter latch cap.resolve cap.reject) 1)
  it.forEach (fun i v => do
    let p ← callValue resolve this [v]
    let latch ← request (.newCell (some (.bool false)))
    let (onFulfilled, onRejected) ← match kind with
      | .race => pure (cap.resolve, cap.reject)
      | .all => do pure (← element .all i latch, cap.reject)
      | .allSettled => do pure (← element .settledFulfilled i latch, ← element .settledRejected i latch)
      | .any => do pure (cap.resolve, ← element .any i latch)
    match kind with
    | .race => pure ()
    | _ =>
      values.create (Key.ofInt i) .undefined
      match ← request (.readCell counter) with
      | some n => request (.writeCell counter (some (← step true n)))
      | none => pure ()
    discard (invoke p "then" [onFulfilled, onRejected])) loopLimit 0
  match kind with
  | .race => return ()
  | _ => countDown kind values counter
where
  countDown (kind : GroupKind) (values : Ref) (counter : NodeId) : Script ρ Unit := do
    match ← request (.readCell counter) with
    | some n =>
      let left ← step false n
      request (.writeCell counter (some left))
      if Value.strictEq left (.int 0) then
        match kind with
        | .any =>
          discard (callValue cap.reject .undefined [← aggregateError values])
        | _ => discard (callValue cap.resolve .undefined [.object values])
    | none => return ()

/-- One element of a group reports. -/
def groupElement (role : GroupRole) (i : Nat) (values : Ref) (counter latch : NodeId)
    (resolve reject v : Value) : Script ρ Unit := do
  match ← request (.readCell latch) with
  | some (.bool true) => return ()
  | _ =>
    request (.writeCell latch (some (.bool true)))
    let item ← match role with
      | .settledFulfilled => do
        pure (Value.object (← newObject [dataMember "status" (Value.text "fulfilled"), dataMember "value" v]))
      | .settledRejected => do
        pure (Value.object (← newObject [dataMember "status" (Value.text "rejected"), dataMember "reason" v]))
      | _ => pure v
    values.create (Key.ofInt i) item
    match ← request (.readCell counter) with
    | some n =>
      let left ← step false n
      request (.writeCell counter (some left))
      if Value.strictEq left (.int 0) then
        match role with
        | .any =>
          discard (callValue reject .undefined [← aggregateError values])
        | _ => discard (callValue resolve .undefined [.object values])
    | none => return ()

def startGroup (kind : GroupKind) (this source : Value) : Script ρ Value := do
  match this with
  | .object _ => pure ()
  | _ => throwType "not an object"
  let cap ← newCapability this
  match ← attempt (runGroup kind this cap source) with
  | .ok _ => return cap.promise
  | .error e =>
    discard (callValue cap.reject .undefined [e])
    return cap.promise

/-! ### Members -/

def thisPromise (this : Value) : Script ρ Ref := do
  match this with
  | .object r =>
    match ← promiseData? r with
    | some _ => return r
    | none => throwType "Promise object expected"
  | _ => throwType "Promise object expected"

def promiseThen (this onFulfilled onRejected : Value) : Script ρ Value := do
  let r ← thisPromise this
  let c ← speciesOf r (.promise .constructor)
  let cap ← newCapability c
  performThen r onFulfilled onRejected cap.resolve cap.reject
  return cap.promise

def constructPromise (args : List Value) (newTarget : Option Ref) : Script ρ Value := do
  match newTarget with
  | none => throwType "must be called with new"
  | some t =>
    let executor := arg args 0
    needFunction executor
    let proto ← prototypeOf t .promisePrototype
    let p ← newPromise proto
    let (resolve, reject) ← resolvingFunctions p
    match ← attempt (callValue executor .undefined [resolve, reject]) with
    | .ok _ => return .object p
    | .error e =>
      discard (callValue reject .undefined [e])
      return .object p

def promiseCall (f : PromiseFn) (this : Value) (args : List Value) (newTarget : Option Ref) :
    Script ρ Value := do
  let a := arg args 0
  match f with
  | .constructor => constructPromise args newTarget
  | .resolve =>
    match this with
    | .object _ => promiseResolve this a
    | _ => throwType "not an object"
  | .reject =>
    match this with
    | .object _ =>
      let cap ← newCapability this
      discard (callValue cap.reject .undefined [a])
      return cap.promise
    | _ => throwType "not an object"
  | .all => startGroup .all this a
  | .allSettled => startGroup .allSettled this a
  | .any => startGroup .any this a
  | .race => startGroup .race this a
  | .withResolvers =>
    discard (needObject this)
    let cap ← newCapability this
    return .object (← newObject [dataMember "promise" cap.promise, dataMember "resolve" cap.resolve,
      dataMember "reject" cap.reject])
  | .species => return this
  | .then => promiseThen this a (arg args 1)
  | .catchError => invoke this "then" [.undefined, a]
  | .finallyDo =>
    match this with
    | .object r =>
      let c ← speciesOf r (.promise .constructor)
      let (x, y) ← if ← isCallable a then do
          let x ← newHelper (.finallyDo a c false) 1
          let y ← newHelper (.finallyDo a c true) 1
          pure (Value.object x, Value.object y)
        else pure (a, a)
      invoke this "then" [x, y]
    | _ => throwType "not an object"

/-- What the function made for `finally` does: it runs, then passes the result on. -/
def runFinally (onFinally constructor : Value) (rejecting : Bool) (v : Value) : Script ρ Value := do
  let result ← callValue onFinally .undefined []
  let p ← promiseResolve constructor result
  let back ← newHelper (.giveBack v rejecting) 0
  invoke p "then" [.object back]

end ScriptBridge.Script.Builtins
