import ScriptBridge.Bridge.Machine

/-!
Dispatch: what each action does.

An action first checks the number and the kinds of its arguments and only then touches the
script, so a refused action leaves everything as it was.
-/
namespace ScriptBridge

open Data Text Script Script.Script

namespace Dispatch

variable {σ : Type} (run : Runner σ)

/-! ### Arguments -/

def refused {α : Type} : Act σ α := Act.fault .wrongArguments

def object (s : Slot) : Act σ Ref := do Act.orFault ((← Act.bridge).object s)

def stringOf (s : Slot) : Act σ String := do Act.orFault ((← Act.bridge).stringOf s)

def decode (s : Slot) : Act σ Value := do Act.orFault ((← Act.bridge).decode s)

def decodeAll (ss : List Slot) : Act σ (List Value) := do Act.orFault ((← Act.bridge).decodeAll ss)

/-- Encodes a result. -/
def encode (v : Value) : Act σ Slot := do
  let (s, b) := (← Act.bridge).encode v
  Act.setBridge b
  return s

/-- Source and name of a script or module. -/
def sourcePair (args : List Slot) : Act σ (String × String) := do
  match args with
  | [code, name] =>
    if code.isString && name.isString then return (← stringOf code, ← stringOf name) else refused
  | _ => refused

def key (s : Slot) : Act σ Key := do
  match s with
  | .int32 i => return .ofInt i.toInt
  | .text _ | .scriptString _ => return .ofString (← stringOf s)
  | _ => refused

/-- The first `count` of the slots that follow; there must be as many. -/
def trailing (count : Int32) (rest : List Slot) : Act σ (List Slot) :=
  if count.toInt < 0 || rest.length < count.toInt.toNat then refused
  else pure (rest.take count.toInt.toNat)

/-! ### Scripts and modules -/

/-- Scripts that the host hands over are named so. -/
def scriptName : String := "eval_script"

def evaluate (args : List Slot) : Act σ Slot := do
  let (code, _) ← sourcePair args
  Act.orFault (Machine.checkNul code)
  encode (← run.script (runText code.toList scriptName false))

/-- The default export of a module once its evaluation has begun. -/
def defaultExport (id : Nat) : Eval Value := do
  (← namespaceObject moduleLimit id).getNamed "default"

/-- Reads, links and evaluates a module; a rejected evaluation is thrown. -/
def moduleResult (name : String) (source : String) : Eval Value := do
  let id ← declareModule moduleLimit name source.toList
  linkModule moduleLimit id
  let p ← evaluateModule id
  match ← promiseData? p with
  | some d =>
    match d.state with
    | .rejected reason => throwValue reason
    | _ => defaultExport id
  | none => defaultExport id

def evaluateModuleText (name code : String) : Act σ Slot := do
  let source := ModuleText.ofSource code
  Act.orFault (Machine.checkNul name)
  Act.orFault (Machine.checkNul source)
  encode (← run.script (moduleResult name source))

/-- An operation while rejections are withheld.  If it fails by one of them, that one is not logged. -/
def withholding {α : Type} (host : Host σ) (m : Act σ α) : Act σ α := fun w =>
  match m { w with bridge := { w.bridge with deferred := some [] } } with
  | .ok a w => (do
      run.releaseRejections host none
      return a : Act σ α) w
  | .error e w =>
    let handled := match e with
      | .thrown v => some v
      | _ => none
    (do
      run.releaseRejections host handled
      throw e : Act σ α) w

/-- Runs a module. -/
def runModule (host : Host σ) (args : List Slot) : Act σ Slot := do
  let (code, name) ← sourcePair args
  withholding run host (evaluateModuleText run name code)

/-! ### Objects -/

def setMember (args : List Slot) : Act σ Unit := do
  match args with
  | [target, k, v] =>
    let r ← object target
    let k ← key k
    let v ← decode v
    run.script (r.set k v)
  | _ => refused

def getMember (args : List Slot) : Act σ Slot := do
  match args with
  | [target, k] =>
    let r ← object target
    let k ← key k
    encode (← run.script (r.get k))
  | _ => refused

def invoke (args : List Slot) : Act σ Slot := do
  match args with
  | target :: name :: .int32 count :: rest =>
    if !name.isString then refused
    else
      let r ← object target
      let given ← trailing count rest
      let k ← key name
      let values ← decodeAll given
      encode (← run.script (do
        let method ← r.get k
        match method, ← isCallable method with
        | .object f, true => call f (.object r) values
        | _, _ => throwType "not a function"))
  | _ => refused

def callFunction (args : List Slot) : Act σ Slot := do
  match args with
  | target :: .int32 count :: rest =>
    let r ← object target
    let given ← trailing count rest
    if !(← run.script (isCallable (.object r))) then Act.fault .notFunction
    else
      let values ← decodeAll given
      encode (← run.script (call r (.object globalObject) values))
  | _ => refused

/-- Does the value show a token? -/
def showsToken (v : Value) : Act σ Bool :=
  match v with
  | .object o => do return (← run.script (marker o targetKey)).isSome
  | _ => pure false

/-- Makes an instance at the host's own request, without asking the host. -/
def bind (args : List Slot) : Act σ Slot := do
  match args with
  | target :: _ =>
    let r ← object target
    if !(← run.script (isConstructor (.object r))) then Act.fault .notConstructor
    else
      match (← Act.bridge).intrinsics with
      | none => Act.fault (.init "bridge intrinsics are not installed")
      | some i =>
        let v ← run.script (construct r [i.sentinel] r)
        if ← showsToken run v then run.stageClassified v else Act.fault .wrongResult
  | _ => refused

/-- The name of a property as far as its first zero; symbols go by their descriptions. -/
def shownName (k : Key) : Except BridgeFault String := hostText (k.units.takeWhile (· != 0))

/-- Names of all own properties. -/
def propertyNames (args : List Slot) : Act σ Slot := do
  match args with
  | [target] =>
    let r ← object target
    let keys ← run.script (r.ownKeys : Script (List Key) (List Key))
    let names ← Act.orFault (keys.mapM shownName)
    return .text (",".intercalate names)
  | _ => refused

def testObject (test : Value → Script Bool Bool) (args : List Slot) : Act σ Slot := do
  match args with
  | [target] =>
    let r ← object target
    return .bool ((← run.script? (test (.object r))).getD false)
  | _ => refused

/-- The text of its argument, whatever that is. -/
def toText (args : List Slot) : Act σ Slot := do
  match args with
  | [s] => return .text (← run.stringify s)
  | _ => refused

def makePlain : Act σ Slot := do encode (.object (← run.script (newObject [] : Script Ref Ref)))

/-! ### Promises -/

/-- What a promise is completed with. -/
def completion (outcome : Outcome) (rest : List Slot) : Act σ Value :=
  match outcome, rest with
  | .resolveNull, _ => pure .null
  | _, s :: _ => decode s
  | _, [] => pure .undefined

/-- Calls the function that a promise is completed by. -/
def settlePromise (settler v : Value) : Act σ Unit :=
  match settler with
  | .object f => discard (run.script (call f .undefined [v]))
  | _ => Act.fault .notFunction

/-- Ends a promise of the host. -/
def completePromise (args : List Slot) : Act σ Unit := do
  match args with
  | .promise id :: .int32 code :: rest =>
    let outcome := Outcome.ofCode code.toInt
    let v ← completion outcome rest
    let b ← Act.bridge
    let (p, t) ← Act.orFault (b.promises.take id)
    Act.setBridge ({ b with promises := t }.note (.completed id))
    settlePromise run (if outcome == .reject then p.reject else p.resolve) v
  | _ => refused

/-- Resolves a promise with an object and listens to it with two functions. -/
def runPromise (args : List Slot) : Act σ Unit := do
  match args with
  | [target, onResolve, onReject] =>
    let v ← object target
    let onResolve ← object onResolve
    let onReject ← object onReject
    match (← Act.bridge).intrinsics with
    | none => Act.fault (.init "bridge intrinsics are not installed")
    | some i =>
      let resolved ← run.asObject (← run.script
        (callValue i.promiseResolve i.promiseConstructor [.object v]))
      let next ← run.asFunction (← run.script (resolved.getNamed "then"))
      discard (run.script (call next (.object resolved) [.object onResolve]))
      let failed ← run.asFunction (← run.script (resolved.getNamed "catch"))
      discard (run.script (call failed (.object resolved) [.object onReject]))
  | _ => refused

/-! ### Actions -/

/-- Runs an action; some give a slot and some give nothing. -/
def perform (host : Host σ) (a : Action) (args : List Slot) : Act σ (Option Slot) := do
  match a with
  | .eval => return some (← evaluate run args)
  | .toString => return some (← toText run args)
  | .set =>
    setMember run args
    return none
  | .get => return some (← getMember run args)
  | .invoke => return some (← invoke run args)
  | .bind => return some (← bind run args)
  | .promiseComplete =>
    completePromise run args
    return none
  | .wrapFunction => return some (← run.wrapFunction)
  | .call => return some (← callFunction run args)
  | .run => return some (← runModule run host args)
  | .runPromise =>
    runPromise run args
    return none
  | .propertyNames => return some (← propertyNames run args)
  | .newObject => return some (← makePlain run)
  | .isArray => return some (← testObject run isArray args)
  | .isFunction => return some (← testObject run isCallable args)
  | .isConstructor => return some (← testObject run isConstructor args)

end Dispatch

end ScriptBridge
