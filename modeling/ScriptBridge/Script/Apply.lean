import ScriptBridge.Script.Builtin.Array
import ScriptBridge.Script.Builtin.Collection
import ScriptBridge.Script.Builtin.Date
import ScriptBridge.Script.Builtin.Json
import ScriptBridge.Script.Builtin.Numeric
import ScriptBridge.Script.Builtin.Promise
import ScriptBridge.Script.Builtin.RegExp
import ScriptBridge.Script.Builtin.Text
import ScriptBridge.Script.Eval.Module

/-!
Application: what a call of each kind of function runs.

Every function that belongs to scripts is one of a few kinds of payload, and each kind has one
program for a call and one for a construction.  Jobs and suspended activations are programs of
the same sort.
-/
namespace ScriptBridge.Script

open Text Script Builtins

/-! ### Functions made from text -/

/-- The text of a function whose last argument is its body and whose others are parameters. -/
def functionText (head : String) (args : List Units) : Units :=
  let parameters := args.dropLast
  let body := args.getLast?.getD []
  Units.ofString ("(" ++ head ++ " anonymous(")
    ++ (parameters.intersperse [44]).flatten
    ++ Units.ofString "\n) \x7b\n" ++ body ++ Units.ofString "\n\x7d)"

/-- Text that a script hands over to be run is named so. -/
def inputName : String := "<input>"

def makeFunction (head : String) (proto : BuiltinObject) (args : List Value)
    (newTarget : Option Ref) : Eval Value := do
  let texts ← mapEach toUnits args
  let v ← runText (functionText head texts).toLossy.toList inputName false
  match v, newTarget with
  | .object r, some t =>
    let p ← prototypeOf t proto
    discard (r.setPrototype (some p))
    return v
  | v, _ => return v

def evaluateText (v : Value) : Eval Value :=
  match v with
  | .string u _ => runOwnText u.toLossy.toList inputName
  | v => pure v

/-! ### Built-in functions -/

/-- Runs a built-in function; `newTarget` is there in a construction. -/
def applyNative (f : NativeFn) (this : Value) (args : List Value) (newTarget : Option Ref) :
    Eval Value := do
  match f with
  | .global g => if g == .evaluate then evaluateText (arg args 0) else globalCall g args
  | .object g => objectCall g this args newTarget
  | .function g =>
    match g with
    | .constructor => makeFunction "function" .functionPrototype args newTarget
    | .generatorConstructor => makeFunction "function*" .generatorFunctionPrototype args newTarget
    | .asyncConstructor => makeFunction "async function" .asyncFunctionPrototype args newTarget
    | .asyncGeneratorConstructor =>
      makeFunction "async function*" .asyncGeneratorFunctionPrototype args newTarget
    | g => functionCall g this args
  | .array g => arrayCall g this args newTarget
  | .iterator g =>
    match g, this with
    | .regexpNext, .object r =>
      match ← payload r with
      | .regexpIterator e text flags done => regexpNext r e text flags done
      | _ => throwType "RegExp String Iterator object expected"
    | g, this => iteratorCall g this args
  | .string g => stringCall g this args newTarget
  | .number g => numberCall g this args newTarget
  | .boolean g => booleanCall g this args newTarget
  | .symbol g => symbolCall g this args newTarget
  | .bigint g => bigintCall g this args newTarget
  | .math g => mathCall g args
  | .json g => jsonCall g args
  | .reflect g => reflectCall g args
  | .proxy g => proxyCall g args newTarget
  | .promise g => promiseCall g this args newTarget
  | .map g => mapCall g this args newTarget
  | .set g => setCall g this args newTarget
  | .weak g => weakCall g this args newTarget
  | .date g => dateCall g this args newTarget
  | .regexp g => regexpCall g this args newTarget
  | .errorConstructor c => errorConstructor c args newTarget
  | .errorToString => newText (← errorText this)
  | .throwTypeError =>
    let lenient ← match this with
      | .object r => do
        match ← payload r with
        | .closure c => pure (!c.code.info.strict && c.code.info.hasPrototype)
        | _ => pure false
      | _ => pure false
    if lenient then return .undefined else throwType "invalid property access"

/-! ### Functions made by the engine -/

/-- Runs the function `f` of the engine's own making. -/
def applyHelper (f : Ref) (h : Helper) (args : List Value) : Eval Value := do
  let a := arg args 0
  match h with
  | .settle promise latch rejects =>
    settleOnce promise latch rejects a
    return .undefined
  | .capability slot =>
    fillCapability slot a (arg args 1)
    return .undefined
  | .awaited task throws =>
    continueTask task (if throws then .throw a else .next a)
    return .undefined
  | .returned task rejected =>
    finishReturn task rejected a
    return .undefined
  | .finallyDo onFinally constructor rejecting => runFinally onFinally constructor rejecting a
  | .giveBack v throws => if throws then throwValue v else return v
  | .groupElement role i values counter latch resolve reject =>
    groupElement role i values counter latch resolve reject a
    return .undefined
  | .revoke proxy =>
    match proxy with
    | some id =>
      match ← payload (.made id) with
      | .proxy p => request (.revise (.made id) (.proxy { p with revoked := true }))
      | _ => pure ()
      request (.revise f (.helper (.revoke none)))
      return .undefined
    | none => return .undefined
  | .iterResult done => iterResult a done
  | .importDone resolve module =>
    let members ← namespaceObject moduleLimit module
    discard (callValue resolve .undefined [.object members])
    return .undefined
  | .moduleDone module rejected =>
    if rejected then moduleRejected moduleLimit module a else moduleFulfilled module
    return .undefined

/-! ### Calls and constructions -/

/-- The program of a call of `f`. -/
def applyFunction (f : Ref) (p : Payload) (this : Value) (args : List Value) : Eval Value :=
  match p with
  | .closure c => callClosure evaluator f c this args
  | .native g => applyNative g this args none
  | .bound target bound given => call target bound (given ++ args)
  | .helper h => applyHelper f h args
  | .proxy p => applyProxy p this args
  | _ => throwType "not a function"

/-- The program of a construction with `f`. -/
def applyConstructor (f : Ref) (p : Payload) (args : List Value) (newTarget : Ref) : Eval Value := do
  if !(← isConstructor (.object f)) then throwType "not a constructor"
  match p with
  | .closure c => constructClosure evaluator f c args newTarget
  | .native g => applyNative g .undefined args (some newTarget)
  | .bound target _ given =>
    construct target (given ++ args) (if newTarget == f then target else newTarget)
  | .proxy p => constructProxy p args newTarget
  | _ => throwType "not a function"

/-! ### Tasks and jobs -/

/-- What a task runs from its start. -/
def startTask (id : NodeId) (t : Task) : Eval Value :=
  match t.function, t.module with
  | some f, _ => runTaskFunction evaluator id f t.arguments
  | none, some m => runModuleBody id m
  | none, none => pure .undefined

/-- What a job runs. -/
def runJob (j : Job) : Eval Value := do
  match j with
  | .reaction handler rejected v resolve reject => runReaction handler rejected v resolve reject
  | .adopt promise thenable then_ => runAdopt promise thenable then_
  | .importModule resolve reject base specifier => runImport resolve reject base specifier
  | .microtask f => discard (call f .undefined [])
  | .cleanup callback held => discard (call callback .undefined [held])
  return .undefined

end ScriptBridge.Script
