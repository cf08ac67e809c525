import ScriptBridge.Script.Eval.Frame
import ScriptBridge.Script.Task

/-!
Functions: closures, calls and constructions.

A closure keeps the variables that its text names and no others.  A call makes fresh variables
for everything the function declares, runs the body and returns what the body returned.
-/
namespace ScriptBridge.Script

open Text Script

/-! ### Closures -/

/-- The first binding of each wanted name, and every object that may stand before it. -/
def pickBindings (names : List Name) : List Name → Env → Env
  | _, [] => []
  | seen, .object r :: rest => .object r :: pickBindings names seen rest
  | seen, .declared r :: rest => .declared r :: pickBindings names seen rest
  | seen, .variable n c mode :: rest =>
    if names.contains n && !seen.contains n then
      .variable n c mode :: pickBindings names (n :: seen) rest
    else pickBindings names seen rest

def capturedEnv (captures : Option (List Name)) (env : Env) : Env :=
  match captures with
  | none => env
  | some names => pickBindings names [] env

def functionPrototypeFor (i : FunctionInfo) : BuiltinObject :=
  match i.isAsync, i.isGenerator with
  | false, false => .functionPrototype
  | false, true => .generatorFunctionPrototype
  | true, false => .asyncFunctionPrototype
  | true, true => .asyncGeneratorFunctionPrototype

/-- What a new function needs besides its text. -/
structure ClosurePlan where
  name : Units
  home : Option Ref := none
  fields : List FieldPlan := []
  proto : Option Ref := none

def newClosure (fr : Frame) (f : FunctionNode) (p : ClosurePlan) : Eval Ref := do
  let i := f.info
  let proto := match p.proto with
    | some r => r
    | none => .builtin (.object (functionPrototypeFor i))
  let closure : Closure :=
    { code := f, env := capturedEnv i.captures fr.env, home := p.home, fields := p.fields
      origin := fr.origin }
  request (.make (some proto) (.closure closure)
    (functionMembers p.name i.length
      ++ if i.hasPrototype then [(Key.ofString "prototype", .pendingPrototype)] else []))

/-- The default export of a module is called so, whatever name the module keeps it under. -/
def shownName (n : Name) : Units := Units.ofString (if n == "*default*" then "default" else n)

def functionName (f : FunctionNode) (given : Units) : Units :=
  if f.info.name == "" then given else shownName f.info.name

/-- Gives the functions declared in `body` to their variables. -/
def hoistFunctions (fr : Frame) : List FunctionNode → Eval Unit
  | [] => pure ()
  | f :: rest => do
    let r ← newClosure fr f { name := functionName f [] }
    initializeVariable fr f.info.name (.object r)
    hoistFunctions fr rest

/-! ### Parameters -/

/-- The places of arguments that are one with a parameter, each with the parameter's variable. -/
def sharedParameters (env : Env) (count : Nat) (names : List Name) : List (Nat × NodeId) :=
  (names.zipIdx.take count).filterMap fun x =>
    if (names.drop (x.2 + 1)).contains x.1 then none
    else (findVariable x.1 env).map fun v => (x.2, v.1)

/-- The object `arguments`; the value of a shared element is in its variable alone. -/
def argumentsObject (f : Ref) (strict : Bool) (args : List Value) (shared : List (Nat × NodeId)) :
    Eval Ref :=
  let thrower := Ref.builtin (.function .throwTypeError)
  let callee := if strict then Property.accessor (some thrower) (some thrower) false false
    else .hidden (.object f)
  let element (a : Value × Nat) : Key × Property :=
    (Key.index a.2, .plain (if (shared.lookup a.2).isSome then .undefined else a.1))
  request (.make (some (.builtin (.object .objectPrototype))) (.arguments shared)
    ([(lengthKey, .hidden (.ofNat args.length)), (Key.ofString "callee", callee),
      (.symbol symIterator, .hidden (.native (.array .values)))]
      ++ args.zipIdx.map element))

/-- Variables for plain parameters: a later one of the same name hides the earlier. -/
def bindPlain (fr : Frame) : List Name → List Value → Eval Frame
  | [], _ => pure fr
  | n :: rest, [] => do
    let fr ← bindVariable fr n .mutable (some .undefined)
    bindPlain fr rest []
  | n :: rest, v :: more => do
    let fr ← bindVariable fr n .mutable (some v)
    bindPlain fr rest more

def valueOrDefault (ev : Evaluator) (fr : Frame) (name : Units) (v : Value) (d : Option Expr) :
    Eval Value := do
  match v, d with
  | .undefined, some e => ev.named fr name e
  | v, _ => return v

def patternName (p : Pattern) : Units :=
  match p with
  | .target (.ident n) => shownName n
  | _ => []

def bindPatterns (ev : Evaluator) (fr : Frame) : List PatternItem → List Value → Eval Unit
  | [], _ => pure ()
  | .hole :: rest, args => bindPatterns ev fr rest (args.drop 1)
  | .rest p :: _, args => do
    ev.pattern fr .declare p (.object (← newArray args))
  | .single p d :: rest, args => do
    let v ← valueOrDefault ev fr (patternName p) (args.headD .undefined) d
    ev.pattern fr .declare p v
    bindPatterns ev fr rest (args.drop 1)

/-! ### Activations -/

/-- The receiver as lenient code sees it. -/
def lenientThis (v : Value) : Eval Value := do
  if v.isNullish then return .object globalObject
  return .object (← toObject v)

structure Activation where
  function : Ref
  closure : Closure
  this : Value
  arguments : List Value
  newTarget : Option Ref
  task : Option NodeId

/-- Variables that a function has before its parameters. -/
def bindImplicit (a : Activation) (fr : Frame) : Eval Frame := do
  let i := a.closure.code.info
  let fr ← if i.usesSelf then bindVariable fr i.name .self (some (.object a.function)) else pure fr
  let fr ← if !i.usesThis then pure fr
    else if i.kind == .derivedConstructor then bindVariable fr "this" .mutable none
    else do
      let this ← if i.strict then pure a.this else lenientThis a.this
      bindVariable fr "this" .mutable (some this)
  let fr ← if i.usesNewTarget then
      bindVariable fr "new.target" .mutable (some (optionValue a.newTarget))
    else pure fr
  let fr ← if i.usesSuper then do
      let fr ← bindVariable fr "super" .mutable (some (optionValue a.closure.home))
      if i.kind == .derivedConstructor then
        bindVariable fr "super()" .mutable (some (.object a.function))
      else pure fr
    else pure fr
  if i.usesArguments then bindVariable fr "arguments" .mutable (some .undefined) else return fr

/-- Makes the object of a function that mentions its `arguments`. -/
def makeArguments (a : Activation) (fr scope : Frame) (names : List Name) : Eval Unit := do
  let i := a.closure.code.info
  if i.usesArguments then
    let shared := if i.strict then [] else sharedParameters scope.env a.arguments.length names
    let r ← argumentsObject a.function i.strict a.arguments shared
    initializeVariable fr "arguments" (.object r)

/-- A variable of the body with the name of a parameter is another one that begins with the value
of the parameter; functions among the default values keep to the parameter. -/
def shadowParameters (fr : Frame) : List Name → Eval Frame
  | [] => pure fr
  | n :: rest => do
    let fr ← bindVariable fr n .mutable (some (← readVariable fr n))
    shadowParameters fr rest

/-- Runs a function's body in fresh variables. -/
def runActivation (ev : Evaluator) (a : Activation) : Eval Value := fun k e =>
  let body : Eval Value := do
    match a.closure.code with
    | .mk i items statements =>
      let start : Frame :=
        { env := a.closure.env, scope := a.closure.env, strict := i.strict
          origin := a.closure.origin, task := a.task, held := [], result := none, leave := k
          isAsync := i.isAsync, isGenerator := i.isGenerator }
      let start ← if i.captures.isSome then pure start
        else do
          let r ← request (.make none .ordinary [])
          pure { start with env := .declared r :: start.env }
      let fr ← bindImplicit a start
      let fr ← if i.simple then do
          let inner ← bindPlain fr i.parameterNames a.arguments
          makeArguments a fr inner i.parameterNames
          pure inner
        else do
          makeArguments a fr fr []
          let fr ← bindVariables fr .mutable none i.parameterNames
          bindPatterns ev fr items a.arguments
          shadowParameters fr (i.varNames.filter i.parameterNames.contains)
      let fr ← bindVariables fr .mutable (some .undefined)
        (i.varNames.filter fun n => !i.parameterNames.contains n)
      let fr := { fr with scope := fr.env }
      let fr ← bindLexical fr i.lexical
      hoistFunctions fr (declaredFunctions statements)
      let result ← ev.statements fr statements
      let v := match result with
        | .return v => v
        | _ => .undefined
      if i.kind == .derivedConstructor then
        match v with
        | .object _ => return v
        | .undefined => readThis fr
        | _ => throwType "derived class constructor must return an object or undefined"
      else return v
  body k e

/-! ### Calls -/

def startAsync (f : Ref) (this : Value) (args : List Value) : Eval Value := do
  let cap ← ownCapability
  let task ← newTask (some f) none false (this :: args) cap.resolve cap.reject
  asyncStep task (.next .undefined)
  return cap.promise

def startGenerator (f : Ref) (isAsync : Bool) (this : Value) (args : List Value) : Eval Value := do
  let proto ← prototypeOf f (if isAsync then .asyncGeneratorPrototype else .generatorPrototype)
  let task ← newTask (some f) none true (this :: args) .undefined .undefined
  let inside := if isAsync then Payload.asyncGenerator task else .generator task
  return .object (← request (.make (some proto) inside []))

def callClosure (ev : Evaluator) (f : Ref) (c : Closure) (this : Value) (args : List Value) :
    Eval Value := do
  let i := c.code.info
  if i.isClass then throwType "class constructors must be invoked with 'new'"
  if i.isGenerator then startGenerator f i.isAsync this args
  else if i.isAsync then startAsync f this args
  else runActivation ev ⟨f, c, this, args, none, none⟩

/-- The body of a task's function, from its start. -/
def runTaskFunction (ev : Evaluator) (id : NodeId) (f : Ref) (args : List Value) : Eval Value := do
  match ← payload f with
  | .closure c => runActivation ev ⟨f, c, args.headD .undefined, args.drop 1, none, some id⟩
  | _ => return .undefined

/-! ### Construction -/

def secretExists {α : Type} (k : Key) : Eval α :=
  throwUnits .typeError
    (Units.ofString "private class field '" ++ k.shown ++ Units.ofString "' already exists")

/-- Gives a new instance what its class plans for it. -/
def initializeFields (instance_ : Ref) : List FieldPlan → Eval Unit
  | [] => pure ()
  | .secretMethod k p :: rest => do
    if (← request (.own instance_ k)).isSome then throwType "private method is already present"
    discard (request (.define instance_ k (Change.ofProperty p)))
    initializeFields instance_ rest
  | .field k init :: rest => do
    let v ← call init (.object instance_) []
    if k.isSecret then
      if (← request (.own instance_ k)).isSome then secretExists k
      discard (request (.define instance_ k (Change.ofProperty (.data v true false false))))
    else instance_.create k v
    initializeFields instance_ rest

def constructClosure (ev : Evaluator) (f : Ref) (c : Closure) (args : List Value) (newTarget : Ref) :
    Eval Value := do
  if c.code.info.kind == .derivedConstructor then
    runActivation ev ⟨f, c, .undefined, args, some newTarget, none⟩
  else
    let proto ← prototypeOf newTarget .objectPrototype
    let made ← request (.make (some proto) .ordinary [])
    initializeFields made c.fields
    match ← runActivation ev ⟨f, c, .object made, args, some newTarget, none⟩ with
    | .object r => return .object r
    | _ => return .object made

end ScriptBridge.Script
