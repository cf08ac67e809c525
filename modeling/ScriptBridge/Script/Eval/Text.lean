import ScriptBridge.Script.Eval.Pattern
import ScriptBridge.Script.Syntax.Program

/-!
Declarations in the global scope, and text that is evaluated inside other text.

Evaluated text sees every variable that its place sees.  What it binds by `let`, `const` and
`class` is its own; variables and functions of lenient text belong to the function around it, or
to the global scope where there is none.
-/
namespace ScriptBridge.Script

open Text Script

/-! ### Global declarations -/

def redeclared {α : Type} (n : Name) : Eval α :=
  throwWorded .syntaxError ("redeclaration of '" ++ Units.shownName n ++ "'")

/-- A new global lexical variable must not meet one of its name, nor a fixed property. -/
def checkLexical : List LexicalName → Eval Unit
  | [] => pure ()
  | l :: rest => do
    match ← request (.own globalObject (Key.ofString l.name)) with
    | some p => if !p.configurable then redeclared l.name
    | none => pure ()
    if (← request (.findGlobal l.name)).isSome then redeclared l.name
    checkLexical rest

def checkVariables (functions : List Name) : List Name → Eval Unit
  | [] => pure ()
  | n :: rest => do
    match ← request (.own globalObject (Key.ofString n)) with
    | some p =>
      let open_ := match p with
        | .data _ w e c => c || (w && e)
        | p => p.configurable
      if functions.contains n && !open_ then throwType ("cannot define variable '" ++ Units.shownName n ++ "'")
    | none =>
      if !(← look globalObject).extensible then throwType ("cannot define variable '" ++ Units.shownName n ++ "'")
    if (← request (.findGlobal n)).isSome then redeclared n
    checkVariables functions rest

def declareLexical : List LexicalName → Eval Unit
  | [] => pure ()
  | l :: rest => do
    discard (request (.declareGlobal l.name l.constant))
    declareLexical rest

def declareVariables : List Name → Eval Unit
  | [] => pure ()
  | n :: rest => do
    let k := Key.ofString n
    if (← request (.own globalObject k)).isNone then
      discard (request (.define globalObject k (Change.ofProperty (.data .undefined true true false))))
    declareVariables rest

/-- Global functions take the place of what had their name. -/
def declareFunctions (fr : Frame) : List FunctionNode → Eval Unit
  | [] => pure ()
  | f :: rest => do
    let r ← newClosure fr f { name := functionName f [] }
    let k := Key.ofString f.info.name
    let change : Change ← do
      match ← request (.own globalObject k) with
      | some p =>
        pure (if p.configurable then Change.ofProperty (.data (.object r) true true false)
          else { value := some (.object r) })
      | none => pure (Change.ofProperty (.data (.object r) true true false))
    orRefuse (← globalObject.defineOwn k change)
    declareFunctions fr rest

/-! ### Text inside text -/

def throwSyntax {α : Type} (f : SyntaxFault) : Eval α := throwWorded .syntaxError f.message

/-- The object for the variables of evaluated text in the innermost function. -/
def declaredObject : Env → Option Ref
  | [] => none
  | .declared r :: _ => some r
  | _ :: rest => declaredObject rest

/-- Does the innermost function bind the name itself? -/
def bindsName (n : Name) : Env → Bool
  | [] | .declared _ :: _ => false
  | .variable m _ _ :: rest => m == n || bindsName n rest
  | .object _ :: rest => bindsName n rest

/-- Adds variables to a function that runs. -/
def declareIn (r : Ref) (env : Env) : List Name → Eval Unit
  | [] => pure ()
  | n :: rest => do
    let k := Key.ofString n
    if !bindsName n env then
      if !(← r.has k) then r.create k .undefined
    declareIn r env rest

def assignFunctions (fr : Frame) : List FunctionNode → Eval Unit
  | [] => pure ()
  | f :: rest => do
    let r ← newClosure fr f { name := functionName f [] }
    writeVariable fr f.info.name (.object r)
    assignFunctions fr rest

/-- Runs a program where `fr` stands; its value is that of its last statement. -/
def runWithin (ev : Evaluator) (fr : Frame) (p : Program) : Eval Value := do
  let functions := declaredFunctions p.body
  let result ← request (.newCell (some .undefined))
  let fr := { fr with result := some result, strict := p.strict }
  if p.strict then
    let fr ← bindVariables fr .mutable (some .undefined) p.varNames
    let fr ← bindLexical { fr with scope := fr.env } p.lexical
    hoistFunctions fr functions
    discard (ev.statements fr p.body)
  else
    match declaredObject fr.env with
    | some r =>
      declareIn r fr.env p.varNames
      let fr ← bindLexical { fr with scope := fr.env } p.lexical
      assignFunctions fr functions
      discard (ev.statements fr p.body)
    | none =>
      checkVariables (functions.map fun f => f.info.name) p.varNames
      let inner ← bindLexical fr p.lexical
      declareFunctions inner functions
      declareVariables p.varNames
      discard (ev.statements inner p.body)
  readCell "" result

/-- What the grammar must know of the place where text is evaluated. -/
def contextAt (fr : Frame) (source : List Char) : Context :=
  let has (n : Name) : Bool := (findVariable n fr.env).isSome
  { source := source, strict := fr.strict, newTargets := has "new.target"
    superMembers := has "super", superCalls := has "super()" }

def secretNames (env : Env) : List Name :=
  env.filterMap fun b =>
    match b with
    | .variable n _ _ => if n.startsWith "#" then some n else none
    | _ => none

/-- Evaluates text where a call stands; anything else is its own value. -/
def evalText (ev : Evaluator) (fr : Frame) (v : Option Value) : Eval Value :=
  match v with
  | some (.string u _) =>
    match Program.parseIn? (contextAt fr u.toLossy.toList) (secretNames fr.env) true with
    | .error f => throwSyntax f
    | .ok p => runWithin ev fr p
  | some v => pure v
  | none => pure .undefined

end ScriptBridge.Script
