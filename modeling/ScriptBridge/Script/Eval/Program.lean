import ScriptBridge.Script.Eval.Statement

/-!
The evaluator as a whole, and text in the global scope.

`Evaluator.within n` evaluates trees of depth at most `n`; what lies deeper throws as any
recursion that goes too deep does.
-/
namespace ScriptBridge.Script

open Text Script

def Evaluator.within : Nat → Evaluator
  | 0 =>
    { expr := fun _ _ => throwDeep, named := fun _ _ _ => throwDeep
      pattern := fun _ _ _ _ => throwDeep, statement := fun _ _ _ => throwDeep
      statements := fun _ _ => throwDeep, classDefinition := fun _ _ _ => throwDeep }
  | n + 1 =>
    let inner := Evaluator.within n
    { expr := fun fr e k f => evalExpr inner fr e k f
      named := fun fr name e k f => evalNamed inner fr name e k f
      pattern := fun fr mode p v k f => evalPattern inner fr mode p v k f
      statement := fun fr labels s k f => evalStatement inner fr labels s k f
      statements := fun fr body k f => evalStatements inner fr body k f
      classDefinition := fun fr shown c k f => evalClass inner fr shown c k f }

/-- How deep the trees of a script may be. -/
def treeLimit : Nat := 4000

def evaluator : Evaluator := Evaluator.within treeLimit

/-! ### Programs -/

/-- Runs a program in the global scope; its value is that of its last statement. -/
def runProgram (p : Program) (origin : String) : Eval Value := fun k e =>
  let body : Eval Value := do
    let functions := declaredFunctions p.body
    let names := functions.map fun f => f.info.name
    checkLexical p.lexical
    checkVariables names p.varNames
    declareLexical p.lexical
    let result ← request (.newCell (some .undefined))
    let fr : Frame :=
      { env := [], scope := [], strict := p.strict, origin := origin, isAsync := false
        isGenerator := false, task := none, held := [], result := some result, leave := k }
    declareFunctions fr functions
    declareVariables p.varNames
    discard (evaluator.statements fr p.body)
    readCell "" result
  body k e

/-- Runs text in the global scope. -/
def runText (source : List Char) (origin : String) (strict : Bool) : Eval Value := do
  match Program.parse? source strict with
  | .error f => throwSyntax f
  | .ok p => runProgram p origin

/-- Runs text in the global scope; what it binds by `let`, `const` and `class` is its own. -/
def runOwnText (source : List Char) (origin : String) : Eval Value := fun k e =>
  match Program.parseIn? { source := source } [] true with
  | .error f => throwSyntax f k e
  | .ok p =>
    let fr : Frame :=
      { env := [], scope := [], strict := false, origin := origin, isAsync := false
        isGenerator := false, task := none, held := [], result := none, leave := k }
    runWithin evaluator fr p k e

end ScriptBridge.Script
