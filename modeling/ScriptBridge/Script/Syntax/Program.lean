import ScriptBridge.Script.Syntax.Statement

/-!
From text to programs.

`Program.parse?` reads text for the global scope, `ModuleProgram.parse?` the text of a module.
The grammar is closed here: `Grammar.within n` refuses what lies deeper than `n`, and no text is
deeper than it is long.
-/
namespace ScriptBridge.Script

open Grammar

/-- The grammar with at most `n` nested rules. -/
def Grammar.within : Nat → Grammar
  | 0 =>
    { expression := fail .tooDeep, assignment := fail .tooDeep, unary := fail .tooDeep
      leftHand := fail .tooDeep, primary := fail .tooDeep, pattern := fun _ => fail .tooDeep
      statement := fail .tooDeep }
  | n + 1 =>
    { expression := fun c s => expressionRule (within n) c s
      assignment := fun c s => assignmentRule (within n) c s
      unary := fun c s => unaryRule (within n) c s
      leftHand := fun c s => leftHandRule (within n) c s
      primary := fun c s => primaryRule (within n) c s
      pattern := fun u c s => patternRule (within n) u c s
      statement := fun c s => statementRule (within n) c s }

/-- Rules that may nest between two tokens. -/
def rulesPerToken : Nat := 8

/-- Tokens of a text, with the room that its rules may take. -/
def start (source : List Char) (isModule : Bool) : ParseState × Nat :=
  ({ tokens := tokenize source ⟨!isModule, []⟩ }, rulesPerToken * (source.length + 2))

def programRule (g : Grammar) : Parser Parts := do
  checkToken (← peek).kind
  many (do
    match (← peek).kind with
    | .eof => return none
    | _ => return some (← withPart g.statement)) (← fuel)

/-- Refuses a program whose declarations collide with each other or with `bound`. -/
def checkProgram (r : CollisionRule) (bound : List Name) (parts : List Part) :
    Except SyntaxFault Unit :=
  match r.fault? bound [] [] parts with
  | some f => .error f
  | none => .ok ()

/-- Refuses a private name that no class declares. -/
def checkSecrets (known : List Name) (s : ParseState) : Except SyntaxFault Unit :=
  match s.uses.reverse.find? fun n => n.startsWith "#" && !known.contains n with
  | some n => .error (.secretUnknown n)
  | none => .ok ()

def functionNames (body : List Stmt) : List Name :=
  (declaredFunctions body).map fun f => f.info.name

def outermostVars (s : ParseState) (body : List Stmt) (lexical : List LexicalName) : List Name :=
  let shown := s.exposed.filter fun n => !(lexical.map LexicalName.name).contains n
  (s.vars ++ functionNames body ++ shown).eraseDups

/-- Reads text that runs at a place; `secrets` are the private names known there.  Strict is what
stands in strict text or says so itself; the functions of strict text that keeps its variables to
itself (`own`) are declared like those of a body. -/
def Program.parseIn? (c : Context) (secrets : List Name) (own : Bool) :
    Except SyntaxFault Program := do
  let (first, room) := start c.source false
  let strict := c.strict || hasStrictDirective first.tokens
  let (parts, s) ← programRule (Grammar.within room) { c with strict := strict } first
  checkProgram ⟨.redefinedLexical, .redefinedGlobal, [], true⟩ []
    (parts.map fun p => if strict && own then p.2.outermost else p.2.ofProgram)
  checkSecrets secrets s
  let body := parts.statements
  let lexical := lexicalNames body
  return { strict := strict, varNames := outermostVars s body lexical, lexical := lexical, body := body }

/-- Reads text that runs in the global scope. -/
def Program.parse? (source : List Char) (strict : Bool) : Except SyntaxFault Program := do
  let p ← Program.parseIn? { source := source, strict := strict } [] false
  match p.lexical.find? fun l => l.name == "undefined" with
  | some l => throw (.declared l.name)
  | none => return p

def exportedName : ExportBinding → Option Name
  | .fromLocal n _ | .indirect n _ _ | .namespaceOf n _ => some n
  | .star _ => none

/-- One item of a module, with what it declares. -/
def modulePart (g : Grammar) : Parser (ModuleItem × Part) := do
  let before := (← MonadState.get).vars
  modify fun s => { s with vars := [] }
  let item ← moduleItem g
  let inner := (← MonadState.get).vars
  modify fun s => { s with vars := before ++ inner }
  return (item,
    { vars := inner
      free := functionNames item.statements
      lexical := (lexicalNames item.statements).map LexicalName.name })

def moduleRule (g : Grammar) : Parser (List (ModuleItem × Part)) := do
  checkToken (← peek).kind
  many (do
    match (← peek).kind with
    | .eof => return none
    | _ => return some (← modulePart g)) (← fuel)

/-- An exported name that a module imported is passed on to where it came from. -/
def resolveExport (imports : List ImportBinding) (e : ExportBinding) : ExportBinding :=
  match e with
  | .fromLocal exported n =>
    match imports.find? fun i => i.localName == n with
    | some i =>
      match i.imported with
      | some source => .indirect exported i.request source
      | none => .namespaceOf exported i.request
    | none => e
  | _ => e

/-- Refuses exports of one name twice and of what is not declared. -/
def checkExports (declared : List Name) («exports» : List ExportBinding) : Except SyntaxFault Unit := do
  let names := «exports».filterMap exportedName
  match names.find? fun n => names.count n > 1 with
  | some n => throw (.exportTwice n)
  | none => pure ()
  let missing (e : ExportBinding) : Option Name :=
    match e with
    | .fromLocal _ n => if declared.contains n then none else some n
    | _ => none
  match «exports».findSome? missing with
  | some n => throw (.exportUnknown n)
  | none => pure ()

def ModuleProgram.parse? (source : List Char) : Except SyntaxFault ModuleProgram := do
  let (first, room) := start source true
  let context : Context := { source := source, strict := true, isModule := true }
  let (parts, s) ← moduleRule (Grammar.within room) context first
  let items := parts.map Prod.fst
  let imports := items.flatMap ModuleItem.imports
  let importNames := imports.map ImportBinding.localName
  if hasDuplicate (importNames.filter (· != "default")) then throw .importTwice
  checkProgram ⟨.redefinedGlobal, .redefinedGlobal, [], true⟩ importNames (parts.map Prod.snd)
  checkSecrets [] s
  let body := items.flatMap ModuleItem.statements
  let «exports» := items.flatMap ModuleItem.exports
  let lexical := lexicalNames body
  let vars := outermostVars s body lexical
  checkExports (vars ++ lexical.map LexicalName.name ++ importNames) «exports»
  return {
    requests := (items.flatMap ModuleItem.requests).eraseDups
    imports := imports
    «exports» := «exports».map (resolveExport imports)
    varNames := vars
    lexical := lexical
    body := body
    awaits := s.awaits }

end ScriptBridge.Script
