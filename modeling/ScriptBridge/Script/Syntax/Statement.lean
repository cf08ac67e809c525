import ScriptBridge.Script.Syntax.Expression

/-!
Statements, and the exports and imports of modules.

A rule gives a list of statements because one piece of text may stand for two: a function in a
block of lenient code is declared there and also shown to the enclosing function.
-/
namespace ScriptBridge.Script.Grammar

open Text

/-! ### Declarations -/

/-- `let` cannot name what `let` and `const` bind. -/
def checkLexical (kind : DeclarationKind) (names : List Name) : Parser Unit := do
  if kind != .var && names.contains "let" then fail .letName

/-- A binding with its value; a structure and a constant need one. -/
def declarator (g : Grammar) (kind : DeclarationKind) : Parser (Declarator × List Name) := do
  if ((← nextIs "[") || (← nextIs "\x7b")) && !(← structureAhead ["="]) then fail .variableExpected
  let (p, names) ← declaredBinding g
  checkLexical kind names
  let init ← optionalDefault g
  if init.isNone && kind == .constKind then fail .constWithoutValue
  return (.mk p init, names)

/-- Declarators after `var`, `let` or `const`, with the names that they bind. -/
def declarators (g : Grammar) (kind : DeclarationKind) :
    Nat → Parser (List Declarator × List Name)
  | 0 => fail .tooDeep
  | n + 1 => do
    let (d, names) ← declarator g kind
    if ← accept "," then
      let (rest, more) ← declarators g kind n
      return (d :: rest, names ++ more)
    else return ([d], names)

/-- Assigning to a name counts as a use of it. -/
def useAll (names : List Name) : Parser Unit := modify fun s => { s with uses := names ++ s.uses }

def declarationRest (g : Grammar) (kind : DeclarationKind) : Parser Stmt := do
  let (decls, names) ← declarators g kind (← fuel)
  useAll names
  if kind == .var then declareVars names
  endStatement
  return .declare kind names decls

/-- `let` declares when a binding comes behind it. -/
def letDeclares : Parser Bool := do
  if ← nextIsWord "let" then
    let second ← peekSecond
    match second.kind with
    | .identifier n _ =>
      let c ← read
      return c.strict || isVariableName c n || n == "yield" || n == "await"
    | .punctuator "[" | .punctuator "\x7b" => return true
    | _ => return (← read).strict
  else return false

/-! ### Blocks -/

def blockNames (body : List Stmt) : List LexicalName :=
  lexicalNames body ++ (declaredFunctions body).map fun f => ⟨f.info.name, false⟩

/-- What collisions in a block are: outside of functions, a variable belongs to all code. -/
def blockRule (c : Context) : CollisionRule :=
  ⟨.redefinedLexical, if c.inFunction then .redefinedVariable else .redefinedGlobal, [], !c.strict⟩

/-- Refuses statements that declare what stands around them, as a loop or handler does. -/
def checkEnclosed (outer : List Name) (p : Part) : Parser Unit := do
  if (p.vars ++ p.lexical).any outer.contains then fail .redefinedLexical

/-- A function of a block in lenient code also sets the variable of its name. -/
def exposeFunctions (strict : Bool) (body : List Stmt) : List Stmt :=
  if strict then body
  else
    body.flatMap fun s =>
      match s with
      | .function f =>
        if f.info.isAsync || f.info.isGenerator then [s] else [s, .exposeFunction f.info.name]
      | _ => [s]

/-- Notes the functions of a block that lenient code shows outside of it. -/
def noteExposed (body : List Stmt) : Parser Unit := do
  if !(← read).strict then
    let names := (declaredFunctions body).filterMap fun f =>
      if f.info.isAsync || f.info.isGenerator then none else some f.info.name
    modify fun s => { s with exposed := s.exposed ++ names }
    useAll names

def blockRest (g : Grammar) : Parser (List Stmt) := do
  let parts ← enclosed (fun ps => (blockNames (Parts.statements ps)).map LexicalName.name)
    (statementsUntilBrace g)
  CollisionRule.check (blockRule (← read)) (parts.map Prod.snd)
  let body := parts.statements
  noteExposed body
  return exposeFunctions (← read).strict body

def block (g : Grammar) : Parser Stmt := do
  expect "\x7b"
  let body ← blockRest g
  return .block (blockNames body) body

/-- Refuses a declaration where exactly one statement may stand. -/
def checkAlone (functions : Bool) : Parser Unit := do
  let t ← peek
  let second ← peekSecond
  match t.kind with
  | .identifier "const" false => fail .lexicalAlone
  | .identifier "class" false => fail .classAlone
  | .identifier "function" false =>
    if !functions || (← read).strict || second.kind.isPunctuator "*" then fail .functionAlone
  | .identifier "async" false =>
    if second.kind.isWord "function" && !second.newline then fail .functionAlone
  | .identifier "let" false =>
    match second.kind with
    | .punctuator "[" => fail .lexicalAlone
    | .punctuator "\x7b" => if !second.newline then fail .lexicalAlone
    | .identifier n _ =>
      if !second.newline && isVariableName (← read) n then fail .lexicalAlone
    | _ => pure ()
  | _ => pure ()

def expressionStatement (g : Grammar) : Parser (List Stmt) := do
  let e ← g.expression
  endStatement
  return [.expr e]

/-- One statement where the grammar wants exactly one. -/
def single (g : Grammar) (functions : Bool) : Parser Stmt := do
  checkAlone functions
  let body ← if ← nextIsWord "let" then expressionStatement g
    else withReader (fun c => { c with labeledFunctions := false }) g.statement
  match body with
  | [s] =>
    match s with
    | .function f =>
      noteExposed [s]
      return .block [⟨f.info.name, false⟩] (exposeFunctions (← read).strict [s])
    | _ => return s
  | _ => return .block (blockNames body) body

/-! ### Loops -/

def loopBody (g : Grammar) : Parser Stmt :=
  withReader (fun c => { c with inLoop := true }) (single g false)

/-- The body of a loop that binds `names` for each round. -/
def boundBody (g : Grammar) (names : List LexicalName) : Parser Stmt := do
  let (body, part) ← withPart do return [← loopBody g]
  checkEnclosed (names.map LexicalName.name) part
  return body.headD .empty

def forTail (g : Grammar) (init : ForInit) (names : List LexicalName) : Parser Stmt := do
  expect ";"
  let test ← do if ← nextIs ";" then pure none else pure (some (← g.expression))
  expect ";"
  let update ← do if ← nextIs ")" then pure none else pure (some (← g.expression))
  expect ")"
  return .forLoop init test update (← boundBody g names)

def forEach (g : Grammar) (awaits : Bool) (target : ForTarget) (names : List LexicalName) :
    Parser Stmt := do
  if ← acceptWord "of" then
    let e ← g.assignment
    expect ")"
    return .forOf awaits target e (← boundBody g names)
  else
    if !(← nextIsWord "in") then fail .forForm
    if awaits then fail .forAwaitIn
    advance
    let e ← g.expression
    expect ")"
    return .forIn target e (← boundBody g names)

/-- Does a semicolon stand before the parenthesis that closes the head? -/
def semicolonAhead : List Token → Nat → Bool
  | [], _ => false
  | t :: rest, depth =>
    match t.kind with
    | .punctuator "(" | .punctuator "[" | .punctuator "\x7b" => semicolonAhead rest (depth + 1)
    | .template _ _ true false => semicolonAhead rest (depth + 1)
    | .template _ _ false true => semicolonAhead rest (depth - 1)
    | .punctuator ")" | .punctuator "]" | .punctuator "\x7d" =>
      if depth == 0 then false else semicolonAhead rest (depth - 1)
    | .punctuator ";" => depth == 0 || semicolonAhead rest depth
    | .eof => false
    | _ => semicolonAhead rest depth

/-- A declaration in the head of a loop, after its word. -/
def forDeclaration (g : Grammar) (awaits : Bool) (kind : DeclarationKind) : Parser Stmt := do
  let lexical (names : List Name) : List LexicalName :=
    if kind == .var then [] else names.map fun n => ⟨n, kind == .constKind⟩
  let checkNames (names : List Name) : Parser Unit := do
    checkLexical kind names
    if kind != .var && hasDuplicate names then fail .redefinedLexical
    useAll names
    if kind == .var then declareVars names
  let counted := !awaits && semicolonAhead (← MonadState.get).tokens 0
  let result ← enclosed (fun r => (r.2 : List LexicalName).map LexicalName.name) do
    if counted then
      let (decls, names) ← withReader (fun c => { c with allowIn := false }) do
        declarators g kind (← fuel)
      checkNames names
      let all := lexical names
      return (← forTail g (.declare kind all decls) all, all)
    else
      let (p, names) ← declaredBinding g
      checkNames names
      let init ← withReader (fun c => { c with allowIn := false }) (optionalDefault g)
      let lenient := kind == .var && !(← read).strict && !isStructure p
      if init.isSome then
        if ← nextIsWord "of" then fail (.forInitializer "of")
        if (← nextIsWord "in") && !lenient then fail (.forInitializer "in")
      let loop ← forEach g awaits (.declare kind (lexical names) p) (lexical names)
      match init with
      | some e => return (.block [] [.declare kind names [.mk p (some e)], loop], lexical names)
      | none => return (loop, lexical names)
  return result.1

/-- What a loop without a declaration assigns each item to. -/
def forPlace (g : Grammar) : Parser Pattern := do
  let follows := afterParenthesis (← MonadState.get).tokens 0
  let opens := (← nextIs "[") || (← nextIs "\x7b")
  if opens && (follows.any fun t => t.kind.isWord "of" || t.kind.isWord "in") then
    return (← g.pattern .assignment).1
  let e ← g.leftHand
  checkTarget e .forTarget
  return .target e

def forRule (g : Grammar) : Parser Stmt := do
  let c ← read
  let awaits ← if c.awaitIsWord then acceptWord "await" else pure false
  if awaits && !(c.inAsync || (c.isModule && !c.inFunction)) then fail .forAwaitOutside
  if awaits && !c.inFunction then modify fun s => { s with awaits := true }
  expect "("
  if !awaits && (← nextIs ";") then return ← forTail g .none []
  if ← acceptWord "var" then return ← forDeclaration g awaits .var
  if ← acceptWord "const" then return ← forDeclaration g awaits .constKind
  if ← letDeclares then
    advance
    return ← forDeclaration g awaits .letKind
  if !awaits && semicolonAhead (← MonadState.get).tokens 0 then
    let e ← withReader (fun c => { c with allowIn := false }) g.expression
    return ← forTail g (.expr e) []
  if !awaits && (← nextIsWord "async") && (← peekSecond).kind.isWord "of" then fail .forAsync
  let p ← forPlace g
  let withValue ← accept "="
  if withValue then discard (withReader (fun c => { c with allowIn := false }) g.assignment)
  if withValue then
    if ← nextIsWord "of" then fail (.forInitializer "of")
    if (← nextIsWord "in") && !awaits then fail (.forInitializer "in")
  forEach g awaits (.assign p) []

/-! ### Other statements -/

/-- What stands behind `catch`. -/
def handlerRule (g : Grammar) : Parser Handler := do
  if !(← accept "(") then return .plain (← block g)
  let (p, names, body) ← enclosed (fun (r : Pattern × List Name × Stmt) => r.2.1) do
    let (p, names) ← innerBinding g .identifierExpected
    if (← read).strict && names.any isRestricted then fail .strictName
    if hasDuplicate names then fail .redefinedLexical
    expect ")"
    let (b, part) ← withPart do return [← block g]
    let b := b.headD .empty
    match b with
    | .block inner _ =>
      if inner.any fun n => names.contains n.name then fail .redefinedLexical
    | _ => pure ()
    if isStructure p && part.vars.any names.contains then fail .redefinedLexical
    return (p, names, b)
  return .bind p (names.map fun n => ⟨n, false⟩) body

def tryRule (g : Grammar) : Parser Stmt := do
  let body ← block g
  let handler ← do
    if ← acceptWord "catch" then handlerRule g else pure Handler.none
  let finalizer ← do
    if ← acceptWord "finally" then block g else pure Stmt.empty
  match handler, finalizer with
  | .none, .empty => fail .handlerMissing
  | _, _ => return .tryBlock body handler finalizer

/-- Statements of one case, up to the next case or the closing brace. -/
def caseBody (g : Grammar) : Parser Parts := do
  many (do
    if (← nextIs "\x7d") || (← nextIsWord "case") || (← nextIsWord "default") then return none
    else return some (← listedStatement g)) (← fuel)

/-- Cases up to the closing brace; `hasDefault` says that one of them takes all other values. -/
def switchCases (g : Grammar) : Nat → Bool → Parser (List (Option Expr × Parts))
  | 0, _ => fail .tooDeep
  | n + 1, hasDefault => do
    if ← accept "\x7d" then return []
    if ← acceptWord "case" then
      let test ← g.expression
      expect ":"
      let body ← caseBody g
      return (some test, body) :: (← switchCases g n hasDefault)
    else if ← acceptWord "default" then
      expect ":"
      if hasDefault then fail .defaultTwice
      let body ← caseBody g
      return (none, body) :: (← switchCases g n true)
    else fail .switchForm

def allParts (cases : List (Option Expr × Parts)) : Parts := cases.flatMap Prod.snd

def switchRule (g : Grammar) : Parser Stmt := do
  expect "("
  let e ← g.expression
  expect ")"
  expect "\x7b"
  let cases ← enclosed (fun cs => (blockNames (allParts cs).statements).map LexicalName.name)
    (withReader (fun c => { c with inSwitch := true }) do switchCases g (← fuel) false)
  let parts := allParts cases
  CollisionRule.check (blockRule (← read)) (parts.map Prod.snd)
  noteExposed parts.statements
  let strict := (← read).strict
  return .switchOn e (blockNames parts.statements)
    (cases.map fun c => .mk c.1 (exposeFunctions strict c.2.statements))

/-- The label behind `break` or `continue`; only a loop can be continued. -/
def jumpLabel (loopsOnly : Bool) : Parser (Option Name) := do
  let t ← peek
  if t.newline then return none
  match t.kind with
  | .identifier n _ =>
    let c ← read
    if !isVariableName c n then return none
    match c.labels.lookup n with
    | some isLoop =>
      if loopsOnly && !isLoop then fail .labelMissing
      advance
      return some n
    | none => fail .labelMissing
  | _ => return none

/-- A statement behind its label.  Only a loop right behind the label can be continued by it. -/
def labeledRule (g : Grammar) (n : Name) : Parser (List Stmt) := do
  if (← read).labels.any fun l => l.1 == n then fail .labelTwice
  advance
  advance
  checkAlone (← read).labeledFunctions
  let t ← peek
  let isLoop := ["for", "while", "do"].any t.kind.isWord
  let s ← withReader (fun c => { c with labels := (n, isLoop) :: c.labels }) g.statement
  match s with
  | [.function f] => return [.function f]
  | [s] => return [.labeled n s]
  | body => return [.labeled n (.block (blockNames body) body)]

/-- Statements that a word begins. -/
def wordStatement (g : Grammar) (t : Token) (n : String) : Parser (List Stmt) := do
  let one (p : Parser Stmt) : Parser (List Stmt) := do
    advance
    return [← p]
  match n with
  | "var" => one (declarationRest g .var)
  | "const" => one (declarationRest g .constKind)
  | "function" => one do return .function (← functionAfterWord g t.start false false)
  | "class" => one do
      return .classDeclaration (← classAfterWord g t.start false)
  | "if" => one do
      expect "("
      let test ← g.expression
      expect ")"
      let yes ← single g true
      let no ← do if ← acceptWord "else" then single g true else pure Stmt.empty
      return .ifElse test yes no
  | "while" => one do
      expect "("
      let test ← g.expression
      expect ")"
      return .whileLoop test (← loopBody g)
  | "do" => one do
      let body ← loopBody g
      if !(← acceptWord "while") then failNext
      expect "("
      let test ← g.expression
      expect ")"
      discard (accept ";")
      return .doWhile body test
  | "for" => one (forRule g)
  | "return" => one do
      if !(← read).inFunction then fail .returnOutside
      if (← read).inStaticBlock then fail .returnFromBlock
      let t ← peek
      let ends := t.newline || (match t.kind with
        | .punctuator ";" | .punctuator "\x7d" | .eof => true
        | _ => false)
      let e ← if ends then pure none else pure (some (← g.expression))
      endStatement
      return .returnValue e
  | "break" => one do
      let l ← jumpLabel false
      let c ← read
      if l.isNone && !c.inLoop && !c.inSwitch then fail .breakOutside
      endStatement
      return .breakTo l
  | "continue" => one do
      let l ← jumpLabel true
      if l.isNone && !(← read).inLoop then fail .continueOutside
      endStatement
      return .continueTo l
  | "throw" => one do
      if (← peek).newline then fail .newlineAfterThrow
      let e ← g.expression
      endStatement
      return .throwValue e
  | "try" => one (tryRule g)
  | "switch" => one (switchRule g)
  | "with" => one do
      if (← read).strict then fail .withInStrict
      expect "("
      let e ← g.expression
      expect ")"
      return .withObject e (← single g false)
  | "debugger" => one do
      endStatement
      return .empty
  | "enum" | "export" | "extends" => fail (.unsupported n)
  | _ =>
    let second ← peekSecond
    if n == "async" && second.kind.isWord "function" && !second.newline then
      advance
      advance
      return [.function (← functionAfterWord g t.start true false)]
    if ← letDeclares then return ← one (declarationRest g .letKind)
    if second.kind.isPunctuator ":" && isVariableName (← read) n then labeledRule g n
    else expressionStatement g

def statementRule (g : Grammar) : Parser (List Stmt) := do
  let t ← peek
  match t.kind with
  | .punctuator "\x7b" => return [← block g]
  | .punctuator ";" =>
    advance
    return [.empty]
  | .identifier n false => wordStatement g t n
  | .identifier n true =>
    let c ← read
    if !isVariableName c n then fail (.reserved n)
    if (← peekSecond).kind.isPunctuator ":" then labeledRule g n else expressionStatement g
  | _ => expressionStatement g

/-! ### Exports and imports -/

/-- What one statement of a module adds. -/
structure ModuleItem where
  statements : List Stmt := []
  requests : List String := []
  imports : List ImportBinding := []
  «exports» : List ExportBinding := []

def moduleName : Parser Name := do
  match (← peek).kind with
  | .identifier n _ => advance; return n
  | _ => fail .identifierExpected

def fromClause : Parser String := do
  expectWord "from" .fromExpected
  match (← peek).kind with
  | .string u _ =>
    advance
    return u.toLossy
  | _ => fail .stringExpected

/-- Pairs `name [as other]` after the brace. -/
def nameList : Nat → Parser (List (Name × Name))
  | 0 => fail .tooDeep
  | n + 1 => do
    if ← accept "\x7d" then return []
    let first ← moduleName
    let second ← do if ← acceptWord "as" then moduleName else pure first
    if ← accept "\x7d" then return [(first, second)]
    if !(← accept ",") then failNext
    return (first, second) :: (← nameList n)

/-- Name under which a module keeps its default export when the text gives none. -/
def defaultName : Name := "*default*"

def exportDefault (g : Grammar) : Parser ModuleItem := do
  let t ← peek
  let named (n : Name) (make : Name → Stmt) : ModuleItem :=
    let local_ := if n == "" then defaultName else n
    { statements := [make local_], «exports» := [.fromLocal "default" local_] }
  let renamed (f : FunctionNode) : ModuleItem :=
    named f.info.name fun n =>
      if f.info.name == "" then
        match f with
        | .mk info ps body => .function (.mk { info with name := n } ps body)
      else .function f
  let second ← peekSecond
  if t.kind.isWord "function" then
    advance
    return renamed (← functionDeclaration t.start false)
  if t.kind.isWord "async" && second.kind.isWord "function" && !second.newline then
    advance
    advance
    return renamed (← functionDeclaration t.start true)
  if t.kind.isWord "class" then
    advance
    let c ← classAfterWord g t.start true
    if c.name != "" then
      return { statements := [.classDeclaration c], «exports» := [.fromLocal "default" c.name] }
    return defaultValue (.classExpr c)
  let e ← g.assignment
  endStatement
  return defaultValue e
where
  functionDeclaration (start : Nat) (isAsync : Bool) : Parser FunctionNode := do
    let isGenerator ← accept "*"
    let name ← match (← peek).kind with
      | .identifier n escaped => do
        if escaped || isVariableName (← read) n then nameOr .functionNameExpected else pure ""
      | _ => pure ""
    functionRest g ⟨name, .normal, isAsync, isGenerator, start, none⟩
  defaultValue (e : Expr) : ModuleItem :=
    { statements := [.declare .letKind [defaultName] [.mk (.target (.ident defaultName)) (some e)]]
      «exports» := [.fromLocal "default" defaultName] }

/-- Exported variables; no semicolon is needed behind them. -/
def exportVariables (g : Grammar) (kind : DeclarationKind) : Parser ModuleItem := do
  advance
  let (decls, names) ← declarators g kind (← fuel)
  useAll names
  if kind == .var then declareVars names
  return { statements := [.declare kind names decls], «exports» := names.map fun n => .fromLocal n n }

def exportRule (g : Grammar) : Parser ModuleItem := do
  let t ← peek
  match t.kind with
  | .punctuator "\x7b" =>
    advance
    let names ← nameList (← fuel)
    if ← nextIsWord "from" then
      let request ← fromClause
      endStatement
      return { requests := [request]
               «exports» := names.map fun (a, b) => .indirect b request a }
    endStatement
    return { «exports» := names.map fun (a, b) => .fromLocal b a }
  | .punctuator "*" =>
    advance
    let name ← do if ← acceptWord "as" then pure (some (← moduleName)) else pure none
    let request ← fromClause
    endStatement
    return { requests := [request]
             «exports» := [match name with
               | some n => .namespaceOf n request
               | none => .star request] }
  | .identifier "default" false =>
    advance
    exportDefault g
  | .identifier "var" false => exportVariables g .var
  | .identifier "let" false => exportVariables g .letKind
  | .identifier "const" false => exportVariables g .constKind
  | .identifier n false =>
    let second ← peekSecond
    let isAsync := n == "async" && second.kind.isWord "function" && !second.newline
    if n == "function" || n == "class" || isAsync then
      let statements ← g.statement
      let names := statements.flatMap fun s =>
        match s with
        | .function f => [f.info.name]
        | .classDeclaration c => [c.name]
        | _ => []
      return { statements := statements, «exports» := names.map fun n => .fromLocal n n }
    else fail .exportForm
  | _ => fail .exportForm

def importDeclaration : Parser ModuleItem := do
  let t ← peek
  match t.kind with
  | .string u _ =>
    advance
    endStatement
    return { requests := [u.toLossy] }
  | _ =>
    let default? ← do
      match t.kind with
      | .identifier .. =>
        pure (some (← nameOr .fromExpected))
      | _ => pure none
    let more ← if default?.isSome then accept "," else pure true
    let (whole, names) ← do
      if !more then pure (none, [])
      else if ← accept "*" then
        expectWord "as" (.expecting "as")
        pure (some (← moduleName), [])
      else if ← accept "\x7b" then pure (none, ← nameList (← fuel))
      else pure (none, [])
    let request ← fromClause
    endStatement
    let bindings :=
      (match default? with
        | some n => [⟨request, some "default", n⟩]
        | none => [])
      ++ (match whole with
        | some n => [⟨request, none, n⟩]
        | none => [])
      ++ names.map fun (a, b) => ⟨request, some a, b⟩
    if bindings.any fun b => isRestricted b.localName then fail .importName
    return { requests := [request], imports := bindings }

def moduleItem (g : Grammar) : Parser ModuleItem := do
  if ← nextIsWord "export" then
    advance
    exportRule g
  else if ← nextIsWord "import" then
    let second ← peekSecond
    if second.kind.isPunctuator "(" || second.kind.isPunctuator "." then
      return { statements := ← g.statement }
    advance
    importDeclaration
  else return { statements := ← g.statement }

end ScriptBridge.Script.Grammar
