import ScriptBridge.Script.Syntax.Pattern

/-!
Functions and classes in the grammar.

After its body is read, a function knows which names it takes from outside: the names used less
the names declared.  `this`, `new.target` and the two forms of `super` are names like any other
here; an arrow function takes them from its surroundings, every other function declares them.
-/
namespace ScriptBridge.Script.Grammar

open Text

/-! ### Parameters and bodies -/

/-- Parameters after the parenthesis, with the names that they bind. -/
def parameters (g : Grammar) : Nat → Parser (List PatternItem × List Name)
  | 0 => fail .tooDeep
  | n + 1 => do
    if ← accept ")" then return ([], [])
    if ← accept "..." then
      let (p, names) ← innerBinding g .parameterExpected
      expect ")"
      return ([.rest p], names)
    let (p, names) ← innerBinding g .parameterExpected
    let default ← optionalDefault g
    let item := PatternItem.single p default
    if ← accept ")" then return ([item], names)
    expect ","
    let (items, more) ← parameters g n
    return (item :: items, names ++ more)

/-- Words that end the statement before them where they begin a line. -/
def statementWords : List String :=
  ["null", "false", "true", "if", "return", "var", "this", "delete", "typeof", "new", "do", "while",
   "for", "switch", "throw", "try", "function", "debugger", "with", "class", "const", "enum", "export",
   "import", "super"]

/-- Does a directive end before this token? -/
def endsDirective (t : Token) : Bool :=
  match t.kind with
  | .punctuator ";" | .punctuator "\x7d" | .eof => true
  | .punctuator "--" | .punctuator "++" | .number .. | .bigint _ | .string .. => t.newline
  | .template _ _ head _ => head && t.newline
  | .identifier n escaped => t.newline && (escaped || !reservedWords.contains n || statementWords.contains n)
  | _ => false

/-- Does a strict directive stand among the leading string statements? -/
def hasStrictDirective : List Token → Bool
  | ⟨.string u _, _, start, stop⟩ :: rest =>
    if !(rest.head?.all endsDirective) then false
    else if u == Units.ofString "use strict" && stop - start == 12 then true
    else
      match rest with
      | ⟨.punctuator ";", _, _, _⟩ :: more => hasStrictDirective more
      | more => hasStrictDirective more
  | _ => false

/-! ### Collisions -/

/-- One statement of a scope: the variables that it declares, here or further inside, and the
names that it binds itself. -/
structure Part where
  vars : List Name := []
  lexical : List Name := []
  functions : List Name := []
  /-- variables that may also have been bound before -/
  free : List Name := []

/-- Statements with what each of them declares. -/
abbrev Parts := List (List Stmt × Part)

def Parts.statements (ps : Parts) : List Stmt := ps.flatMap Prod.fst

/-- Notes what a statement declares. -/
def withPart (p : Parser (List Stmt)) : Parser (List Stmt × Part) := do
  let before := (← MonadState.get).vars
  modify fun s => { s with vars := [] }
  let body ← p
  let inner := (← MonadState.get).vars
  modify fun s => { s with vars := before ++ inner }
  return (body,
    { vars := inner
      lexical := (lexicalNames body).map LexicalName.name
      functions := (declaredFunctions body).map fun f => f.info.name })

/-- Which faults the collisions of a scope are. -/
structure CollisionRule where
  /-- a name is bound twice -/
  again : SyntaxFault
  /-- a name is bound after a variable of that name -/
  afterVariable : SyntaxFault
  /-- names that may not be bound at all -/
  parameters : List Name := []
  /-- functions may share a name -/
  sharedFunctions : Bool := true

/-- The first declaration that collides with an earlier one. -/
def CollisionRule.fault? (r : CollisionRule) (bound functions vars : List Name) :
    List Part → Option SyntaxFault
  | [] => none
  | p :: rest =>
    if hasDuplicate p.lexical || p.lexical.any (bound ++ functions).contains
        || p.functions.any bound.contains
        || (!r.sharedFunctions && p.functions.any functions.contains) then some r.again
    else if p.lexical.any r.parameters.contains then some .redefinedParameter
    else if (p.lexical ++ p.functions).any vars.contains then some r.afterVariable
    else if p.vars.any (bound ++ functions ++ p.lexical).contains then some .redefinedLexical
    else r.fault? (bound ++ p.lexical) (functions ++ p.functions) (vars ++ p.vars ++ p.free) rest

def CollisionRule.check (r : CollisionRule) (parts : List Part) : Parser Unit :=
  match r.fault? [] [] [] parts with
  | some f => fail f
  | none => return ()

/-- At the top of a body, functions are variables. -/
def Part.outermost (p : Part) : Part := { p with vars := p.vars ++ p.functions, functions := [] }

/-- At the top of a program, a function may also follow a binding of its name. -/
def Part.ofProgram (p : Part) : Part := { p with functions := [], free := p.free ++ p.functions }

/-- One of several statements, with what it declares. -/
def listedStatement (g : Grammar) : Parser (List Stmt × Part) :=
  withPart (withReader (fun c => { c with labeledFunctions := true }) g.statement)

/-- Statements up to the closing brace. -/
def statementsUntilBrace (g : Grammar) : Parser Parts := do
  let body ← many
    (do if ← nextIs "\x7d" then return none else return some (← listedStatement g)) (← fuel)
  expect "\x7d"
  return body

/-- What is known of a function before its parameters are read. -/
structure FunctionHead where
  name : Name
  kind : FunctionKind
  isAsync : Bool := false
  isGenerator : Bool := false
  start : Nat
  /-- name by which the function may refer to itself -/
  self : Option Name := none

def bodyContext (h : FunctionHead) (c : Context) : Context :=
  let arrow := h.kind == .arrow
  { source := c.source
    strict := c.strict
    isModule := c.isModule
    inFunction := true
    inAsync := h.isAsync
    inGenerator := h.isGenerator
    aroundAsync := arrow && (c.awaitIsWord && !c.isModule)
    aroundGenerator := arrow && (c.inGenerator || c.aroundGenerator)
    superMembers := if arrow then c.superMembers else h.kind != .normal
    superCalls := if arrow then c.superCalls else h.kind == .derivedConstructor
    newTargets := !arrow || c.newTargets
    argumentsAllowed := !arrow || c.argumentsAllowed }

/-- Names that every function but an arrow declares. -/
def implicitNames : List Name := ["this", "new.target", "super", "super()", "arguments"]

def expectedLength : List PatternItem → Nat
  | .single _ none :: rest => expectedLength rest + 1
  | _ => 0

def isSimple : List PatternItem → Bool
  | [] => true
  | .single (.target _) none :: rest => isSimple rest
  | _ => false

/-- Refuses names of a function that its kind does not allow. -/
def checkNames (h : FunctionHead) (directive strict : Bool) (items : List PatternItem)
    (names : List Name) : Parser Unit := do
  if strict then
    if directive && !isSimple items then fail .strictDirective
    if h.kind == .normal && isRestricted h.name then fail .strictFunctionName
    if names.any isRestricted then fail .strictParameterName
  if strict || !isSimple items || h.kind == .arrow || h.kind == .method then
    if hasDuplicate names then fail .parameterTwice

/-- Checks the names of a function and reads its body, which strict code may begin. -/
def withBody (h : FunctionHead) (strict : Bool) (items : List PatternItem) (names : List Name)
    (opening : Parser Unit) (body : Parser Parts) : Parser (List PatternItem × List Name × Parts) :=
  withReader (fun c => { c with strict := c.strict || strict }) do
    opening
    checkNames h strict (← read).strict items names
    return (items, names, ← body)

/-- Reads parameters and body with `p` in a fresh scope and closes the function over its uses. -/
def closeFunction (h : FunctionHead) (strict : Bool)
    (p : Parser (List PatternItem × List Name × Parts)) : Parser FunctionNode := do
  let before ← get
  set { before with uses := [], vars := [], exposed := [], dynamic := false }
  let (items, parameterNames, parts) ← withReader (bodyContext h) p
  let s ← get
  let isStrict := (← read).strict || strict
  CollisionRule.check ⟨.redefinedLexical, .redefinedVariable, parameterNames, true⟩
    (parts.map fun part => part.2.outermost)
  let body := parts.statements
  let functions := (declaredFunctions body).map fun f => f.info.name
  let lexical := lexicalNames body
  let bound := lexical.map LexicalName.name
  let vars := (s.vars ++ functions ++ s.exposed.filter fun n => !bound.contains n).eraseDups
  let own := parameterNames ++ vars ++ bound
  let isArrow := h.kind == .arrow
  let uses := s.uses.eraseDups
  let outer := uses.filter fun n => !own.contains n && (isArrow || !implicitNames.contains n)
  let mentions (n : Name) : Bool := !isArrow && (s.dynamic || uses.contains n)
  let usesSuper := !isArrow && (uses.contains "super" || uses.contains "super()"
    || (s.dynamic && h.kind != .normal))
  let info : FunctionInfo :=
    { name := h.name
      kind := h.kind
      isAsync := h.isAsync
      isGenerator := h.isGenerator
      strict := isStrict
      length := expectedLength items
      simple := isSimple items
      parameterNames := parameterNames
      varNames := vars
      lexical := lexical
      captures := if s.dynamic then none else some (outer.filter fun n => h.self != some n)
      usesThis := mentions "this" || usesSuper || h.kind == .derivedConstructor
      usesNewTarget := mentions "new.target" || mentions "super()"
      usesSuper := usesSuper
      usesArguments := mentions "arguments" && !own.contains "arguments"
      usesSelf := match h.self with
        | some n => (s.dynamic || outer.contains n)
        | none => false
      source := ← textBetween h.start s.last }
  let kept := match h.self with
    | some n => outer.filter (· != n)
    | none => outer
  set { s with
    uses := kept ++ before.uses
    vars := before.vars
    exposed := before.exposed
    dynamic := before.dynamic || s.dynamic }
  return .mk info items body

/-- How many values parameters name; a structure that takes all others names none. -/
def countedParameters (items : List PatternItem) : Nat :=
  items.countP fun i =>
    match i with
    | .rest p => !isStructure p
    | _ => true

/-- Parameters and body of a function whose opening parenthesis comes next. -/
def functionRest (g : Grammar) (h : FunctionHead) : Parser FunctionNode := do
  let strict ← do
    let tokens := (← MonadState.get).tokens
    pure (strictAhead tokens 0)
  closeFunction h strict do
    expect "("
    let (items, names) ← withReader (fun c => { c with inParameters := true }) do
      parameters g (← fuel)
    let count := countedParameters items
    if (h.kind == .getter && count != 0) || (h.kind == .setter && count != 1) then
      fail .accessorParameters
    withBody h strict items names (expect "\x7b") (statementsUntilBrace g)
where
  /-- Looks past the parameters for a directive at the front of the body. -/
  strictAhead : List Token → Nat → Bool
    | [], _ => false
    | t :: rest, depth =>
      match t.kind with
      | .punctuator "(" | .punctuator "[" => strictAhead rest (depth + 1)
      | .punctuator "]" => strictAhead rest (depth - 1)
      | .punctuator ")" => strictAhead rest (depth - 1)
      | .punctuator "\x7b" =>
        if depth == 0 then hasStrictDirective rest else strictAhead rest (depth + 1)
      | .punctuator "\x7d" => strictAhead rest (depth - 1)
      | .eof => false
      | _ => strictAhead rest depth

/-- Body of an arrow function: a block, or an expression whose value it returns. -/
def arrowBody (g : Grammar) (isBlock : Bool) : Parser Parts := do
  if isBlock then statementsUntilBrace g
  else return [([.returnValue (some (← g.assignment))], { })]

/-- An arrow function, from its parameters on. -/
def arrowRest (g : Grammar) (start : Nat) (isAsync : Bool) : Parser FunctionNode := do
  let h : FunctionHead := ⟨"", .arrow, isAsync, false, start, none⟩
  let strict ← do
    let tokens := (← MonadState.get).tokens
    pure (strictAhead tokens)
  closeFunction h strict do
    let (items, names) ← do
      if ← accept "(" then
        withReader (fun c => { c with inParameters := true }) do parameters g (← fuel)
      else
        let n ← nameOr .parameterExpected
        pure ([PatternItem.single (.target (.ident n)) none], [n])
    expect "=>"
    let isBlock ← nextIs "\x7b"
    withBody h strict items names (discard (accept "\x7b")) (arrowBody g isBlock)
where
  strictAhead : List Token → Bool
    | ⟨.punctuator "=>", _, _, _⟩ :: ⟨.punctuator "\x7b", _, _, _⟩ :: rest => hasStrictDirective rest
    | ⟨.punctuator "=>", _, _, _⟩ :: _ => false
    | _ :: rest => strictAhead rest
    | [] => false

/-- The name of a function, where `n` comes next.  An expression may be called as the words that
are none inside of it; where its name cannot stand, it has none. -/
def functionWordName (n : Name) (isAsync isGenerator isExpression : Bool) : Parser Name := do
  let c ← read
  let asWord := (n == "yield" && c.yieldIsWord && !c.strict) || (n == "await" && c.awaitIsWord && !c.isModule)
  if isExpression && ((n == "yield" && isGenerator) || (n == "await" && isAsync))
      && isVariableName c n then fail (.reserved n)
  if isExpression && asWord then
    advance
    return n
  if isExpression && !isVariableName c n then
    match (← peek).kind with
    | .identifier _ true => fail (.reserved n)
    | _ => return ""
  nameOr .functionNameExpected

/-- A function expression or declaration after the word `function`. -/
def functionAfterWord (g : Grammar) (start : Nat) (isAsync isExpression : Bool) :
    Parser FunctionNode := do
  let isGenerator ← accept "*"
  let name ← do
    match (← peek).kind with
    | .identifier n _ => functionWordName n isAsync isGenerator isExpression
    | _ => if isExpression then pure "" else fail .functionNameExpected
  let self := if isExpression && name != "" then some name else none
  functionRest g ⟨name, .normal, isAsync, isGenerator, start, self⟩

/-! ### Members of literals and classes -/

/-- The words before a member's name. -/
structure MemberHead where
  isAsync : Bool
  isGenerator : Bool
  kind : FunctionKind

/-- Does the token after the next one begin a member's name? -/
def nameFollows : Parser Bool := do
  let t ← peekSecond
  match t.kind with
  | .identifier .. | .string .. | .number .. | .bigint _ | .secret _ | .punctuator "[" => return true
  | _ => return false

def memberHead : Parser MemberHead := do
  if ← accept "*" then return ⟨false, true, .method⟩
  if ← nextIsWord "async" then
    let second ← peekSecond
    if (← nameFollows) && !second.newline then
      advance
      return ⟨true, false, .method⟩
    if second.kind.isPunctuator "*" && !second.newline then
      advance
      advance
      return ⟨true, true, .method⟩
    return ⟨false, false, .method⟩
  if (← nextIsWord "get") && (← nameFollows) then
    advance
    return ⟨false, false, .getter⟩
  if (← nextIsWord "set") && (← nameFollows) then
    advance
    return ⟨false, false, .setter⟩
  return ⟨false, false, .method⟩

def fixedName : PropertyName → Name
  | .fixed u => u.toLossy
  | .secret n => n
  | .computed _ => ""

/-! ### Classes -/

/-- In what initializes a class, `arguments` has no meaning. -/
def initializing {α : Type} (p : Parser α) : Parser α :=
  withReader (fun c => { c with argumentsAllowed := false }) p

/-- A function whose body returns `e`, for the initial value of a field. -/
def fieldFunction (g : Grammar) (key : PropertyName) (start : Nat) : Parser FunctionNode :=
  closeFunction ⟨fixedName key, .method, false, false, start, none⟩ true do
    if ← accept "=" then
      let e ← initializing g.assignment
      return ([], [], [([.returnValue (some e)], { })])
    else return ([], [], [])

def staticBlock (g : Grammar) (start : Nat) : Parser FunctionNode :=
  closeFunction ⟨"", .method, false, false, start, none⟩ true do
    let body ← initializing
      (withReader (fun c => { c with inStaticBlock := true }) (statementsUntilBrace g))
    return ([], [], body)

inductive ElementRead where
  | element (e : ClassElement)
  | constructor (f : FunctionNode)

def isFixed (key : PropertyName) (name : String) : Bool :=
  match key with
  | .fixed u => u == Units.ofString name
  | _ => false

def isSecret (key : PropertyName) (name : String) : Bool :=
  match key with
  | .secret n => n == name
  | _ => false

/-- Is the word `static` a modifier here, and no name? -/
def staticAhead : Parser Bool := do
  if !(← nextIsWord "static") then return false
  let second ← peekSecond
  return second.newline
    || !([";", "\x7d", "(", "="].any second.kind.isPunctuator)

def classElement (g : Grammar) (derived : Bool) : Parser ElementRead := do
  let first := (← peek).start
  let isStatic ← staticAhead
  if isStatic then
    advance
    if ← accept "\x7b" then return .element (.block (← staticBlock g first))
    if (← nextIs ";") || (← nextIs "=") then
      let key := PropertyName.fixed (Units.ofString "static")
      let f ← fieldFunction g key first
      endStatement
      return .element (.field false key f)
  let start := (← peek).start
  let head ← memberHead
  let key ← propertyName g
  let plain := head.kind == .method && !head.isAsync && !head.isGenerator
  if !plain && !(← nextIs "(") then fail .propertyNameExpected
  if (isFixed key "constructor" && !isStatic && !plain) || (isFixed key "prototype" && isStatic)
      || isSecret key "#constructor" then fail .methodName
  if ← nextIs "(" then
    if isFixed key "constructor" && !isStatic then
      let kind := if derived then FunctionKind.derivedConstructor else .classConstructor
      return .constructor (← functionRest g ⟨"", kind, false, false, start, none⟩)
    let f ← functionRest g ⟨fixedName key, head.kind, head.isAsync, head.isGenerator, start, none⟩
    return .element (.method isStatic key f)
  else
    if isFixed key "constructor" || isFixed key "prototype" then fail .fieldName
    let f ← fieldFunction g key start
    endStatement
    return .element (.field isStatic key f)

/-- Elements up to the closing brace; stray semicolons are skipped. -/
def classElements (g : Grammar) (derived : Bool) : Nat → Parser (List ElementRead)
  | 0 => fail .tooDeep
  | n + 1 => do
    if ← accept "\x7d" then return []
    if ← accept ";" then classElements g derived n
    else
      let e ← classElement g derived
      return e :: (← classElements g derived n)

/-- The constructor of a class that writes none: it hands all arguments to the parent. -/
def defaultConstructor (derived : Bool) (source : String) : FunctionNode :=
  let info : FunctionInfo :=
    { name := "", kind := if derived then .derivedConstructor else .classConstructor
      isAsync := false, isGenerator := false, strict := true, length := 0, simple := false
      parameterNames := if derived then ["args"] else [], varNames := [], lexical := []
      captures := some [], usesThis := derived, usesNewTarget := derived, usesSuper := derived
      usesArguments := false, usesSelf := false, source := source }
  if derived then
    .mk info [.rest (.target (.ident "args"))] [.expr (.superCall [.spread (.ident "args")])]
  else .mk info [] []

def elementSecrets : ElementRead → List Name
  | .element (.method _ (.secret n) _) | .element (.field _ (.secret n) _) => [n]
  | _ => []

def withSource (f : FunctionNode) (source : String) : FunctionNode :=
  match f with
  | .mk info ps body => .mk { info with source := source } ps body

/-- A private name with what stands under it. -/
structure SecretUse where
  name : Name
  isStatic : Bool
  /-- `none` for a field -/
  kind : Option FunctionKind
  deriving DecidableEq

def elementSecret : ElementRead → Option SecretUse
  | .element (.method isStatic (.secret n) f) => some ⟨n, isStatic, some f.info.kind⟩
  | .element (.field isStatic (.secret n) _) => some ⟨n, isStatic, none⟩
  | _ => none

/-- A getter and a setter may share a name, nothing else may. -/
def SecretUse.agree (a b : SecretUse) : Bool :=
  a.name != b.name
    || (a.isStatic == b.isStatic
      && ((a.kind == some .getter && b.kind == some .setter)
        || (a.kind == some .setter && b.kind == some .getter)))

def secretsAgree : List SecretUse → Bool
  | [] => true
  | a :: rest => rest.all a.agree && secretsAgree rest

/-- A class after the word `class`. -/
def classAfterWord (g : Grammar) (start : Nat) (isExpression : Bool) : Parser ClassNode := do
  let name ← do
    match (← peek).kind with
    | .identifier .. =>
      if ← nextIsWord "extends" then pure ""
      else
        withReader (fun c => { c with strict := true }) do
          match (← peek).kind with
          | .identifier n false =>
            if isExpression && !isVariableName (← read) n then pure ""
            else nameOr .classNameExpected
          | _ => nameOr .classNameExpected
    | _ => pure ""
  if name == "" && !isExpression then fail .classNameExpected
  withReader (fun c => { c with strict := true }) do
    let (parent, elements) ← enclosed
      (fun r => (if name == "" then [] else [name]) ++ r.2.flatMap elementSecrets) do
        let parent ← do
          if ← acceptWord "extends" then pure (some (← g.leftHand)) else pure none
        expect "\x7b"
        let elements ← classElements g parent.isSome (← fuel)
        return (parent, elements)
    let source ← textBetween start (← MonadState.get).last
    let constructors := elements.filter fun e =>
      match e with
      | .constructor _ => true
      | .element _ => false
    if constructors.length > 1 then fail .constructorTwice
    if !secretsAgree (elements.filterMap elementSecret) then fail .secretTwice
    let own := elements.findSome? fun e =>
      match e with
      | .constructor f => some f
      | .element _ => none
    let constructor := withSource (own.getD (defaultConstructor parent.isSome source)) source
    let listed := elements.filterMap fun e =>
      match e with
      | .element x => some x
      | .constructor _ => none
    return .mk name source parent constructor (elements.flatMap elementSecrets).eraseDups listed

end ScriptBridge.Script.Grammar
