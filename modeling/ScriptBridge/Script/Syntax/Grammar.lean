import ScriptBridge.Script.Syntax
import ScriptBridge.Script.Syntax.Token

/-!
What all parts of the grammar share.

A parser reads tokens and notes two things on the way: the names that the text uses and the
variables that it declares.  `Grammar` ties the recursive knot: each rule asks it for the rules
below, and `Script.Syntax.Program` closes it by the number of tokens, which bounds every depth.
-/
namespace ScriptBridge.Script

open Text

/-! ### Causes of refusal -/

inductive SyntaxFault where
  | lexical (reason : String)
  | unexpected (text : String)
  /-- another token was wanted -/
  | unexpectedToken (text : String)
  | unexpectedIdentifier (name : String)
  /-- a literal stands where another token was wanted -/
  | unexpectedLiteral (what : String)
  | unexpectedEnd
  | expecting (what : String)
  | reserved (name : String)
  | unsupported (word : String)
  | declared (name : String)
  | redefinedGlobal
  | redefinedLexical
  | redefinedVariable
  | redefinedParameter
  | returnOutside
  | returnFromBlock
  | exportForm
  | exportTwice (name : String)
  | exportUnknown (name : String)
  | importTwice
  | importName
  | importCallForm
  | fromExpected
  | stringExpected
  | identifierExpected
  | variableExpected
  | functionNameExpected
  | classNameExpected
  | parameterExpected
  | propertyNameExpected
  | fieldNameExpected
  | letName
  | strictName
  | strictFunctionName
  | strictParameterName
  | strictTarget
  | strictDelete
  | secretDelete
  | strictOctalNumber
  | strictDirective
  | parameterTwice
  | accessorParameters
  | constructorTwice
  | methodName
  | fieldName
  | secretTwice
  | secretUnknown (name : String)
  | prototypeTwice
  | assignmentTarget
  | destructuringTarget
  | restNotLast
  | restMissing
  | restDefault
  | restPropertyNotLast
  | updateTarget
  | powerOperand
  | mixedNullish
  | breakOutside
  | continueOutside
  | labelMissing
  | labelTwice
  | defaultTwice
  | switchForm
  | forTarget
  | forForm
  | forInitializer (word : String)
  | forAsync
  | forAwaitOutside
  | forAwaitIn
  | constWithoutValue
  | lexicalAlone
  | functionAlone
  | classAlone
  | handlerMissing
  | newlineAfterThrow
  | superOutside
  | superCallOutside
  | superForm
  | superSecret
  | newTargetOutside
  | targetExpected
  | metaExpected
  | metaOutside
  | argumentsInField
  | templateChain
  | templateEnd
  | yieldOutside
  | yieldInDefault
  | awaitOutside
  | awaitInDefault
  | withInStrict
  | tooDeep
  deriving Repr, DecidableEq

def SyntaxFault.message : SyntaxFault → String
  | .lexical reason => reason
  | .unexpected text => "unexpected token in expression: '" ++ text ++ "'"
  | .unexpectedToken text => "Unexpected token '" ++ text ++ "'"
  | .unexpectedIdentifier name => "Unexpected identifier '" ++ Units.shownName name ++ "'"
  | .unexpectedLiteral what => "Unexpected " ++ what
  | .unexpectedEnd => "Unexpected end of input"
  | .expecting what => "expecting '" ++ what ++ "'"
  | .reserved name => "'" ++ Units.shownName name ++ "' is a reserved identifier"
  | .unsupported word => "unsupported keyword: " ++ word
  | .declared name => "'" ++ Units.shownName name ++ "' already declared"
  | .redefinedGlobal => "invalid redefinition of global identifier"
  | .redefinedLexical => "invalid redefinition of lexical identifier"
  | .redefinedVariable => "invalid redefinition of a variable"
  | .redefinedParameter => "invalid redefinition of parameter name"
  | .returnOutside => "return not in a function"
  | .returnFromBlock => "return in a static initializer block"
  | .exportForm => "invalid export syntax"
  | .exportTwice name => "duplicate exported name '" ++ Units.shownName name ++ "'"
  | .exportUnknown name => "exported variable '" ++ Units.shownName name ++ "' does not exist"
  | .importTwice => "duplicate import binding"
  | .importName => "invalid import binding"
  | .importCallForm => "invalid use of 'import()'"
  | .fromExpected => "from clause expected"
  | .stringExpected => "string expected"
  | .identifierExpected => "identifier expected"
  | .variableExpected => "variable name expected"
  | .functionNameExpected => "function name expected"
  | .classNameExpected => "class statement requires a name"
  | .parameterExpected => "missing formal parameter"
  | .propertyNameExpected => "invalid property name"
  | .fieldNameExpected => "expecting field name"
  | .letName => "'let' is not a valid lexical identifier"
  | .strictName => "invalid variable name in strict mode"
  | .strictFunctionName => "invalid function name in strict code"
  | .strictParameterName => "invalid argument name in strict code"
  | .strictTarget => "invalid lvalue in strict mode"
  | .strictDelete => "cannot delete a direct reference in strict mode"
  | .secretDelete => "cannot delete a private class field"
  | .strictOctalNumber => "Octal literals are not allowed in strict mode"
  | .strictDirective => "\"use strict\" not allowed in function with default or destructuring parameter"
  | .parameterTwice => "Duplicate parameter name not allowed in this context"
  | .accessorParameters => "invalid number of arguments for getter or setter"
  | .constructorTwice => "property constructor appears more than once"
  | .methodName => "invalid method name"
  | .fieldName => "invalid field name"
  | .secretTwice => "private class field is already defined"
  | .secretUnknown name => "undefined private field '" ++ Units.shownName name ++ "'"
  | .prototypeTwice => "duplicate __proto__ property name"
  | .assignmentTarget => "invalid assignment left-hand side"
  | .destructuringTarget => "invalid destructuring target"
  | .restNotLast => "rest element must be the last one"
  | .restMissing => "missing binding pattern..."
  | .restDefault => "rest element cannot have a default value"
  | .restPropertyNotLast => "assignment rest property must be last"
  | .updateTarget => "invalid increment/decrement operand"
  | .powerOperand => "unparenthesized unary expression can't appear on the left-hand side of '**'"
  | .mixedNullish => "cannot mix ?? with && or ||"
  | .breakOutside => "break must be inside loop or switch"
  | .continueOutside => "continue must be inside loop"
  | .labelMissing => "break/continue label not found"
  | .labelTwice => "duplicate label name"
  | .defaultTwice => "duplicate default"
  | .switchForm => "invalid switch statement"
  | .forTarget => "invalid for in/of left hand-side"
  | .forForm => "expected 'of' or 'in' in for control expression"
  | .forInitializer word => "a declaration in the head of a for-" ++ word ++ " loop can't have an initializer"
  | .forAsync => "'for of' expression cannot start with 'async'"
  | .forAwaitOutside => "for await is only valid in asynchronous functions"
  | .forAwaitIn => "'for await' loop should be used with 'of'"
  | .constWithoutValue => "missing initializer for const variable"
  | .lexicalAlone => "lexical declarations can't appear in single-statement context"
  | .functionAlone => "function declarations can't appear in single-statement context"
  | .classAlone => "class declarations can't appear in single-statement context"
  | .handlerMissing => "expecting catch or finally"
  | .newlineAfterThrow => "line terminator not allowed after throw"
  | .superOutside => "'super' is only valid in a method"
  | .superCallOutside => "super() is only valid in a derived class constructor"
  | .superForm => "invalid use of 'super'"
  | .superSecret => "private class field forbidden after super"
  | .newTargetOutside => "new.target only allowed within functions"
  | .targetExpected => "expecting target"
  | .metaExpected => "meta expected"
  | .metaOutside => "import.meta only valid in module code"
  | .argumentsInField => "'arguments' identifier is not allowed in class field initializer"
  | .templateChain => "template literal cannot appear in an optional chain"
  | .templateEnd => "expected '\x7d' after template expression"
  | .yieldOutside => "unexpected 'yield' keyword"
  | .yieldInDefault => "yield in default expression"
  | .awaitOutside => "unexpected 'await' keyword"
  | .awaitInDefault => "await in default expression"
  | .withInStrict => "invalid keyword: with"
  | .tooDeep => "stack overflow"

/-! ### Reading tokens -/

structure Context where
  source : List Char
  strict : Bool := false
  isModule : Bool := false
  inFunction : Bool := false
  inAsync : Bool := false
  inGenerator : Bool := false
  /-- among the parameters of an arrow function in an asynchronous function -/
  aroundAsync : Bool := false
  /-- among the parameters of an arrow function in a generator -/
  aroundGenerator : Bool := false
  /-- among the parameters of a function -/
  inParameters : Bool := false
  /-- in a block that initializes a class -/
  inStaticBlock : Bool := false
  /-- `in` is an operator here -/
  allowIn : Bool := true
  /-- members of the parent may be named -/
  superMembers : Bool := false
  /-- the parent may be called -/
  superCalls : Bool := false
  /-- `new.target` has a value -/
  newTargets : Bool := false
  /-- `arguments` may be named -/
  argumentsAllowed : Bool := true
  /-- labels in force, with whether each names a loop -/
  labels : List (Name × Bool) := []
  inLoop : Bool := false
  inSwitch : Bool := false
  /-- a function may stand behind a label here -/
  labeledFunctions : Bool := true

/-- Is `await` a word of its own here, and no name? -/
def Context.awaitIsWord (c : Context) : Bool :=
  c.inAsync || c.isModule || c.inStaticBlock || c.aroundAsync

/-- Is `yield` a word of its own here, and no name? -/
def Context.yieldIsWord (c : Context) : Bool :=
  c.strict || c.inGenerator || c.aroundGenerator

structure ParseState where
  tokens : List Token
  /-- places where the grammar wants a regular expression and the tokens show a slash -/
  regexps : List Nat := []
  /-- end of the last token taken -/
  last : Nat := 0
  /-- names used since the innermost scope began -/
  uses : List Name := []
  /-- variables declared since the innermost function began -/
  vars : List Name := []
  /-- functions of blocks that lenient code shows to the whole function -/
  exposed : List Name := []
  /-- the text may use any name: it evaluates text in its own scope -/
  dynamic : Bool := false
  /-- an `await` stands outside all functions -/
  awaits : Bool := false

abbrev Parser := ReaderT Context (StateT ParseState (Except SyntaxFault))

def TokenKind.isPunctuator (k : TokenKind) (p : String) : Bool :=
  match k with
  | .punctuator q => q == p
  | _ => false

/-- A keyword, written without escapes. -/
def TokenKind.isWord (k : TokenKind) (w : String) : Bool :=
  match k with
  | .identifier n escaped => !escaped && n == w
  | _ => false

/-- What the leaves of a pattern are. -/
inductive PatternUse where
  /-- names that a declaration binds -/
  | binding
  /-- places that an assignment stores into -/
  | assignment
  deriving DecidableEq

structure Grammar where
  /-- an expression, commas included -/
  expression : Parser Expr
  assignment : Parser Expr
  /-- operands of binary operators -/
  unary : Parser Expr
  /-- an operand with its members and calls -/
  leftHand : Parser Expr
  /-- an operand without members or calls -/
  primary : Parser Expr
  /-- a structure in brackets, with the names that it declares -/
  pattern : PatternUse → Parser (Pattern × List Name)
  statement : Parser (List Stmt)

namespace Grammar

def fail {α : Type} (f : SyntaxFault) : Parser α := throw f

def peek : Parser Token := do
  return (← MonadState.get).tokens.headD default

/-- The token after the next one. -/
def peekSecond : Parser Token := do
  return (← MonadState.get).tokens.tail.headD default

/-- Refuses a token that none may be, or none of strict code. -/
def checkToken (k : TokenKind) : Parser Unit := do
  match k with
  | .bad reason => fail (.lexical reason)
  | .number _ true => if (← read).strict then fail .strictOctalNumber
  | .string _ (some reason) => if (← read).strict then fail (.lexical reason)
  | _ => return ()

/-- Steps to the next token, which is checked when it is reached. -/
def advance : Parser Unit := do
  let s ← get
  match s.tokens with
  | t :: u :: rest =>
    checkToken u.kind
    set { s with tokens := u :: rest, last := t.stop }
  | _ => return ()

/-- Reads the slash that comes next as the start of a regular expression. -/
def readRegexp : Parser Unit := do
  let c ← read
  let t ← peek
  let s ← get
  let regexps := t.start :: s.regexps
  let tokens := (tokenize c.source ⟨!c.isModule, regexps⟩).dropWhile fun u => u.start < t.start
  match tokens with
  | u :: _ =>
    match u.kind with
    | .bad reason => fail (.lexical reason)
    | _ => set { s with tokens := { u with newline := t.newline } :: tokens.tail, regexps := regexps }
  | [] => return ()

def fuel : Parser Nat := do
  return (← MonadState.get).tokens.length + 1

def nextIs (p : String) : Parser Bool := do
  return (← peek).kind.isPunctuator p

def nextIsWord (w : String) : Parser Bool := do
  return (← peek).kind.isWord w

/-- Takes the punctuator if it comes next. -/
def accept (p : String) : Parser Bool := do
  if ← nextIs p then
    advance
    return true
  else return false

def acceptWord (w : String) : Parser Bool := do
  if ← nextIsWord w then
    advance
    return true
  else return false

def textBetween (start stop : Nat) : Parser String := do
  return String.ofList (((← read).source.drop start).take (stop - start))

def failAt {α : Type} (t : Token) : Parser α := do
  fail (.unexpected (← textBetween t.start t.stop))

/-- A statement ends at a semicolon, before a closing brace, at the end, or at a line end. -/
def endStatement : Parser Unit := do
  let t ← peek
  match t.kind with
  | .punctuator ";" => advance
  | .punctuator "\x7d" | .eof => pure ()
  | _ => if t.newline then pure () else fail (.expecting ";")

/-! ### Names -/

def reservedWords : List String :=
  ["break", "case", "catch", "class", "const", "continue", "debugger", "default", "delete", "do",
   "else", "enum", "export", "extends", "false", "finally", "for", "function", "if", "import", "in",
   "instanceof", "new", "null", "return", "super", "switch", "this", "throw", "true", "try",
   "typeof", "var", "void", "while", "with"]

def strictReserved : List String :=
  ["implements", "interface", "let", "package", "private", "protected", "public", "static", "yield"]

/-- May `n` name a variable here? -/
def isVariableName (c : Context) (n : Name) : Bool :=
  !reservedWords.contains n
    && !(c.strict && strictReserved.contains n)
    && !(c.yieldIsWord && n == "yield")
    && !(c.awaitIsWord && n == "await")

/-- Refuses the next token where another was wanted. -/
def failNext {α : Type} : Parser α := do
  let t ← peek
  let refuse : Parser α := do fail (.unexpectedToken (← textBetween t.start t.stop))
  match t.kind with
  | .eof => fail .unexpectedEnd
  | .number .. | .bigint _ => fail (.unexpectedLiteral "number")
  | .string .. => fail (.unexpectedLiteral "string")
  | .template _ _ true _ => fail (.unexpectedLiteral "string template")
  | .identifier n escaped =>
    if escaped || isVariableName (← read) n then fail (.unexpectedIdentifier n) else refuse
  | _ => refuse

def expect (p : String) : Parser Unit := do
  if ← nextIs p then advance else failNext

def expectWord (w : String) (f : SyntaxFault) : Parser Unit := do
  if ← nextIsWord w then advance else fail f

def use (n : Name) : Parser Unit := do
  if n == "arguments" && !(← read).argumentsAllowed then fail .argumentsInField
  modify fun s => { s with uses := n :: s.uses }

def declareVars (ns : List Name) : Parser Unit := modify fun s => { s with vars := s.vars ++ ns }

/-- A name for a variable; where none stands, `f` is the fault. -/
def nameOr (f : SyntaxFault) : Parser Name := do
  match (← peek).kind with
  | .identifier n escaped =>
    if isVariableName (← read) n then
      advance
      return n
    else if escaped then fail (.reserved n)
    else fail f
  | _ => fail f

/-- Names that lenient code may bind and strict code may not. -/
def isRestricted (n : Name) : Bool := n == "eval" || n == "arguments"

/-- A name that a declaration binds. -/
def variableName : Parser Name := do
  let n ← nameOr .variableExpected
  if isRestricted n && (← read).strict then fail .strictName
  return n

/-- Keeps the names that `p` uses, less those that its result declares. -/
def enclosed {α : Type} (declared : α → List Name) (p : Parser α) : Parser α := do
  let before := (← MonadState.get).uses
  modify fun s => { s with uses := [] }
  let a ← p
  let names := declared a
  modify fun s => { s with uses := s.uses.filter (fun n => !names.contains n) ++ before }
  return a

/-! ### Repetition -/

/-- `p` while it yields items; every round but the last takes a token, so the fuel suffices. -/
def many {α : Type} (p : Parser (Option α)) : Nat → Parser (List α)
  | 0 => return []
  | n + 1 => do
    match ← p with
    | some a => return a :: (← many p n)
    | none => return []

def hasDuplicate : List Name → Bool
  | [] => false
  | n :: rest => rest.contains n || hasDuplicate rest

end Grammar

end ScriptBridge.Script
