import ScriptBridge.Script.Regular.Reader
import ScriptBridge.Script.Syntax.Function

/-!
Expressions.

Binary operators are read level by level, the loosest first.  A structure to assign to is
recognised before it is read, by the equality sign behind it, and an arrow function by the arrow
behind its parameters.
-/
namespace ScriptBridge.Script.Grammar

open Text

/-! ### Arguments and literals -/

/-- Arguments after the parenthesis. -/
def arguments (g : Grammar) : Nat → Parser (List Item)
  | 0 => fail .tooDeep
  | n + 1 => do
    if ← accept ")" then return []
    let item ← do
      if ← accept "..." then pure (Item.spread (← g.assignment)) else pure (.single (← g.assignment))
    if ← accept ")" then return [item]
    expect ","
    return item :: (← arguments g n)

def argumentList (g : Grammar) : Parser (List Item) :=
  withOperatorIn do arguments g (← fuel)

/-- Array elements after the bracket. -/
def arrayItems (g : Grammar) : Nat → Parser (List Item)
  | 0 => fail .tooDeep
  | n + 1 => do
    if ← accept "]" then return []
    if ← accept "," then return .hole :: (← arrayItems g n)
    let item ← do
      if ← accept "..." then pure (Item.spread (← g.assignment)) else pure (.single (← g.assignment))
    if ← accept "]" then return [item]
    if !(← accept ",") then failNext
    return item :: (← arrayItems g n)

def objectMember (g : Grammar) : Parser Member := do
  if ← accept "..." then return .spread (← g.assignment)
  let start := (← peek).start
  let head ← memberHead
  let t ← peek
  match t.kind with
  | .secret _ => fail .propertyNameExpected
  | _ => pure ()
  let key ← propertyName g
  let plain := head.kind == .method && !head.isAsync && !head.isGenerator
  if ← nextIs "(" then
    return .method key
      (← functionRest g ⟨fixedName key, head.kind, head.isAsync, head.isGenerator, start, none⟩)
  if !plain then fail .propertyNameExpected
  if ← accept ":" then
    let value ← g.assignment
    if isFixed key "__proto__" then return .prototype value else return .property key value
  match t.kind with
  | .identifier n _ =>
    if !isVariableName (← read) n then failNext
    use n
    return .property key (.ident n)
  | _ => failNext

def isPrototype : Member → Bool
  | .prototype _ => true
  | _ => false

/-- Object members after the brace; `before` says that one of them has set the prototype. -/
def objectMembers (g : Grammar) : Nat → Bool → Parser (List Member)
  | 0, _ => fail .tooDeep
  | n + 1, before => do
    if ← accept "\x7d" then return []
    let m ← objectMember g
    if before && isPrototype m then fail .prototypeTwice
    if ← accept "\x7d" then return [m]
    if !(← accept ",") then failNext
    return m :: (← objectMembers g n (before || isPrototype m))

/-- Texts and values of a template after its first text. -/
def templateRest (g : Grammar) : Nat → Parser (List (Except String Units × Units) × List Expr)
  | 0 => fail .tooDeep
  | n + 1 => do
    let e ← withOperatorIn g.expression
    let t ← peek
    match t.kind with
    | .template cooked raw _ tail =>
      advance
      if tail then return ([(cooked, raw)], [e])
      let (texts, values) ← templateRest g n
      return ((cooked, raw) :: texts, e :: values)
    | _ => fail .templateEnd

def templateParts (g : Grammar) (cooked : Except String Units) (raw : Units) (tail : Bool) :
    Parser (List (Except String Units × Units) × List Expr) := do
  if tail then return ([(cooked, raw)], [])
  let (texts, values) ← templateRest g (← fuel)
  return ((cooked, raw) :: texts, values)

/-! ### Operands -/

/-- A key in brackets, after the bracket. -/
def bracketKey (g : Grammar) : Parser Expr := do
  let key ← withOperatorIn g.expression
  expect "]"
  return key

/-- What follows one `?.`; no arguments follow it where the operand is one of `new`. -/
def optionalPart (g : Grammar) (calls : Bool) (e : Expr) : Parser Expr := do
  if calls && (← accept "(") then return .optionalCall e (← argumentList g)
  if ← accept "[" then
    return .optionalMember e (← bracketKey g)
  let t ← peek
  match t.kind with
  | .identifier name _ => advance; return .optionalMember e (.string (Units.ofString name))
  | .secret name => advance; use name; return .optionalSecret e name
  | _ => fail .fieldNameExpected

/-- Members, templates and, where `calls` says so, calls behind an operand; `optional` says that a
`?.` was among them. -/
def suffixes (g : Grammar) (calls : Bool) : Nat → Bool → Expr → Parser Expr
  | 0, _, e => return e
  | n + 1, optional, e => do
    let t ← peek
    match t.kind with
    | .punctuator "." =>
      advance
      let t ← peek
      match t.kind with
      | .identifier name _ => advance; suffixes g calls n optional (.dot e (Units.ofString name))
      | .secret name => advance; use name; suffixes g calls n optional (.privateMember e name)
      | _ => fail .fieldNameExpected
    | .punctuator "?." =>
      advance
      suffixes g calls n true (← optionalPart g calls e)
    | .punctuator "[" =>
      advance
      suffixes g calls n optional (.member e (← bracketKey g))
    | .punctuator "(" =>
      if !calls then return if optional then .chain e else e
      advance
      let args ← argumentList g
      match e with
      | .ident "eval" => modify fun s => { s with dynamic := true }
      | _ => pure ()
      suffixes g calls n optional (.call e args)
    | .template cooked raw true tail =>
      if optional then fail .templateChain
      advance
      let (texts, values) ← templateParts g cooked raw tail
      suffixes g calls n optional
        (.taggedTemplate e (texts.map fun x => x.1.toOption) (texts.map Prod.snd) values)
    | _ => return if optional then .chain e else e

/-- `new` with its operand: members bind tighter than the arguments, calls do not. -/
def newRule (g : Grammar) : Parser Expr := do
  if ← accept "." then
    expectWord "target" .targetExpected
    if !(← read).newTargets then fail .newTargetOutside
    use "new.target"
    return .newTarget
  if (← nextIsWord "import") && (← peekSecond).kind.isPunctuator "(" then fail .importCallForm
  let callee ← suffixes g false (← fuel) false (← g.primary)
  if ← accept "(" then return .newCall callee (← argumentList g)
  else return .newCall callee []

def importRule (g : Grammar) : Parser Expr := do
  if ← accept "." then
    expectWord "meta" .metaExpected
    if !(← read).isModule then fail .metaOutside
    use "import.meta"
    return .importMeta
  expect "("
  let e ← withOperatorIn g.assignment
  expect ")"
  return .importCall e

def superRule (g : Grammar) : Parser Expr := do
  let c ← read
  if ← nextIs "(" then
    if !c.superCalls then fail .superCallOutside
    advance
    use "super()"
    use "this"
    use "new.target"
    return .superCall (← argumentList g)
  if !((← nextIs ".") || (← nextIs "[")) then fail .superForm
  if !c.superMembers then fail .superOutside
  use "super"
  use "this"
  if ← accept "." then
    let t ← peek
    match t.kind with
    | .identifier name _ => advance; return .superMember (.string (Units.ofString name))
    | .secret _ => fail .superSecret
    | _ => fail .fieldNameExpected
  else
    advance
    return .superMember (← bracketKey g)

/-- What a word at the front of an operand begins. -/
def wordRule (g : Grammar) (t : Token) (n : String) : Parser Expr := do
  match n with
  | "function" => advance; return .function (← functionAfterWord g t.start false true)
  | "class" => advance; return .classExpr (← classAfterWord g t.start true)
  | "new" => advance; newRule g
  | "this" => advance; use "this"; return .this
  | "null" => advance; return .null
  | "true" => advance; return .bool true
  | "false" => advance; return .bool false
  | "super" => advance; superRule g
  | "import" => advance; importRule g
  | _ =>
    let second ← peekSecond
    if n == "async" && second.kind.isWord "function" && !second.newline then
      advance
      advance
      return .function (← functionAfterWord g t.start true true)
    if isVariableName (← read) n then
      advance
      use n
      return .ident n
    else failAt t

/-- A regular expression is checked where it stands, whether or not it is ever used. -/
def regexpRule (pattern flags : Units) : Parser Expr := do
  if !Regular.validFlags flags then fail (.lexical "invalid regular expression flags")
  let has (c : Char) : Bool := flags.contains (UInt16.ofNat c.toNat)
  match Regular.Pattern.ofUnits? pattern ⟨has 'i', has 'm', has 's', has 'u'⟩ with
  | .error e => fail (.lexical e.message)
  | .ok _ =>
    advance
    return .regexp pattern flags

def primaryRule (g : Grammar) : Parser Expr := do
  if (← nextIs "/") || (← nextIs "/=") then readRegexp
  let t ← peek
  match t.kind with
  | .identifier n escaped =>
    if escaped then
      if !isVariableName (← read) n then fail (.reserved n)
      advance
      use n
      return .ident n
    else wordRule g t n
  | .number x _ => advance; return .number x
  | .bigint n => advance; return .bigint n
  | .string u _ => advance; return .string u
  | .regexp p f => regexpRule p f
  | .template cooked raw true tail =>
    advance
    let (texts, values) ← templateParts g cooked raw tail
    let cooked ← texts.mapM fun x =>
      match x.1 with
      | .ok u => pure u
      | .error reason => fail (.lexical reason)
    return .template cooked values
  | .punctuator "(" =>
    advance
    let e ← withOperatorIn g.expression
    expect ")"
    return e
  | .punctuator "[" =>
    advance
    let items ← withOperatorIn do arrayItems g (← fuel)
    return .array items
  | .punctuator "\x7b" =>
    advance
    let ms ← withOperatorIn do objectMembers g (← fuel) false
    return .object ms
  | _ => failAt t

def leftHandRule (g : Grammar) : Parser Expr := do
  suffixes g true (← fuel) false (← g.primary)

/-! ### Operators -/

def postfixRule (g : Grammar) : Parser Expr := do
  let e ← g.leftHand
  let t ← peek
  if t.newline then return e
  match t.kind with
  | .punctuator "++" =>
    checkTarget e .updateTarget
    advance
    return .update false true e
  | .punctuator "--" =>
    checkTarget e .updateTarget
    advance
    return .update false false e
  | _ => return e

def deletion (e : Expr) : Parser Expr := do
  match e with
  | .ident _ => if (← read).strict then fail .strictDelete
  | .privateMember .. => fail .secretDelete
  | _ => pure ()
  return .delete e

/-- What a sign or word in front of an operand makes of it. -/
def signed? (c : Context) (k : TokenKind) : Option (Expr → Parser Expr) :=
  match k with
  | .punctuator "!" => some fun e => return .unary .not e
  | .punctuator "~" => some fun e => return .unary .bitNot e
  | .punctuator "+" => some fun e => return .unary .plus e
  | .punctuator "-" => some fun e => return .unary .minus e
  | .identifier "typeof" false => some fun e => return .unary .typeOf e
  | .identifier "void" false => some fun e => return .unary .void e
  | .identifier "delete" false => some deletion
  | .identifier "await" false =>
    if !c.awaitIsWord then none
    else
      some fun e => do
        if !c.inFunction then modify fun s => { s with awaits := true }
        return .await e
  | _ => none

/-- May `await` stand here, where it is a word of its own? -/
def checkAwait (k : TokenKind) : Parser Unit := do
  let c ← read
  if k.isWord "await" && c.awaitIsWord then
    if !(c.inAsync || (c.isModule && !c.inFunction)) then fail .awaitOutside
    if c.inParameters then fail .awaitInDefault

/-- An operand with what stands in front of it, but without a power behind it. -/
def operandRule (g : Grammar) : Nat → Parser Expr
  | 0 => fail .tooDeep
  | n + 1 => do
    let t ← peek
    match t.kind with
    | .punctuator "++" | .punctuator "--" =>
      advance
      let e ← operandRule g n
      checkTarget e .updateTarget
      return .update true (t.kind.isPunctuator "++") e
    | k =>
      match signed? (← read) k with
      | some wrap =>
        checkAwait k
        advance
        wrap (← operandRule g n)
      | none => postfixRule g

/-- An operand of a binary operator; a sign may not stand in front of the base of a power. -/
def unaryRule (g : Grammar) : Parser Expr := do
  let isSigned := (signed? (← read) (← peek).kind).isSome
  let e ← operandRule g (← fuel)
  if ← nextIs "**" then
    if isSigned then fail .powerOperand
    advance
    return .binary .pow e (← g.unary)
  else return e

/-- Operators from the loosest level to the tightest. -/
def binaryLevels : List (List (String × BinaryOp)) :=
  [[("|", .bitOr)],
   [("^", .bitXor)],
   [("&", .bitAnd)],
   [("==", .looseEq), ("!=", .looseNe), ("===", .strictEq), ("!==", .strictNe)],
   [("<", .less), (">", .greater), ("<=", .lessEq), (">=", .greaterEq),
    ("instanceof", .instanceOf), ("in", .within)],
   [("<<", .shiftLeft), (">>", .shiftRight), (">>>", .shiftRightZero)],
   [("+", .add), ("-", .sub)],
   [("*", .mul), ("/", .div), ("%", .rem)]]

def operatorText (c : Context) (k : TokenKind) : Option String :=
  match k with
  | .punctuator p => some p
  | .identifier "instanceof" false => some "instanceof"
  | .identifier "in" false => if c.allowIn then some "in" else none
  | _ => none

def nextOperator (ops : List (String × BinaryOp)) : Parser (Option BinaryOp) := do
  match operatorText (← read) (← peek).kind with
  | some p => return ops.lookup p
  | none => return none

/-- Does the question come next whether an object has a private member? -/
def secretIn? : Parser (Option Name) := do
  match (← peek).kind with
  | .secret n => return if (← read).allowIn && (← peekSecond).kind.isWord "in" then some n else none
  | _ => return none

def binaryRule (g : Grammar) : List (List (String × BinaryOp)) → Parser Expr
  | [] => g.unary
  | ops :: tighter => do
    let secret ← if (ops.lookup "in").isSome then secretIn? else pure none
    match secret with
    | some n =>
      advance
      advance
      use n
      return .privateIn n (← binaryRule g tighter)
    | none =>
      let first ← binaryRule g tighter
      loop ops (binaryRule g tighter) (← fuel) first
where
  loop (ops : List (String × BinaryOp)) (operand : Parser Expr) : Nat → Expr → Parser Expr
    | 0, l => return l
    | n + 1, l => do
      match ← nextOperator ops with
      | some op =>
        advance
        let r ← operand
        loop ops operand n (.binary op l r)
      | none => return l

/-- Operands joined by one logical operator, to the left. -/
def logicalLoop (op : LogicalOp) (text : String) (operand : Parser Expr) : Nat → Expr → Parser Expr
  | 0, l => return l
  | n + 1, l => do
    if ← accept text then
      let r ← operand
      if op != .nullish && (← nextIs "??") then fail .mixedNullish
      logicalLoop op text operand n (.logical op l r)
    else return l

def logicalRule (g : Grammar) : Parser Expr := do
  let bits := binaryRule g binaryLevels
  let conjunction : Parser Expr := do logicalLoop .and "&&" bits (← fuel) (← bits)
  let disjunction : Parser Expr := do logicalLoop .or "||" conjunction (← fuel) (← conjunction)
  logicalLoop .nullish "??" bits (← fuel) (← disjunction)

def conditionalRule (g : Grammar) : Parser Expr := do
  let test ← logicalRule g
  if ← accept "?" then
    let yes ← withOperatorIn g.assignment
    expect ":"
    return .conditional test yes (← g.assignment)
  else return test

/-! ### Assignment -/

/-- Do parameters and an arrow come next? -/
def arrowAhead : List Token → Bool
  | ⟨.identifier _ _, _, _, _⟩ :: t :: _ => t.kind.isPunctuator "=>" && !t.newline
  | t :: rest =>
    if t.kind.isPunctuator "(" then
      match afterParenthesis (t :: rest) 0 with
      | some u => u.kind.isPunctuator "=>" && !u.newline
      | none => false
    else false
  | [] => false

def yieldRule (g : Grammar) : Parser Expr := do
  let c ← read
  if !c.inGenerator then fail .yieldOutside
  if c.inParameters then fail .yieldInDefault
  advance
  let t ← peek
  if t.newline then return .yield none
  match t.kind with
  | .punctuator "*" =>
    advance
    return .yieldAll (← g.assignment)
  | .punctuator p =>
    if [")", "]", "\x7d", ",", ";", ":"].contains p then return .yield none
    else return .yield (some (← g.assignment))
  | .template _ _ head _ => if head then return .yield (some (← g.assignment)) else return .yield none
  | _ => return .yield (some (← g.assignment))

def compoundOperators : List (String × BinaryOp) :=
  [("+=", .add), ("-=", .sub), ("*=", .mul), ("/=", .div), ("%=", .rem), ("**=", .pow),
   ("<<=", .shiftLeft), (">>=", .shiftRight), (">>>=", .shiftRightZero),
   ("&=", .bitAnd), ("|=", .bitOr), ("^=", .bitXor)]

def logicalOperators : List (String × LogicalOp) :=
  [("&&=", .and), ("||=", .or), ("??=", .nullish)]

def assignmentRule (g : Grammar) : Parser Expr := do
  let c ← read
  let t ← peek
  let tokens := (← MonadState.get).tokens
  if t.kind.isWord "yield" && (c.inGenerator || c.strict) then yieldRule g
  else if t.kind.isWord "async" && !(tokens.tail.headD default).newline && arrowAhead tokens.tail then
    advance
    return .function (← arrowRest g t.start true)
  else if arrowAhead tokens then return .function (← arrowRest g t.start false)
  else if ← structureAhead ["="] then
    let (p, _) ← g.pattern .assignment
    expect "="
    return .assign p (← withOperatorIn g.assignment)
  else
    let target ← conditionalRule g
    match (← peek).kind with
    | .punctuator "=" =>
      checkTarget target .assignmentTarget
      advance
      return .assign (.target target) (← g.assignment)
    | .punctuator p =>
      match compoundOperators.lookup p, logicalOperators.lookup p with
      | some op, _ =>
        checkTarget target .assignmentTarget
        advance
        return .compound op target (← g.assignment)
      | none, some op =>
        checkTarget target .assignmentTarget
        advance
        return .logicalAssign op target (← g.assignment)
      | none, none => return target
    | _ => return target

def expressionRule (g : Grammar) : Parser Expr := do
  loop (← fuel) (← g.assignment)
where
  loop : Nat → Expr → Parser Expr
    | 0, e => return e
    | n + 1, e => do
      if ← accept "," then
        let r ← g.assignment
        loop n (.sequence e r)
      else return e

end ScriptBridge.Script.Grammar
