import ScriptBridge.Script.Syntax.Grammar

/-!
Patterns: what declarations bind and assignments store into.

A structure is read for one of two uses.  Its leaves are names where it declares, and operands
with their members where it assigns; inside of it another structure counts only where a comma,
an equality sign or the closing bracket follows.
-/
namespace ScriptBridge.Script.Grammar

open Text

/-- Reads `p` where `in` is an operator. -/
def withOperatorIn {α : Type} (p : Parser α) : Parser α :=
  withReader (fun c => { c with allowIn := true }) p

/-- The token behind the parenthesis that closes the one open at `depth`. -/
def afterParenthesis : List Token → Nat → Option Token
  | [], _ => none
  | t :: rest, depth =>
    match t.kind with
    | .punctuator "(" | .punctuator "[" | .punctuator "\x7b" => afterParenthesis rest (depth + 1)
    | .punctuator ")" | .punctuator "]" | .punctuator "\x7d" =>
      if depth ≤ 1 then rest.head? else afterParenthesis rest (depth - 1)
    | .eof => none
    | _ => afterParenthesis rest depth

/-- Does a structure come next, with one of `ends` behind it? -/
def structureAhead (ends : List String) : Parser Bool := do
  if (← nextIs "[") || (← nextIs "\x7b") then
    match afterParenthesis (← MonadState.get).tokens 0 with
    | some t => return ends.any t.kind.isPunctuator
    | none => return false
  else return false

/-! ### Places to store into -/

/-- `e` may be assigned to as it stands. -/
def isSimpleTarget : Expr → Bool
  | .ident _ | .dot .. | .member .. | .superMember _ | .privateMember .. => true
  | _ => false

/-- Refuses what no value can be stored in, and restricted names in strict code. -/
def checkTarget (e : Expr) (f : SyntaxFault) : Parser Unit := do
  match e with
  | .ident n => if isRestricted n && (← read).strict then fail .strictTarget
  | _ => if !isSimpleTarget e then fail f

/-! ### Names of properties -/

def canonicalNumber (x : Float) : Units := Units.ofChars (Number.scriptLayout.chars x)

/-- The name of a property in a literal, class or pattern. -/
def propertyName (g : Grammar) : Parser PropertyName := do
  let t ← peek
  match t.kind with
  | .identifier n _ => advance; return .fixed (Units.ofString n)
  | .string u _ => advance; return .fixed u
  | .number x _ => advance; return .fixed (canonicalNumber x)
  | .bigint n => advance; return .fixed (Units.ofNat n)
  | .secret n => advance; use n; return .secret n
  | .punctuator "[" =>
    advance
    let e ← withOperatorIn g.expression
    expect "]"
    return .computed e
  | _ => fail .propertyNameExpected

/-- Refuses a private name where a property of any object is named. -/
def checkOpenName : Parser Unit := do
  match (← peek).kind with
  | .secret _ => fail .propertyNameExpected
  | _ => return ()

/-! ### Structures -/

/-- A default value, if one follows. -/
def optionalDefault (g : Grammar) : Parser (Option Expr) := do
  if ← accept "=" then return some (← g.assignment) else return none

def bindingLeaf : Parser (Pattern × List Name) := do
  match (← peek).kind with
  | .identifier n _ =>
    let c ← read
    if !isVariableName c n || (c.strict && isRestricted n) then fail .destructuringTarget
    advance
    return (.target (.ident n), [n])
  | _ => fail .destructuringTarget

def patternLeaf (g : Grammar) : PatternUse → Parser (Pattern × List Name)
  | .binding => bindingLeaf
  | .assignment => do
    let e ← g.leftHand
    checkTarget e .destructuringTarget
    return (.target e, [])

/-- What is behind the dots of an array. -/
def restPart (g : Grammar) (u : PatternUse) : Parser (Pattern × List Name) := do
  if (← nextIs ",") || (← nextIs "]") then fail .restMissing
  if ← structureAhead ["="] then fail .restDefault
  if ← structureAhead [",", "]"] then g.pattern u else patternLeaf g u

/-- Elements of an array, after the bracket. -/
def arrayPatternItems (g : Grammar) (u : PatternUse) : Nat → Parser (List PatternItem × List Name)
  | 0 => fail .tooDeep
  | n + 1 => do
    if ← accept "]" then return ([], [])
    if ← accept "," then
      let (items, names) ← arrayPatternItems g u n
      return (.hole :: items, names)
    if ← accept "..." then
      let (p, names) ← restPart g u
      if !(← accept "]") then fail .restNotLast
      return ([.rest p], names)
    let (p, names) ← if ← structureAhead [",", "=", "]"] then g.pattern u else patternLeaf g u
    let item := PatternItem.single p (← optionalDefault g)
    if ← accept "]" then return ([item], names)
    expect ","
    let (items, more) ← arrayPatternItems g u n
    return (item :: items, names ++ more)

/-- A name alone stands for the property and for what takes it. -/
def shorthand? (t : Token) : Parser (Option Name) := do
  match t.kind with
  | .identifier n _ =>
    return if isVariableName (← read) n && !(← nextIs ":") then some n else none
  | _ => return none

/-- What takes a property whose name is read.  Behind a name that cannot stand alone one token is
passed over, which is the colon where the text is right. -/
def propertyTarget (g : Grammar) (u : PatternUse) (t : Token) : Parser (Pattern × List Name) := do
  match ← shorthand? t with
  | some n =>
    if isRestricted n && (← read).strict then fail .destructuringTarget
    match u with
    | .binding => return (.target (.ident n), [n])
    | .assignment =>
      use n
      return (.target (.ident n), [])
  | none =>
    advance
    if ← structureAhead [",", "=", "\x7d"] then g.pattern u else patternLeaf g u

/-- Properties of an object, after the brace. -/
def objectPatternItems (g : Grammar) (u : PatternUse) :
    Nat → Parser (List PatternProperty × List Name)
  | 0 => fail .tooDeep
  | n + 1 => do
    if ← accept "\x7d" then return ([], [])
    if ← accept "..." then
      let (p, names) ← patternLeaf g u
      if !(← accept "\x7d") then fail .restPropertyNotLast
      return ([.rest p], names)
    checkOpenName
    let t ← peek
    let key ← propertyName g
    let (p, names) ← propertyTarget g u t
    let property := PatternProperty.single key p (← optionalDefault g)
    if ← accept "\x7d" then return ([property], names)
    expect ","
    let (items, more) ← objectPatternItems g u n
    return (property :: items, names ++ more)

def patternRule (g : Grammar) (u : PatternUse) : Parser (Pattern × List Name) :=
  withOperatorIn do
    if ← accept "[" then
      let (items, names) ← arrayPatternItems g u (← fuel)
      return (.array items, names)
    else
      expect "\x7b"
      let (items, names) ← objectPatternItems g u (← fuel)
      return (.object items, names)

/-! ### Bindings -/

def isStructure : Pattern → Bool
  | .target _ => false
  | _ => true

/-- A binding where a structure may stand without a value: of a parameter or a handler. -/
def innerBinding (g : Grammar) (f : SyntaxFault) : Parser (Pattern × List Name) := do
  if (← nextIs "[") || (← nextIs "\x7b") then g.pattern .binding
  else
    let n ← nameOr f
    return (.target (.ident n), [n])

/-- What a declaration binds. -/
def declaredBinding (g : Grammar) : Parser (Pattern × List Name) := do
  if (← nextIs "[") || (← nextIs "\x7b") then g.pattern .binding
  else
    let n ← variableName
    return (.target (.ident n), [n])

end ScriptBridge.Script.Grammar
