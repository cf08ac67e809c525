import ScriptBridge.Script.Eval.Class

/-!
Statements.

A statement ends normally or leaves: with a value for its function, or for a loop or label
around it.  Finalizers and iterators see every way of leaving, also the one that a generator is
made to take from inside an expression.
-/
namespace ScriptBridge.Script

open Text Script

/-! ### Results -/

/-- Notes the value of a statement, where somebody wants to know it. -/
def noteResult (fr : Frame) (v : Value) : Eval Unit :=
  match fr.result with
  | some c => request (.writeCell c (some v))
  | none => pure ()

/-- Whether a loop goes on, or how it ends. -/
def loopEnd (labels : List Name) (c : Completion) : Option Completion :=
  match c with
  | .normal | .continue none => none
  | .continue (some l) => if labels.contains l then none else some c
  | .break none => some .normal
  | c => some c

/-! ### Declarations -/

def evalDeclarators (ev : Evaluator) (fr : Frame) (kind : DeclarationKind) : List Declarator → Eval Unit
  | [] => pure ()
  | .mk p init :: rest => do
    match kind, init with
    | .var, none => pure ()
    | .var, some e =>
      let v ← ev.named fr (patternName p) e
      ev.pattern fr .assign p v
    | _, none => ev.pattern fr .declare p .undefined
    | _, some e =>
      let v ← ev.named fr (patternName p) e
      ev.pattern fr .declare p v
    evalDeclarators ev fr kind rest

def evalBlock (ev : Evaluator) (fr : Frame) (names : List LexicalName) (body : List Stmt) :
    Eval Completion := do
  let fr ← bindLexical fr names
  hoistFunctions fr (declaredFunctions body)
  ev.statements fr body

/-! ### Loops -/

def whileFrom (ev : Evaluator) (fr : Frame) (labels : List Name) (test : Expr) (body : Stmt) :
    Nat → Eval Completion
  | 0 => throwDeep
  | n + 1 => do
    if !(← ev.expr fr test).truthy then return .normal
    match loopEnd labels (← ev.statement fr [] body) with
    | some c => return c
    | none => whileFrom ev fr labels test body n

def doFrom (ev : Evaluator) (fr : Frame) (labels : List Name) (test : Expr) (body : Stmt) :
    Nat → Eval Completion
  | 0 => throwDeep
  | n + 1 => do
    match loopEnd labels (← ev.statement fr [] body) with
    | some c => return c
    | none =>
      if !(← ev.expr fr test).truthy then return .normal
      doFrom ev fr labels test body n

/-- Fresh variables with the values of those of the iteration before. -/
def copyVariables (outer from_ : Frame) : List Name → Eval Frame
  | [] => pure outer
  | n :: rest => do
    let v ← match findVariable n from_.env with
      | some (c, _) => request (.readCell c)
      | none => pure none
    let fr ← bindVariable outer n .mutable v
    copyVariables fr from_ rest

/-- The rounds of a `for` statement in `fr`; `names` get fresh variables in every round. -/
def forFrom (ev : Evaluator) (outer : Frame) (labels names : List Name) (test update : Option Expr)
    (body : Stmt) : Nat → Frame → Eval Completion
  | 0, _ => throwDeep
  | n + 1, fr => do
    let go ← match test with
      | some e => do pure (← ev.expr fr e).truthy
      | none => pure true
    if !go then return .normal
    match loopEnd labels (← ev.statement fr [] body) with
    | some c => return c
    | none =>
      let fr ← if names.isEmpty then pure fr else copyVariables outer fr names
      match update with
      | some e => discard (ev.expr fr e)
      | none => pure ()
      forFrom ev outer labels names test update body n fr

def evalFor (ev : Evaluator) (fr : Frame) (labels : List Name) (init : ForInit)
    (test update : Option Expr) (body : Stmt) : Eval Completion := do
  match init with
  | .none => forFrom ev fr labels [] test update body loopLimit fr
  | .expr e =>
    discard (ev.expr fr e)
    forFrom ev fr labels [] test update body loopLimit fr
  | .declare .var _ decls =>
    evalDeclarators ev fr .var decls
    forFrom ev fr labels [] test update body loopLimit fr
  | .declare kind names decls =>
    let inner ← bindLexical fr names
    evalDeclarators ev inner kind decls
    let fresh := (names.filter fun l => !l.constant).map LexicalName.name
    if fresh.length == names.length then forFrom ev fr labels fresh test update body loopLimit inner
    else forFrom ev inner labels [] test update body loopLimit inner

/-- A round of a loop over items: the frame of its body, with the item in place. -/
def bindItem (ev : Evaluator) (fr : Frame) (target : ForTarget) (v : Value) : Eval Frame := do
  match target with
  | .assign p =>
    ev.pattern fr .assign p v
    return fr
  | .declare .var _ p =>
    ev.pattern fr .assign p v
    return fr
  | .declare _ names p =>
    let fr ← bindLexical fr names
    ev.pattern fr .declare p v
    return fr

/-- Own names in order, each with whether it is enumerable. -/
def ownNames (r : Ref) : Eval (List (Key × Bool)) := do
  let one (k : Key) : Eval (List (Key × Bool)) := do
    match ← r.getOwn k with
    | some p => return [(k, p.enumerable)]
    | none => return []
  return (← mapEach one ((← r.ownKeys).filter fun k => !k.isSymbol)).flatten

/-- Is a name of some prototype enumerable? -/
def inheritsNames : Nat → Ref → Eval Bool
  | 0, _ => throwDeep
  | n + 1, r => do
    match ← r.getPrototype with
    | none => return false
    | some p => if (← ownNames p).any Prod.snd then return true else inheritsNames n p

/-- Names of an object, then those of its prototypes that are not hidden. -/
def namesOfChain : Nat → Ref → List (Key × Bool) → Eval (List (Key × Bool))
  | 0, _, _ => throwDeep
  | n + 1, r, seen => do
    let fresh := (← ownNames r).filter fun k => !seen.any (·.1 == k.1)
    match ← r.getPrototype with
    | none => return seen ++ fresh
    | some p => namesOfChain n p (seen ++ fresh)

/-- The names that a loop over `r` visits. -/
def enumerableNames (r : Ref) : Eval (List Key) := do
  let names ← if ← inheritsNames chainLimit r then namesOfChain chainLimit r [] else ownNames r
  return (names.filter Prod.snd).map Prod.fst

/-- Is a name still to be visited?  A proxy is not asked again. -/
def isStillThere (r : Ref) (k : Key) : Eval Bool := do
  match ← payload r with
  | .proxy .. => return true
  | _ => r.has k

def forInFrom (ev : Evaluator) (fr : Frame) (labels : List Name) (target : ForTarget) (body : Stmt)
    (r : Ref) : List Key → Eval Completion
  | [] => pure .normal
  | k :: rest => do
    if !(← isStillThere r k) then forInFrom ev fr labels target body r rest
    else
      let inner ← bindItem ev fr target (.spelled k.units)
      match loopEnd labels (← ev.statement inner [] body) with
      | some c => return c
      | none => forInFrom ev fr labels target body r rest

def evalForIn (ev : Evaluator) (fr : Frame) (labels : List Name) (target : ForTarget) (e : Expr)
    (body : Stmt) : Eval Completion := do
  let v ← ev.expr fr e
  if v.isNullish then return .normal
  let r ← toObject v
  let names ← enumerableNames r
  forInFrom ev (fr.hold (.object r)) labels target body r names

def forOfFrom (ev : Evaluator) (fr : Frame) (labels : List Name) (target : ForTarget) (body : Stmt)
    (it : Iteration) : Nat → Eval Completion
  | 0 => throwDeep
  | n + 1 => do
    match ← it.step with
    | none => return .normal
    | some v =>
      let c ← tryCatch
        (withCleanup fr (leaveIteration fr it) fun fr => do
          let inner ← bindItem ev fr target v
          ev.statement inner [] body)
        fun e => it.abandon e
      match loopEnd labels c with
      | none => forOfFrom ev fr labels target body it n
      | some (.return v) =>
        leaveIteration fr it
        return .return v
      | some c =>
        it.close
        return c

/-- The rounds of a loop that waits for its items.  Its iterator is closed however the loop ends,
also when the iterator itself has ended or failed. -/
def forAwaitFrom (ev : Evaluator) (fr : Frame) (labels : List Name) (target : ForTarget) (body : Stmt)
    (it : AsyncIteration) : Nat → Eval Completion
  | 0 => throwDeep
  | n + 1 => do
    match ← tryCatch (it.step fr) fun e => it.abandon e with
    | none =>
      it.close
      return .normal
    | some v =>
      let c ← tryCatch
        (withCleanup fr (it.leave fr) fun fr => do
          let inner ← bindItem ev fr target v
          ev.statement inner [] body)
        fun e => it.abandon e
      match loopEnd labels c with
      | none => forAwaitFrom ev fr labels target body it n
      | some (.return v) =>
        it.leave fr
        return .return v
      | some c =>
        it.close
        return c

/-! ### Other compound statements -/

/-- The position of the case that is entered. -/
def findCase (ev : Evaluator) (fr : Frame) (v : Value) : Nat → List SwitchCase → Eval (Option Nat)
  | _, [] => pure none
  | i, .mk (some e) _ :: rest => do
    if Value.strictEq v (← ev.expr fr e) then return some i
    findCase ev fr v (i + 1) rest
  | i, .mk none _ :: rest => findCase ev fr v (i + 1) rest

def defaultCase : Nat → List SwitchCase → Option Nat
  | _, [] => none
  | i, .mk none _ :: _ => some i
  | i, .mk (some _) _ :: rest => defaultCase (i + 1) rest

def SwitchCase.body : SwitchCase → List Stmt
  | .mk _ b => b

def evalSwitch (ev : Evaluator) (fr : Frame) (e : Expr) (names : List LexicalName)
    (cases : List SwitchCase) : Eval Completion := do
  let v ← ev.expr fr e
  let fr ← bindLexical fr names
  let bodies := cases.map SwitchCase.body
  hoistFunctions fr (declaredFunctions bodies.flatten)
  let start ← do
    match ← findCase ev fr v 0 cases with
    | some i => pure (some i)
    | none => pure (defaultCase 0 cases)
  match start with
  | none => return .normal
  | some i =>
    match ← ev.statements fr (bodies.drop i).flatten with
    | .break none => return .normal
    | c => return c

/-- Runs a block with a finalizer, which has the last word if it does not end normally. -/
def withFinalizer (fr : Frame) (finalizer : Eval Completion) (f : Frame → Eval Completion) :
    Eval Completion := fun k e =>
  let after (go : Prog Value) : Prog Value :=
    finalizer (fun c =>
      match c with
      | .normal => go
      | c => k c) e
  f { fr with leave := fun v => after (fr.leave v) } (fun c => after (k c)) (fun v => after (e v))

def evalTry (ev : Evaluator) (fr : Frame) (body : Stmt) (handler : Handler) (finalizer : Stmt) :
    Eval Completion := do
  let guarded (fr : Frame) : Eval Completion :=
    match handler with
    | .none => ev.statement fr [] body
    | .plain h => tryCatch (ev.statement fr [] body) fun _ => ev.statement fr [] h
    | .bind p names h =>
      tryCatch (ev.statement fr [] body) fun v => do
        let fr ← bindLexical fr names
        ev.pattern fr .declare p v
        ev.statement fr [] h
  match finalizer with
  | .empty => guarded fr
  | s => withFinalizer fr (ev.statement { fr with result := none } [] s) guarded

/-! ### All statements -/

def evalStatement (ev : Evaluator) (fr : Frame) (labels : List Name) (s : Stmt) : Eval Completion := do
  match s with
  | .empty => return .normal
  | .expr e =>
    let v ← ev.expr fr e
    noteResult fr v
    return .normal
  | .declare kind _ decls =>
    evalDeclarators ev fr kind decls
    return .normal
  | .function _ => return .normal
  | .exposeFunction n =>
    let v ← readVariable fr n
    writeVariable { fr with env := fr.scope } n v
    return .normal
  | .classDeclaration c =>
    let v ← ev.classDefinition fr c.name c
    initializeVariable fr c.name v
    return .normal
  | .block names body => evalBlock ev fr names body
  | .ifElse test yes no =>
    noteResult fr .undefined
    if (← ev.expr fr test).truthy then ev.statement fr [] yes else ev.statement fr [] no
  | .whileLoop test body =>
    noteResult fr .undefined
    whileFrom ev fr labels test body loopLimit
  | .doWhile body test =>
    noteResult fr .undefined
    doFrom ev fr labels test body loopLimit
  | .forLoop init test update body =>
    noteResult fr .undefined
    evalFor ev fr labels init test update body
  | .forIn target e body =>
    noteResult fr .undefined
    evalForIn ev fr labels target e body
  | .forOf awaits target e body =>
    noteResult fr .undefined
    let v ← ev.expr fr e
    if awaits then
      let it ← iterateAsync v
      forAwaitFrom ev (fr.hold it.base.iterator) labels target body it loopLimit
    else
      let it ← iterate v
      forOfFrom ev (fr.hold it.iterator) labels target body it loopLimit
  | .returnValue e =>
    let v ← match e with
      | some e => ev.expr fr e
      | none => pure .undefined
    if fr.isAsync && fr.isGenerator then return .return (← awaitValue fr v)
    return .return v
  | .breakTo l => return .break l
  | .continueTo l => return .continue l
  | .throwValue e => throwValue (← ev.expr fr e)
  | .tryBlock body handler finalizer =>
    noteResult fr .undefined
    evalTry ev fr body handler finalizer
  | .switchOn e names cases =>
    noteResult fr .undefined
    evalSwitch ev fr e names cases
  | .labeled l s =>
    match ← ev.statement fr (l :: labels) s with
    | .break (some m) => return if m == l then .normal else .break (some m)
    | c => return c
  | .withObject e s =>
    noteResult fr .undefined
    let r ← toObject (← ev.expr fr e)
    ev.statement { fr with env := .object r :: fr.env } [] s

def evalStatements (ev : Evaluator) (fr : Frame) : List Stmt → Eval Completion
  | [] => pure .normal
  | s :: rest => do
    match ← ev.statement fr [] s with
    | .normal => evalStatements ev fr rest
    | c => return c

end ScriptBridge.Script
