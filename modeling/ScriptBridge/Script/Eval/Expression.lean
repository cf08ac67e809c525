import ScriptBridge.Script.Eval.Text

/-!
Expressions.

Operands are evaluated from left to right, and what has been evaluated is kept alive while the
rest of its expression waits.
-/
namespace ScriptBridge.Script

open Text Script

/-! ### Lists of items -/

def evalItems (ev : Evaluator) (fr : Frame) : List Item → Eval (List Value)
  | [] => pure []
  | .hole :: rest => do
    return .undefined :: (← evalItems ev fr rest)
  | .single e :: rest => do
    let v ← ev.expr fr e
    return v :: (← evalItems ev (fr.hold v) rest)
  | .spread e :: rest => do
    let items ← spreadItems (← ev.expr fr e)
    return items ++ (← evalItems ev fr rest)

def hasHole : List Item → Bool
  | [] => false
  | .hole :: _ => true
  | _ :: rest => hasHole rest

/-- Elements with `none` where nothing is written. -/
def evalElements (ev : Evaluator) (fr : Frame) : List Item → Eval (List (Option Value))
  | [] => pure []
  | .hole :: rest => do
    return none :: (← evalElements ev fr rest)
  | .single e :: rest => do
    let v ← ev.expr fr e
    return some v :: (← evalElements ev (fr.hold v) rest)
  | .spread e :: rest => do
    let items ← spreadItems (← ev.expr fr e)
    return items.map some ++ (← evalElements ev fr rest)

def evalArray (ev : Evaluator) (fr : Frame) (items : List Item) : Eval Value := do
  if !hasHole items then return .object (← newArray (← evalItems ev fr items))
  let elements ← evalElements ev fr items
  let present := elements.zipIdx.filterMap fun x => x.1.map fun v => (Key.index x.2, Property.plain v)
  return .object (← request (.make (some (.builtin (.object .arrayPrototype))) .array
    ((lengthKey, Property.data (.ofNat elements.length) true false false) :: present)))

/-! ### Object literals -/

def accessorLabel (k : FunctionKind) : String :=
  match k with
  | .getter => "get"
  | .setter => "set"
  | _ => ""

/-- The change that puts a method or accessor on an object. -/
def methodChange (kind : FunctionKind) (f : Ref) (enumerable : Bool) : Change :=
  match kind with
  | .getter => { get := some (some f), enumerable := some enumerable, configurable := some true }
  | .setter => { set := some (some f), enumerable := some enumerable, configurable := some true }
  | _ => Change.ofProperty (.data (.object f) true enumerable true)

def newMethod (fr : Frame) (home : Ref) (k : Key) (f : FunctionNode) : Eval Ref :=
  newClosure fr f { name := memberName k (accessorLabel f.info.kind), home := some home }

def evalMember (ev : Evaluator) (fr : Frame) (target : Ref) (m : Member) : Eval Unit := do
  match m with
  | .property key e =>
    let k ← evalPropertyName ev fr key
    target.create k (← ev.named fr k.functionName e)
  | .prototype e =>
    match ← ev.expr fr e with
    | .object p => orRefuse (← target.setPrototype (some p))
    | .null => orRefuse (← target.setPrototype none)
    | _ => pure ()
  | .method key f =>
    let k ← evalPropertyName ev fr key
    let r ← newMethod fr target k f
    orRefuse (← target.defineOwn k (methodChange f.info.kind r true))
  | .spread e =>
    match ← ev.expr fr e with
    | .object source => eachEnumerable source [] target.create
    | _ => pure ()

def evalMembers (ev : Evaluator) (fr : Frame) (target : Ref) : List Member → Eval Unit
  | [] => pure ()
  | m :: rest => do
    evalMember ev fr target m
    evalMembers ev fr target rest

/-! ### Templates -/

/-- The values of a template and the texts between them, without the empty ones. -/
def templateParts : List Value → List Units → List Value
  | v :: values, u :: texts =>
    v :: (if u.isEmpty then [] else [.spelled u]) ++ templateParts values texts
  | values, _ => values

/-- A template calls `concat` of its first text, looked up before the values are evaluated. -/
def evalTemplate (ev : Evaluator) (fr : Frame) (texts : List Units) (values : List Expr) :
    Eval Value := do
  let first := Value.spelled (texts.headD [])
  if values.isEmpty then return first
  let concat ← getMemberNamed first "concat"
  let values ← evalItems ev fr (values.map .single)
  callValue concat first (templateParts values texts.tail)

def frozenArray (items : List Value) (extra : List (Key × Property)) : Eval Ref := do
  let r ← request (.make (some (.builtin (.object .arrayPrototype))) .array
    ((lengthKey, Property.fixed (.ofNat items.length))
      :: items.zipIdx.map (fun x => (Key.index x.2, Property.data x.1 false true false)) ++ extra))
  request (.close r)
  return r

/-- The object that a tag function receives for the texts. -/
def templateObject (cooked : List (Option Units)) (raw : List Units) : Eval Value := do
  let rawArray ← frozenArray (raw.map .spelled) []
  let texts := cooked.map fun u =>
    match u with
    | some u => Value.spelled u
    | none => .undefined
  return .object (← frozenArray texts [(Key.ofString "raw", .fixed (.object rawArray))])

/-! ### Calls -/

/-- The function of a call and its receiver. -/
def evalCallee (ev : Evaluator) (fr : Frame) (e : Expr) : Eval (Value × Value) := do
  match e with
  | .dot o n =>
    let base ← ev.expr fr o
    return (← getMember base (Key.ofUnits n), base)
  | .member o k =>
    let base ← ev.expr fr o
    let key ← ev.expr (fr.hold base) k
    return (← readComputed base key, base)
  | .privateMember o n =>
    let base ← ev.expr fr o
    return (← readSecret base (← secretKey fr n), base)
  | .superMember k =>
    let (parent, this) ← superBase fr
    return (← readSuper parent this (← ev.expr fr k), this)
  | .ident n =>
    match ← lookup n fr.env with
    | .member r => return (← r.get (Key.ofString n), .object r)
    | _ => return (← readVariable fr n, .undefined)
  | e => return (← ev.expr fr e, .undefined)

/-- A call of the function that evaluates text, under its own name. -/
def isTextCall (callee : Expr) (f : Value) : Bool :=
  match callee, f with
  | .ident "eval", .object (.builtin (.function (.global .evaluate))) => true
  | _, _ => false

def callWith (ev : Evaluator) (fr : Frame) (f this : Value) (args : List Item) : Eval Value := do
  let values ← evalItems ev ((fr.hold f).hold this) args
  callValue f this values

/-- Part of an optional chain: the value with its receiver, or `none` when the chain has ended. -/
def evalChain (ev : Evaluator) (fr : Frame) : Nat → Expr → Eval (Option (Value × Value))
  | 0, e => do return some (← ev.expr fr e, .undefined)
  | n + 1, e => do
    match e with
    | .optionalMember o k =>
      match ← evalChain ev fr n o with
      | none => return none
      | some (base, _) =>
        if base.isNullish then return none
        return some (← readComputed base (← ev.expr fr k), base)
    | .optionalSecret o name =>
      match ← evalChain ev fr n o with
      | none => return none
      | some (base, _) =>
        if base.isNullish then return none
        return some (← readSecret base (← secretKey fr name), base)
    | .optionalCall f args =>
      match ← evalChain ev fr n f with
      | none => return none
      | some (f, this) =>
        if f.isNullish then return none
        return some (← callWith ev fr f this args, .undefined)
    | .dot o name =>
      match ← evalChain ev fr n o with
      | none => return none
      | some (base, _) => return some (← getMember base (Key.ofUnits name), base)
    | .member o k =>
      match ← evalChain ev fr n o with
      | none => return none
      | some (base, _) => return some (← readComputed base (← ev.expr fr k), base)
    | .privateMember o name =>
      match ← evalChain ev fr n o with
      | none => return none
      | some (base, _) => return some (← readSecret base (← secretKey fr name), base)
    | .call f args =>
      match ← evalChain ev fr n f with
      | none => return none
      | some (f, this) => return some (← callWith ev fr f this args, .undefined)
    | .chain inner =>
      match ← evalChain ev fr n inner with
      | none => return some (.undefined, .undefined)
      | some r => return some r
    | .superMember _ | .ident _ =>
      let (f, this) ← evalCallee ev fr e
      return some (f, this)
    | e => return some (← ev.expr fr e, .undefined)

/-- How long an optional chain may be. -/
def linkLimit : Nat := 100000

def evalSuperCall (ev : Evaluator) (fr : Frame) (args : List Item) : Eval Value := do
  let active ← match findVariable "super()" fr.env with
    | some (c, _) => readCell "super" c
    | none => pure Value.undefined
  let newTarget ← match findVariable "new.target" fr.env with
    | some (c, _) => readCell "new.target" c
    | none => pure Value.undefined
  match active, newTarget with
  | .object f, .object target =>
    let parent ← f.getPrototype
    let values ← evalItems ev fr args
    match parent with
    | none => throwType "not a function"
    | some p =>
      if !(← isConstructor (.object p)) then throwType "not a constructor"
      let made ← construct p values target
      match findVariable "this" fr.env, made with
      | some (c, _), .object r =>
        if (← request (.readCell c)).isSome then
          throwReference "'this' can be initialized only once"
        request (.writeCell c (some made))
        match ← payload f with
        | .closure closure => initializeFields r closure.fields
        | _ => pure ()
        return made
      | _, _ => return made
  | _, _ => throwReference "super() is only valid in a derived class constructor"

def evalNew (ev : Evaluator) (fr : Frame) (callee : Expr) (args : List Item) : Eval Value := do
  let f ← ev.expr fr callee
  let values ← evalItems ev (fr.hold f) args
  constructValue f values

/-! ### Operators -/

def evalTypeof (ev : Evaluator) (fr : Frame) (e : Expr) : Eval Value := do
  match e with
  | .ident n =>
    match ← lookup n fr.env with
    | .global =>
      match ← readGlobal? n with
      | some v => return Value.text (← typeName v)
      | none => return Value.text "undefined"
    | _ => return Value.text (← typeName (← readVariable fr n))
  | e => return Value.text (← typeName (← ev.expr fr e))

def evalUnary (ev : Evaluator) (fr : Frame) (op : UnaryOp) (e : Expr) : Eval Value := do
  match op with
  | .typeOf => evalTypeof ev fr e
  | .plus => plus (← ev.expr fr e)
  | .minus => negate (← ev.expr fr e)
  | .not => return .bool !(← ev.expr fr e).truthy
  | .bitNot => bitNot (← ev.expr fr e)
  | .void =>
    discard (ev.expr fr e)
    return .undefined

def deleteMember (fr : Frame) (base : Value) (k : Key) : Eval Value := do
  let r ← toObject base
  let ok ← r.delete k
  if !ok && fr.strict then refuse .notDeletable
  return .bool ok

def evalDelete (ev : Evaluator) (fr : Frame) (e : Expr) : Eval Value := do
  match e with
  | .dot o n => deleteMember fr (← ev.expr fr o) (Key.ofUnits n)
  | .member o k =>
    let base ← ev.expr fr o
    deleteMember fr base (← toKey (← ev.expr fr k))
  | .chain inner =>
    match inner with
    | .optionalMember o k =>
      let base ← ev.expr fr o
      if base.isNullish then return .bool true
      deleteMember fr base (← toKey (← ev.expr fr k))
    | .dot o n =>
      match ← evalChain ev fr linkLimit o with
      | none => return .bool true
      | some (base, _) => deleteMember fr base (Key.ofUnits n)
    | e =>
      discard (ev.expr fr (.chain e))
      return .bool true
  | .superMember _ => throwReference "unsupported reference to 'super'"
  | .ident n =>
    match ← lookup n fr.env with
    | .cell .. => return .bool false
    | .member r | .declared r => return .bool (← r.delete (Key.ofString n))
    | .global =>
      match ← request (.findGlobal n) with
      | some _ => return .bool false
      | none => return .bool (← globalObject.delete (Key.ofString n))
  | e =>
    discard (ev.expr fr e)
    return .bool true

def isWithin (l r : Value) : Eval Value := do
  match r with
  | .object o => return .bool (← o.has (← toKey l))
  | _ => throwType "invalid 'in' operand"

def binaryOperation (op : BinaryOp) (a b : Value) : Eval Value := do
  match op with
  | .strictEq => return .bool (Value.strictEq a b)
  | .strictNe => return .bool !(Value.strictEq a b)
  | .looseEq => return .bool (← looseEq a b)
  | .looseNe => return .bool !(← looseEq a b)
  | .less => return .bool ((← compareValues a b) == some .lt)
  | .greater => return .bool ((← compareValues a b) == some .gt)
  | .lessEq =>
    let o ← compareValues a b
    return .bool (o == some .lt || o == some .eq)
  | .greaterEq =>
    let o ← compareValues a b
    return .bool (o == some .gt || o == some .eq)
  | .instanceOf => return .bool (← instanceOf a b)
  | .within => isWithin a b
  | op => arithmetic op a b

def evalBinary (ev : Evaluator) (fr : Frame) (op : BinaryOp) (l r : Expr) : Eval Value := do
  let a ← ev.expr fr l
  let b ← ev.expr (fr.hold a) r
  binaryOperation op a b

/-- Does the left operand alone decide? -/
def settles (op : LogicalOp) (v : Value) : Bool :=
  match op with
  | .and => !v.truthy
  | .or => v.truthy
  | .nullish => !v.isNullish

/-! ### Assignment -/

def targetName (e : Expr) : Units :=
  match e with
  | .ident n => Units.ofString n
  | _ => []

def evalAssign (ev : Evaluator) (fr : Frame) (p : Pattern) (e : Expr) : Eval Value := do
  match p with
  | .target t =>
    let place ← evalTarget ev fr t
    let v ← ev.named (place.held fr) (targetName t) e
    writeTarget fr place v
    return v
  | p =>
    let v ← ev.expr fr e
    ev.pattern fr .assign p v
    return v

def evalCompound (ev : Evaluator) (fr : Frame) (op : BinaryOp) (target e : Expr) : Eval Value := do
  let place ← settleTarget (← evalTarget ev fr target)
  let before ← readTarget place
  let v ← ev.expr ((place.held fr).hold before) e
  let result ← binaryOperation op before v
  writeTarget fr place result
  return result

def evalLogicalAssign (ev : Evaluator) (fr : Frame) (op : LogicalOp) (target e : Expr) :
    Eval Value := do
  let place ← settleTarget (← evalTarget ev fr target)
  let before ← readTarget place
  if settles op before then return before
  let v ← ev.named (place.held fr) (targetName target) e
  writeTarget fr place v
  return v

def evalUpdate (ev : Evaluator) (fr : Frame) (before increment : Bool) (target : Expr) :
    Eval Value := do
  let place ← settleTarget (← evalTarget ev fr target)
  let old ← toNumeric (← readTarget place)
  let new ← step increment old
  writeTarget fr place new
  return if before then new else old

/-! ### Generators -/

/-- Where an iteration whose items may be promises takes its answers from: an asynchronous iterator
answers by promises itself, an ordinary one is asked on the spot. -/
structure AsyncIteration where
  base : Iteration
  /-- the items come from an ordinary iterator -/
  plain : Bool

def iterateAsync (v : Value) : Eval AsyncIteration := do
  let method ← getMember v (.symbol symAsyncIterator)
  if method.isNullish then
    return ⟨← Iteration.ofIterator (← iteratorWith (← getMember v (.symbol symIterator)) v), true⟩
  else if ← isCallable method then
    return ⟨← Iteration.ofIterator (← iteratorWith method v), false⟩
  else throwType "value is not iterable"

/-- What an iterator is asked for. -/
inductive Wish where
  | next | throw | return
  deriving DecidableEq

/-- Settles the promise of an ordinary iterator's answer, with the value once that has settled. -/
def settleAnswer (cap : Capability) (answer : Value) : Eval Unit := do
  match answer with
  | .object r =>
    let done := (← r.getNamed "done").truthy
    let v ← r.getNamed "value"
    match ← promiseResolve (.object promiseConstructor) v with
    | .object p =>
      let unwrap ← newHelper (.iterResult done) 1
      performThen p (.object unwrap) .undefined cap.resolve cap.reject
    | _ => pure ()
  | _ => throwType "iterator must return an object"

/-- Asks an ordinary iterator; the answer is a promise, whatever happens. -/
def askPlain (it : Iteration) (wish : Wish) (args : List Value) : Eval Value := do
  let cap ← ownCapability
  let ask : Eval Unit := do
    let method ← match wish with
      | .next => pure (some it.next)
      | .throw => getMethod it.iterator (Key.ofString "throw")
      | .return => getMethod it.iterator (Key.ofString "return")
    match method, wish with
    | some f, _ => settleAnswer cap (← callValue f it.iterator args)
    | none, .return =>
      discard (callValue cap.resolve .undefined [← iterResult (args.headD .undefined) true])
    | none, _ =>
      it.close
      throwType "throw is not a method"
  match ← attempt ask with
  | .ok _ => pure ()
  | .error e => discard (callValue cap.reject .undefined [e])
  return cap.promise

/-- Asks for something and gives the answer as it comes; `none` when there is no method for it. -/
def AsyncIteration.ask (it : AsyncIteration) (wish : Wish) (args : List Value) : Eval (Option Value) := do
  if it.plain then return some (← askPlain it.base wish args)
  match wish with
  | .next => return some (← callValue it.base.next it.base.iterator args)
  | .throw => askFor "throw"
  | .return => askFor "return"
where
  askFor (name : String) : Eval (Option Value) := do
    match ← getMethod it.base.iterator (Key.ofString name) with
    | some f => return some (← callValue f it.base.iterator args)
    | none => return none

def AsyncIteration.step (fr : Frame) (it : AsyncIteration) : Eval (Option Value) := do
  match ← it.ask .next [] with
  | some answer =>
    let r ← needAnswer (← awaitValue fr answer)
    let done := (← r.getNamed "done").truthy
    let v ← r.getNamed "value"
    return if done then none else some v
  | none => return none

/-- Tells the iterator that no more items are wanted, without waiting for what it does. -/
def AsyncIteration.close (it : AsyncIteration) : Eval Unit := do
  match ← it.ask .return [] with
  | none | some (.object _) => return ()
  | some _ => throwType "not an object"

/-- Closes an iterator because of a thrown value, which stays the one that is thrown. -/
def AsyncIteration.abandon {α : Type} (it : AsyncIteration) (thrown : Value) : Eval α := do
  discard (attempt it.close)
  throwValue thrown

/-- Closes an iterator on the way out of the activation; an asynchronous generator waits for the
answer. -/
def AsyncIteration.leave (fr : Frame) (it : AsyncIteration) : Eval Unit := do
  if fr.isAsync && fr.isGenerator then
    match ← it.ask .return [] with
    | some answer => discard (awaitValue fr (.object (← needAnswer answer)))
    | none => return ()
  else it.close

/-- Makes the activation return `v`, at a point inside of it. -/
def returnFrom {α : Type} (fr : Frame) (v : Value) : Eval α := do
  if fr.isAsync then leaveWith fr (← awaitValue fr v) else leaveWith fr v

/-- What happens at the point where a generator was suspended. -/
def continueYield (fr : Frame) (r : Resumption) : Eval Value := do
  match r with
  | .next v => return v
  | .throw e => throwValue e
  | .return v => returnFrom fr v

def evalYield (ev : Evaluator) (fr : Frame) (e : Option Expr) : Eval Value := do
  let v ← match e with
    | some e => ev.expr fr e
    | none => pure .undefined
  let v ← if fr.isAsync then awaitValue fr v else pure v
  continueYield fr (← suspend fr v .yield)

/-- Passes requests on to another iterator until that one ends.  An ordinary generator hands on the
answers as they are. -/
def delegate (fr : Frame) (it : AsyncIteration) : Nat → Resumption → Eval Value
  | 0, _ => throwDeep
  | n + 1, input => do
    let settled (v : Value) : Eval Value := if fr.isAsync then awaitValue fr v else pure v
    let pass (r : Ref) : Eval Value := do
      if fr.isAsync then
        delegate fr it n (← suspend fr (← r.getNamed "value") .yield)
      else delegate fr it n (← suspend fr (.object r) .delegate)
    match input with
    | .next v =>
      let r ← needAnswer (← settled ((← it.ask .next [v]).getD .undefined))
      if (← r.getNamed "done").truthy then r.getNamed "value" else pass r
    | .throw e =>
      match ← it.ask .throw [e] with
      | some answer =>
        let r ← needAnswer (← settled answer)
        if (← r.getNamed "done").truthy then r.getNamed "value" else pass r
      | none =>
        match ← it.ask .return [] with
        | some answer => discard (settled answer)
        | none => pure ()
        throwType "iterator does not have a throw method"
    | .return v =>
      let v ← settled v
      match ← it.ask .return [v] with
      | some answer =>
        let r ← needAnswer (← settled answer)
        if (← r.getNamed "done").truthy then returnFrom fr (← r.getNamed "value") else pass r
      | none => returnFrom fr v

def evalYieldAll (ev : Evaluator) (fr : Frame) (e : Expr) : Eval Value := do
  let v ← ev.expr fr e
  let it ← if fr.isAsync then iterateAsync v else do pure ⟨← iterate v, false⟩
  delegate (fr.hold it.base.iterator) it loopLimit (.next .undefined)

/-! ### Modules -/

/-- A module asked for while the script runs; a job fetches it. -/
def evalImportCall (ev : Evaluator) (fr : Frame) (e : Expr) : Eval Value := do
  let specifier ← ev.expr fr e
  let cap ← ownCapability
  request (.enqueue (.importModule cap.resolve cap.reject fr.origin specifier))
  return cap.promise

/-! ### All expressions -/

def evalExpr (ev : Evaluator) (fr : Frame) (e : Expr) : Eval Value := do
  match e with
  | .undefined => return .undefined
  | .null => return .null
  | .bool b => return .bool b
  | .number x => return .ofFloat x
  | .bigint n => newBig n
  | .string u => if (Units.arrayIndex? u).isSome then newText u else return .spelled u
  | .regexp pattern flags =>
    construct (.builtin (.function (.regexp .constructor))) [.spelled pattern, .spelled flags]
      (.builtin (.function (.regexp .constructor)))
  | .template texts values => evalTemplate ev fr texts values
  | .taggedTemplate tag cooked raw values =>
    let (f, this) ← evalCallee ev fr tag
    let texts ← templateObject cooked raw
    let args ← evalItems ev fr (values.map .single)
    callValue f this (texts :: args)
  | .ident n => readVariable fr n
  | .this => readThis fr
  | .newTarget =>
    match findVariable "new.target" fr.env with
    | some (c, _) => readCell "new.target" c
    | none => return .undefined
  | .importMeta =>
    match findVariable "import.meta" fr.env with
    | some (c, _) => readCell "import.meta" c
    | none => return .undefined
  | .importCall e => evalImportCall ev fr e
  | .superMember k =>
    let (parent, this) ← superBase fr
    readSuper parent this (← ev.expr fr k)
  | .superCall args => evalSuperCall ev fr args
  | .array items => evalArray ev fr items
  | .object members =>
    let r ← newObject []
    evalMembers ev (fr.hold (.object r)) r members
    return .object r
  | .function f => return .object (← newClosure fr f { name := functionName f [] })
  | .classExpr c => ev.classDefinition fr c.name c
  | .unary op e => evalUnary ev fr op e
  | .delete e => evalDelete ev fr e
  | .binary op l r => evalBinary ev fr op l r
  | .logical op l r =>
    let v ← ev.expr fr l
    if settles op v then return v else ev.expr fr r
  | .privateIn n e =>
    let v ← ev.expr fr e
    let k ← secretKey fr n
    match v with
    | .object r => return .bool (← request (.own r k)).isSome
    | _ => throwType "invalid 'in' operand"
  | .conditional test yes no =>
    if (← ev.expr fr test).truthy then ev.expr fr yes else ev.expr fr no
  | .sequence l r =>
    discard (ev.expr fr l)
    ev.expr fr r
  | .update before increment target => evalUpdate ev fr before increment target
  | .assign p e => evalAssign ev fr p e
  | .compound op target e => evalCompound ev fr op target e
  | .logicalAssign op target e => evalLogicalAssign ev fr op target e
  | .dot o n => getMember (← ev.expr fr o) (Key.ofUnits n)
  | .member o k =>
    let base ← ev.expr fr o
    readComputed base (← ev.expr (fr.hold base) k)
  | .privateMember o n =>
    let base ← ev.expr fr o
    readSecret base (← secretKey fr n)
  | .call callee args =>
    let (f, this) ← evalCallee ev fr callee
    if isTextCall callee f then evalText ev fr (← evalItems ev fr args).head?
    else callWith ev fr f this args
  | .newCall callee args => evalNew ev fr callee args
  | .chain inner =>
    match ← evalChain ev fr linkLimit inner with
    | some (v, _) => return v
    | none => return .undefined
  | .optionalMember o k =>
    let base ← ev.expr fr o
    if base.isNullish then return .undefined
    readComputed base (← ev.expr fr k)
  | .optionalSecret o n =>
    let base ← ev.expr fr o
    if base.isNullish then return .undefined
    readSecret base (← secretKey fr n)
  | .optionalCall f args =>
    let (f, this) ← evalCallee ev fr f
    if f.isNullish then return .undefined
    callWith ev fr f this args
  | .yield e => evalYield ev fr e
  | .yieldAll e => evalYieldAll ev fr e
  | .await e => awaitValue fr (← ev.expr fr e)
  | .placed name e => ev.named fr name e

/-- An expression that may take its name from the place its value goes to. -/
def evalNamed (ev : Evaluator) (fr : Frame) (name : Units) (e : Expr) : Eval Value := do
  match e with
  | .function f => return .object (← newClosure fr f { name := functionName f name })
  | .classExpr c => ev.classDefinition fr (if c.name == "" then Units.toLossy name else c.name) c
  | e => ev.expr fr e

end ScriptBridge.Script
