import ScriptBridge.Script.Eval.Function

/-!
Places that take values: names, members, and the structures of destructuring.
-/
namespace ScriptBridge.Script

open Text Script

/-! ### Targets -/

/-- A place whose parts have been evaluated. -/
inductive Target where
  | variable (n : Name) (p : Place)
  | member (base : Value) (k : Key)
  | computed (base key : Value)
  | secret (base : Value) (k : Key)
  | super (parent : Option Ref) (this key : Value)
  | none

/-- The key of a private name. -/
def secretKey (fr : Frame) (n : Name) : Eval Key := do
  match findVariable n fr.env with
  | some (c, _) =>
    match ← readCell n c with
    | .symbol s => return .symbol s
    | _ => notDefined n
  | _ => notDefined n

def secretMissing {α : Type} (k : Key) : Eval α :=
  throwUnits .typeError
    (Units.ofString "private class field '" ++ k.shown ++ Units.ofString "' does not exist")

/-- The private member of an object. -/
def ownSecret (base : Value) (k : Key) : Eval (Ref × Property) := do
  match base with
  | .object r =>
    match ← request (.own r k), k.secret? with
    | some p, _ => return (r, p)
    | none, some .field => secretMissing k
    | none, _ => throwType "invalid brand on object"
  | _ => throwType "not an object"

/-- Reads a private member; the name alone shows whether that can be done at all. -/
def readSecret (base : Value) (k : Key) : Eval Value := do
  if !(k.secret?.all Secret.isReadable) then refuse (.readOnly k)
  match ← ownSecret base k with
  | (_, .data v _ _ _) => return v
  | (_, .accessor (some g) _ _ _) => call g base []
  | _ => return .undefined

def writeSecret (base : Value) (k : Key) (v : Value) : Eval Unit := do
  if !(k.secret?.all Secret.isWritable) then refuse (.readOnly k)
  match ← ownSecret base k with
  | (r, .data ..) => discard (request (.define r k { value := some v }))
  | (_, .accessor _ (some s) _ _) => discard (call s base [v])
  | _ => return ()

/-- Parent object and receiver of `super`. -/
def superBase (fr : Frame) : Eval (Option Ref × Value) := do
  let this ← readThis fr
  match findVariable "super" fr.env with
  | some (c, _) =>
    match ← readCell "super" c with
    | .object home => return (← home.getPrototype, this)
    | _ => return (none, this)
  | none => return (none, this)

def evalTarget (ev : Evaluator) (fr : Frame) (e : Expr) : Eval Target := do
  match e with
  | .ident n => return .variable n (← lookup n fr.env)
  | .dot o n => return .member (← ev.expr fr o) (Key.ofUnits n)
  | .member o k =>
    let base ← ev.expr fr o
    return .computed base (← ev.expr (fr.hold base) k)
  | .privateMember o n =>
    let base ← ev.expr fr o
    return .secret base (← secretKey fr n)
  | .superMember k =>
    let (parent, this) ← superBase fr
    return .super parent this (← ev.expr fr k)
  | e =>
    discard (ev.expr fr e)
    return .none

def Target.held (t : Target) (fr : Frame) : Frame :=
  match t with
  | .member base _ => fr.hold base
  | .computed base key => (fr.hold base).hold key
  | .secret base _ => fr.hold base
  | _ => fr

/-- A target that is read and then written: its key is computed once. -/
def settleTarget (t : Target) : Eval Target := do
  match t with
  | .computed base key =>
    if base.isNullish then throwType "value has no property"
    return .member base (← toKey key)
  | .super parent this key => return .super parent this (← toKey key).toValue
  | t => return t

def readComputed (base key : Value) : Eval Value := do
  match base with
  | .undefined | .null => throwType ("cannot read property of " ++ nullishName base)
  | .object r => r.get (← toKey key)
  | base => getMember base (← toKey key)

def readSuper (parent : Option Ref) (this key : Value) : Eval Value := do
  let k ← toKey key
  match parent with
  | some p => get chainLimit p k this
  | none => readOfNullish .null k

def readTarget (t : Target) : Eval Value := do
  match t with
  | .variable n p =>
    match p with
    | .cell c _ => readCell n c
    | .member r | .declared r => r.get (Key.ofString n)
    | .global =>
      match ← readGlobal? n with
      | some v => return v
      | none => notDefined n
  | .member base k => getMember base k
  | .computed base key => readComputed base key
  | .secret base k => readSecret base k
  | .super parent this key => readSuper parent this key
  | .none => return .undefined

def writeTarget (fr : Frame) (t : Target) (v : Value) : Eval Unit := do
  match t with
  | .variable n p => writePlace fr n p v
  | .member base k => setMember fr.strict base k v
  | .computed base key => setMember fr.strict base (← toKey key) v
  | .secret base k => writeSecret base k v
  | .super parent this key =>
    let k ← toKey key
    match parent with
    | some p =>
      let refusal ← set chainLimit p k v this
      if fr.strict then orRefuse refusal
    | none => throwType "not an object"
  | .none => throwReference "invalid assignment left-hand side"

/-! ### Names of properties -/

def evalPropertyName (ev : Evaluator) (fr : Frame) (p : PropertyName) : Eval Key := do
  match p with
  | .fixed u => return Key.ofUnits u
  | .computed e => toKey (← ev.expr fr e)
  | .secret n => secretKey fr n

/-! ### Patterns -/

/-- Sets or initializes a place that is no structure. -/
def bindPlace (ev : Evaluator) (fr : Frame) (mode : BindMode) (e : Expr) (v : Value) : Eval Unit := do
  match mode, e with
  | .declare, .ident n => initializeVariable fr n v
  | _, .ident n => writeVariable fr n v
  | _, e => writeTarget fr (← evalTarget ev fr e) v

def needAnswer (v : Value) : Eval Ref := do
  match v with
  | .object r => return r
  | _ => throwType "iterator must return an object"

/-- Closes an iterator on the way out of the activation; an asynchronous generator waits for the
answer. -/
def leaveIteration (fr : Frame) (it : Iteration) : Eval Unit := do
  if fr.isAsync && fr.isGenerator then
    match ← getMethod it.iterator (Key.ofString "return") with
    | some f => discard (awaitValue fr (.object (← needAnswer (← callValue f it.iterator []))))
    | none => return ()
  else it.close

/-- The place of an item, where its parts are evaluated before the item is fetched. -/
def itemPlace (ev : Evaluator) (fr : Frame) (mode : BindMode) (p : Pattern) : Eval (Option Target) := do
  match mode, p with
  | .assign, .target (.ident _) => return none
  | .assign, .target e => return some (← evalTarget ev fr e)
  | _, _ => return none

/-- Gives an item, or else its default, to its place. -/
def placeItem (ev : Evaluator) (fr : Frame) (mode : BindMode) (p : Pattern) (place : Option Target)
    (v : Value) (d : Option Expr) : Eval Unit := do
  match place with
  | some t => writeTarget fr t (← valueOrDefault ev (t.held fr) (patternName p) v d)
  | none => ev.pattern fr mode p (← valueOrDefault ev fr (patternName p) v d)

/-- One item, or `undefined` when there is none; the flag says that the end has been reached. -/
def nextItem (it : Iteration) (done : Bool) : Eval (Value × Bool) := do
  if done then return (.undefined, true)
  match ← it.step with
  | some v => return (v, false)
  | none => return (.undefined, true)

/-- Runs a part of a pattern; the iterator of its items is closed when the part fails or leaves,
unless it has ended. -/
def closingIteration {α : Type} (fr : Frame) (it : Iteration) (done : Bool) (f : Frame → Eval α) :
    Eval α :=
  if done then f fr else tryCatch (withCleanup fr (leaveIteration fr it) f) fun e => it.abandon e

def bindItems (ev : Evaluator) (fr : Frame) (mode : BindMode) (it : Iteration) :
    Bool → List PatternItem → Eval Unit
  | done, [] => if done then pure () else it.close
  | done, .hole :: rest => do
    let (_, done) ← nextItem it done
    bindItems ev fr mode it done rest
  | done, .rest p :: _ => do
    let place ← closingIteration fr it done fun fr => itemPlace ev fr mode p
    let items ← if done then pure [] else it.toListFrom loopLimit []
    placeItem ev fr mode p place (.object (← newArray items)) none
  | done, .single p d :: rest => do
    let place ← closingIteration fr it done fun fr => itemPlace ev fr mode p
    let (v, done) ← nextItem it done
    closingIteration fr it done fun fr => placeItem ev fr mode p place v d
    bindItems ev fr mode it done rest

def bindProperties (ev : Evaluator) (fr : Frame) (mode : BindMode) (v : Value) :
    List Key → List PatternProperty → Eval Unit
  | _, [] => pure ()
  | seen, .rest p :: _ => do
    let place ← itemPlace ev fr mode p
    let r ← newObject []
    eachEnumerable (← toObject v) seen r.create
    placeItem ev fr mode p place (.object r) none
  | seen, .single key p d :: rest => do
    let k ← evalPropertyName ev fr key
    let place ← itemPlace ev fr mode p
    placeItem ev fr mode p place (← getMember v k) d
    bindProperties ev fr mode v (k :: seen) rest

def evalPattern (ev : Evaluator) (fr : Frame) (mode : BindMode) (p : Pattern) (v : Value) :
    Eval Unit := do
  match p with
  | .target e => bindPlace ev fr mode e v
  | .array items =>
    let it ← iterate v
    bindItems ev (fr.hold it.iterator) mode it false items
  | .object properties =>
    if v.isNullish then throwType "Cannot convert undefined or null to object"
    bindProperties ev (fr.hold v) mode v [] properties

end ScriptBridge.Script
