import ScriptBridge.Script.Promise

/-!
Frames: what the evaluator knows where it stands, and variables.

A variable is a cell of the heap; a cell without a value is one that has not been initialized.
A frame that can be suspended notes every variable that it makes, because the values stay alive
while the activation waits.
-/
namespace ScriptBridge.Script

open Text Script

/-- Pieces of an activation's script; its result is the value of the activation. -/
abbrev Eval (α : Type) : Type := Script Value α

structure Frame where
  env : Env
  /-- bindings of the function itself, without those of blocks -/
  scope : Env
  strict : Bool
  /-- script or module that the text belongs to -/
  origin : String
  isAsync : Bool
  isGenerator : Bool
  /-- the activation, if it can be suspended -/
  task : Option NodeId
  /-- operands that wait for the rest of their expression -/
  held : List Value
  /-- variable for the value of the last statement, in text whose value is wanted -/
  result : Option NodeId
  /-- leaves the activation with a value, through the finalizers around this point -/
  leave : Value → Prog Value

/-- How a statement ended. -/
inductive Completion where
  | normal
  | break (label : Option Name)
  | continue (label : Option Name)
  | return (v : Value)

/-- What a pattern does with a name: set a variable that exists, or give one its first value. -/
inductive BindMode where
  | assign | declare
  deriving Repr, DecidableEq

structure Evaluator where
  expr : Frame → Expr → Eval Value
  /-- an expression whose function or class takes a name from where its value goes -/
  named : Frame → Units → Expr → Eval Value
  pattern : Frame → BindMode → Pattern → Value → Eval Unit
  statement : Frame → List Name → Stmt → Eval Completion
  statements : Frame → List Stmt → Eval Completion
  classDefinition : Frame → Name → ClassNode → Eval Value

namespace Frame

def hold (fr : Frame) (v : Value) : Frame :=
  match fr.task with
  | some _ => { fr with held := v :: fr.held }
  | none => fr

end Frame

/-! ### Cells -/

/-- Notes a variable of a suspendable activation, in place of the one that stood there before. -/
def noteLocal (task : NodeId) (n : Name) (place : Nat) (cell : NodeId) : Eval Unit := do
  match ← request (.readTask task) with
  | some t =>
    let others := t.locals.filter fun l => !(l.1 == n && l.2.1 == place)
    request (.writeTask task { t with locals := (n, place, cell) :: others })
  | none => return ()

/-- A new variable of the frame. -/
def bindVariable (fr : Frame) (n : Name) (mode : VariableMode) (v : Option Value) : Eval Frame := do
  let cell ← request (.newCell v)
  match fr.task with
  | some t => noteLocal t n fr.env.length cell
  | none => pure ()
  return { fr with env := .variable n cell mode :: fr.env }

def bindVariables (fr : Frame) (mode : VariableMode) (v : Option Value) : List Name → Eval Frame
  | [] => pure fr
  | n :: rest => do
    let fr ← bindVariable fr n mode v
    bindVariables fr mode v rest

/-- Variables of a block, none of them with a value yet. -/
def bindLexical (fr : Frame) : List LexicalName → Eval Frame
  | [] => pure fr
  | l :: rest => do
    let fr ← bindVariable fr l.name (if l.constant then .constant else .mutable) none
    bindLexical fr rest

/-! ### Names -/

/-- Where a name leads. -/
inductive Place where
  | cell (c : NodeId) (mode : VariableMode)
  | member (r : Ref)
  /-- a variable that evaluated text has declared -/
  | declared (r : Ref)
  | global

/-- Does an object of a `with` statement stand for the name? -/
def holdsName (r : Ref) (n : Name) : Eval Bool := do
  let k := Key.ofString n
  if !(← r.has k) then return false
  match ← r.get (.symbol symUnscopables) with
  | .object u => return !(← u.get k).truthy
  | _ => return true

def lookup (n : Name) : Env → Eval Place
  | [] => pure .global
  | .variable m c mode :: rest => if m == n then pure (.cell c mode) else lookup n rest
  | .object r :: rest => do
    if ← holdsName r n then return .member r else lookup n rest
  | .declared r :: rest => do
    if ← r.has (Key.ofString n) then return .declared r else lookup n rest

/-- The first variable of this name, objects left aside. -/
def findVariable (n : Name) : Env → Option (NodeId × VariableMode)
  | [] => none
  | .variable m c mode :: rest => if m == n then some (c, mode) else findVariable n rest
  | .object _ :: rest | .declared _ :: rest => findVariable n rest

def globalObject : Ref := .builtin (.object .globalObject)

def notDefined {ρ α : Type} (n : Name) : Script ρ α := throwReference (Units.shownName n ++ " is not defined")

def notInitialized {ρ α : Type} (n : Name) : Script ρ α := throwReference (Units.shownName n ++ " is not initialized")

def readCell (n : Name) (c : NodeId) : Eval Value := do
  match ← request (.readCell c) with
  | some v => return v
  | none => notInitialized n

/-- The value of a global name, or `none` when nothing has it. -/
def readGlobal? (n : Name) : Eval (Option Value) := do
  match ← request (.findGlobal n) with
  | some (c, _) => return some (← readCell n c)
  | none =>
    let k := Key.ofString n
    if ← globalObject.has k then return some (← globalObject.get k) else return none

def readVariable (fr : Frame) (n : Name) : Eval Value := do
  match ← lookup n fr.env with
  | .cell c _ => readCell n c
  | .member r | .declared r => r.get (Key.ofString n)
  | .global =>
    match ← readGlobal? n with
    | some v => return v
    | none => notDefined n

def writeChecked (strict : Bool) (n : Name) (c : NodeId) (mode : VariableMode) (v : Value) :
    Eval Unit := do
  match mode with
  | .mutable =>
    if (← request (.readCell c)).isNone then notInitialized n
    request (.writeCell c (some v))
  | .constant =>
    if (← request (.readCell c)).isNone then notInitialized n
    refuse (.readOnly (Key.ofString n))
  | .self => if strict then refuse (.readOnly (Key.ofString n))

def writeGlobal (strict : Bool) (n : Name) (v : Value) : Eval Unit := do
  match ← request (.findGlobal n) with
  | some (c, constant) => writeChecked strict n c (if constant then .constant else .mutable) v
  | none =>
    let k := Key.ofString n
    if strict then
      if !(← globalObject.has k) then notDefined n
    setMember strict (.object globalObject) k v

/-- Assigns to a place that was looked up before. -/
def writePlace (fr : Frame) (n : Name) (p : Place) (v : Value) : Eval Unit := do
  match p with
  | .cell c mode => writeChecked fr.strict n c mode v
  | .member r | .declared r => setMember fr.strict (.object r) (Key.ofString n) v
  | .global => writeGlobal fr.strict n v

def writeVariable (fr : Frame) (n : Name) (v : Value) : Eval Unit := do
  writePlace fr n (← lookup n fr.env) v

/-- Gives a declared variable its first value. -/
def initializeVariable (fr : Frame) (n : Name) (v : Value) : Eval Unit := do
  match findVariable n fr.env with
  | some (c, _) => request (.writeCell c (some v))
  | none =>
    match ← request (.findGlobal n) with
    | some (c, _) => request (.writeCell c (some v))
    | none => writeGlobal fr.strict n v

def readThis (fr : Frame) : Eval Value := do
  match findVariable "this" fr.env with
  | some (c, _) => readCell "this" c
  | none => return .object globalObject

/-! ### Waiting -/

/-- Notes the operands that the activation keeps while it waits. -/
def noteHeld (task : NodeId) (held : List Value) : Eval Unit := do
  match ← request (.readTask task) with
  | some t => request (.writeTask task { t with held := held })
  | none => return ()

/-- Suspends the activation until it is resumed. -/
def suspend (fr : Frame) (v : Value) (p : Pause) : Eval Resumption := do
  match fr.task with
  | some t => noteHeld t fr.held
  | none => pure ()
  request (.suspend v p)

def awaitValue (fr : Frame) (v : Value) : Eval Value := do
  match ← suspend fr v .await with
  | .next v => return v
  | .throw v => throwValue v
  | .return v => return v

/-- Leaves the activation from inside an expression. -/
def leaveWith {α : Type} (fr : Frame) (v : Value) : Eval α := fun _ _ => fr.leave v

/-- Runs `f` so that leaving the activation from inside it does `cleanup` first. -/
def withCleanup {α : Type} (fr : Frame) (cleanup : Eval Unit) (f : Frame → Eval α) : Eval α :=
  fun k e => f { fr with leave := fun v => cleanup (fun _ => fr.leave v) e } k e

end ScriptBridge.Script
