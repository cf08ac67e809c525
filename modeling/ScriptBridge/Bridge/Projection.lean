import ScriptBridge.Bridge.Callback

/-!
Projection: classes and functions of the host as objects of the script.

A projected object is of kind `host`: its class and its token are in its kind, where no script
can change them, and its token also stands in a fixed property for everybody to read.  A
construction draws its token before the host is asked; a member call goes to the host only from
an instance of the very class that the member belongs to.
-/
namespace ScriptBridge

open Data Text Script Script.Script

/-! ### Host objects -/

/-- A token as the number that scripts see. -/
def tokenValue (token : UInt64) : Value := .ofFloat token.toFloat

/-- Members that every function of the host has. -/
def hostFunctionMembers (name : Option String) : List (Key × Property) :=
  (lengthKey, .data (.int 0) false false true)
    :: (match name with
      | some n => [(Key.ofString "name", .data (.text n) false false true)]
      | none => [])

/-- An object of the host's side. -/
def hostObject (h : HostData) (proto : Ref) (members : List (Key × Property)) : Obj :=
  members.foldl (fun o m => o.put m.1 m.2) ⟨some proto, true, .host h, .empty, []⟩

def functionPrototype : Ref := .builtin (.object .functionPrototype)

namespace Runner

variable {σ : Type}

/-- Makes an object of the host's side. -/
def makeHost (h : HostData) (proto : Ref) (members : List (Key × Property)) : Act σ Ref := do
  let (r, e) := (← Act.engine).allocateObj (hostObject h proto members)
  Act.setEngine e
  return r

def makeHostFunction (h : HostData) (name : Option String) : Act σ Ref :=
  makeHost h functionPrototype (hostFunctionMembers name)

/-- A token that was never drawn before. -/
def drawToken : Act σ UInt64 := do
  let b ← Act.bridge
  let token := b.lastToken + 1
  Act.setBridge ({ b with lastToken := token }.note (.drawn token))
  return token

/-! ### Conversions -/

variable (run : Runner σ)

def conversionFault {α : Type} (v : Value) (target : String) : Act σ α := do
  Act.fault (.engine (.conversion (← run.script (shownType v)) target))

def asObject (v : Value) : Act σ Ref :=
  match v with
  | .object r => pure r
  | v => conversionFault run v "object"

def asFunction (v : Value) : Act σ Ref := do
  match v, ← run.script (isCallable v) with
  | .object r, true => return r
  | v, _ => conversionFault run v "function"

/-- Faults of conversion become errors of the script. -/
def thrownFaults {α : Type} (m : Act σ α) : Act σ α := fun w =>
  match m w with
  | .ok a w => .ok a w
  | .error e w =>
    match e with
    | .fault f => (run.throwFault f : Act σ α) w
    | e => .error e w

/-! ### Construction -/

def isSentinel (b : Bridge) (args : List Value) : Bool :=
  match args, b.intrinsics with
  | [only], some i => Value.identical only i.sentinel
  | _, _ => false

/-- An object of the host's side that carries a token. -/
def makeCarrier (h : HostData) (token : UInt64) (proto : Ref) (members : List (Key × Property)) :
    Act σ Ref := do
  let r ← makeHost h proto (members ++ [(targetKey, .fixed (tokenValue token))])
  Act.note (.made token)
  return r

/-- A projected instance. -/
def makeInstance (classId : Int32) (token : UInt64) (proto : Ref) : Act σ Value := do
  let r ← makeCarrier (.instance classId token) token proto []
  Act.note (.built r classId token)
  return .object r

/-- A step of a construction; when it fails, the token's object will never be made. -/
def approving {α : Type} (token : UInt64) (m : Act σ α) : Act σ α := fun w =>
  match m w with
  | .ok a w => .ok a w
  | .error e w => .error e { w with bridge := w.bridge.note (.refused token) }

/-- A reply to a construction: any value is an approval. -/
def approval (r : Reply) : Act σ Unit :=
  match r with
  | .done | .value _ => pure ()
  | r => do discard (run.replyValue r)

/-- Asks the host for its approval. -/
def approve (host : Host σ) (classId : Int32) (token : UInt64) (args : List Value) : Act σ Unit := do
  run.checkArity args.length ((← Act.bridge).maxArguments - 2)
  run.callHost host .constructor [.int32 classId, .rawPointer token] args run.approval

/-- What a projected constructor runs; `newTarget` is the receiver of a plain call. -/
def constructInstance (host : Host σ) (classId : Int32) (newTarget : Value) (args : List Value) :
    Act σ Value := do
  match newTarget, ← run.script (isCallable newTarget) with
  | .object target, true =>
    let proto ← thrownFaults run (do asObject run (← run.script (target.getNamed "prototype")))
    let sentinel := isSentinel (← Act.bridge) args
    let token ← drawToken
    if !sentinel then approving token (approve run host classId token args)
    makeInstance classId token proto
  | _, _ => run.throwNew .typeError "Class constructor cannot be invoked without 'new'"

/-! ### Members -/

/-- The token of an instance of the class; `none` for every other receiver. -/
def instanceToken (classId : Int32) (this : Value) : Act σ (Option UInt64) := do
  match this with
  | .object r =>
    match ((← Act.engine).obj r).kind with
    | .host (.instance owner _) =>
      if owner == classId then
        return (← run.script (marker r targetKey)).map Number.saturatingUInt64
      else return none
    | _ => return none
  | _ => return none

/-- The script's arguments that a call of this kind sends on. -/
def sentArguments (kind : MemberKind) (args : List Value) : List Value :=
  match kind with
  | .getter => []
  | .setter => [args.headD .undefined]
  | .method => args

/-- What comes before the script's arguments in a member call. -/
def memberSlots (classId : Int32) (position : Nat) (route : MemberRoute) (this : Value) :
    Act σ (List Slot) :=
  let fixed : List Slot := [.int32 classId, .int32 (Int32.ofNat position)]
  if route.isStatic then pure fixed
  else do
    match ← instanceToken run classId this with
    | some token => return fixed ++ [.rawPointer token]
    | none => run.throwNew .typeError "Illegal invocation"

/-- Sends the call of a member to the host. -/
def sendMember (host : Host σ) (classId : Int32) (position : Nat) (route : MemberRoute) (this : Value)
    (args : List Value) : Act σ Value := do
  let fixed ← memberSlots run classId position route this
  if route.kind == .method then
    run.checkArity args.length ((← Act.bridge).maxArguments - fixed.length)
  run.callHost host .call fixed (sentArguments route.kind args) run.replyValue

/-- What a member function runs. -/
def callMember (host : Host σ) (classId : Int32) (position : Nat) (this : Value)
    (args : List Value) : Act σ Value := do
  match (← Act.bridge).classes.route? classId position with
  | none => run.throwFault .wrongArguments
  | some route =>
    Act.note (.asked classId position route this)
    sendMember run host classId position route this args

/-! ### Wrapped functions -/

/-- What a wrapped function runs. -/
def callWrapped (host : Host σ) (token : UInt64) (args : List Value) : Act σ Value := do
  run.checkArity args.length ((← Act.bridge).maxArguments - 1)
  run.callHost host .callFunction [.rawPointer token] args run.replyValue

/-- A function that calls the host, with a token of its own. -/
def makeWrapped : Act σ Ref := do
  let token ← drawToken
  makeCarrier (.wrapped token) token functionPrototype (hostFunctionMembers none)

/-- A function of the script that calls the host. -/
def wrapFunction : Act σ Slot := do run.stageClassified (.object (← makeWrapped))

/-! ### Registration -/

def defineMember (r : Ref) (k : Key) (p : Property) : Act σ Unit :=
  run.script (do orRefuse (← r.defineOwn k (Change.ofProperty p)))

/-- Puts the methods in their places. -/
def installMethods (classId : Int32) (constructor prototype : Ref) :
    List (Option MemberRoute × Nat) → Act σ Unit
  | [] => pure ()
  | (none, _) :: rest => installMethods classId constructor prototype rest
  | (some route, position) :: rest => do
    if route.kind == .method then
      let f ← makeHostFunction (.member classId position) (some route.name)
      defineMember run (if route.isStatic then constructor else prototype)
        (Key.ofString route.name) (.hidden (.object f))
    installMethods classId constructor prototype rest

/-- One side of an accessor, when there is one. -/
def installSide (classId : Int32) (name side : String) (description : Ref) (position : Option Nat) :
    Act σ Unit := do
  match position with
  | some n =>
    let f ← makeHostFunction (.member classId n) (some name)
    run.script (description.setNamed side (.object f))
  | none => return ()

/-- Puts the accessors in their places, by the script's own `Object.defineProperty`. -/
def installAccessors (classId : Int32) (constructor prototype define : Ref) :
    List AccessorPair → Act σ Unit
  | [] => pure ()
  | p :: rest => do
    let description ← run.script (newObject [] : Script Ref Ref)
    installSide run classId p.name "get" description p.getter
    installSide run classId p.name "set" description p.setter
    run.script (description.setNamed "configurable" (.bool true))
    let target := if p.isStatic then constructor else prototype
    discard (run.script
      (call define .undefined [.object target, .text p.name, .object description]))
    installAccessors classId constructor prototype define rest

/-- Shows a class to scripts under its name; the host holds the constructor. -/
def registerClass (d : ClassDescriptor) (classId : Int32) : Act σ Slot := do
  if ((← Act.bridge).classes.lookup classId).isSome then Act.fault (.duplicateClass classId)
  let routes := d.routes
  let prototype ← run.script (newObject [] : Script Ref Ref)
  let constructor ← makeHostFunction (.constructor classId) (some d.name)
  defineMember run constructor (Key.ofString "prototype") (.fixed (.object prototype))
  defineMember run prototype (Key.ofString "constructor") (.hidden (.object constructor))
  defineMember run constructor classKey (.fixed (.int classId))
  installMethods run classId constructor prototype routes.zipIdx
  let objects ← asObject run (← run.script (globalObject.getNamed "Object"))
  let define ← asFunction run (← run.script (objects.getNamed "defineProperty"))
  installAccessors run classId constructor prototype define (AccessorPair.ofRoutes routes)
  run.script (globalObject.setNamed d.name (.object constructor))
  let b ← Act.bridge
  Act.setBridge { b with
    classes := b.classes ++ [(classId, ⟨d.name, routes, .object constructor, .object prototype⟩)] }
  run.hold (.object constructor)

end Runner

end ScriptBridge
