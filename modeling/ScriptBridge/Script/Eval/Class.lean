import ScriptBridge.Script.Eval.Expression

/-!
Classes.

A class is a constructor and a prototype that know each other.  Its private names are fresh
symbols, and what every instance receives is planned once and kept with the constructor.
-/
namespace ScriptBridge.Script

open Text Script

/-- What a function in a class makes of its private name. -/
def secretOfKind : FunctionKind → Secret
  | .getter => .getter
  | .setter => .setter
  | _ => .method

/-- What the elements of a class declare a private name to be. -/
def declaredSecret (n : Name) : List ClassElement → Option Secret
  | [] => none
  | .method _ (.secret m) f :: rest =>
    if m == n then
      let s := secretOfKind f.info.kind
      some (((declaredSecret n rest).map s.join).getD s)
    else declaredSecret n rest
  | .field _ (.secret m) _ :: rest => if m == n then some .field else declaredSecret n rest
  | _ :: rest => declaredSecret n rest

/-- Fresh symbols for the private names of a class. -/
def bindSecrets (fr : Frame) (elements : List ClassElement) : List Name → Eval Frame
  | [] => pure fr
  | n :: rest => do
    let s ← request (.newSymbol (some (Units.ofString n))
      (some ((declaredSecret n elements).getD .field)))
    let fr ← bindVariable fr n .constant (some (.symbol s))
    bindSecrets fr elements rest

/-- Prototype of the prototype and prototype of the constructor. -/
structure Parents where
  prototype : Option Ref
  constructor : Ref

def evalParents (ev : Evaluator) (fr : Frame) (parent : Option Expr) : Eval Parents := do
  let objectProto := some (Ref.builtin (.object .objectPrototype))
  let functionProto := Ref.builtin (.object .functionPrototype)
  match parent with
  | none => return ⟨objectProto, functionProto⟩
  | some e =>
    match ← ev.expr fr e with
    | .null => return ⟨none, functionProto⟩
    | .object r =>
      if !(← isConstructor (.object r)) then throwType "parent class must be constructor"
      match ← r.getNamed "prototype" with
      | .object p => return ⟨some p, r⟩
      | .null => return ⟨none, r⟩
      | _ => throwType "parent prototype must be an object or null"
    | _ => throwType "parent class must be constructor"

/-- Joins the two halves of a private accessor. -/
def mergeSecret (k : Key) (p : Property) : List FieldPlan → List FieldPlan
  | [] => [.secretMethod k p]
  | .secretMethod k' p' :: rest =>
    if k' == k then
      let merged := match p', p with
        | .accessor g none e c, .accessor none s _ _ => Property.accessor g s e c
        | .accessor none s e c, .accessor g none _ _ => .accessor g s e c
        | _, p => p
      .secretMethod k merged :: rest
    else .secretMethod k' p' :: mergeSecret k p rest
  | f :: rest => f :: mergeSecret k p rest

/-- A function or class that is the whole value of a field takes the field's name. -/
def nameFieldValue (f : FunctionNode) (name : Units) : FunctionNode :=
  match f with
  | .mk i ps [.returnValue (some e)] => .mk i ps [.returnValue (some (.placed name e))]
  | f => f

/-- What has been gathered from the elements of a class. -/
structure ClassParts where
  methods : List FieldPlan
  fields : List FieldPlan
  /-- functions that run once with the constructor as receiver, with the key they fill -/
  statics : List (Option Key × Ref)

def evalElement (ev : Evaluator) (fr : Frame) (ctor proto : Ref) (parts : ClassParts) (x : ClassElement) :
    Eval ClassParts := do
  match x with
  | .method isStatic key f =>
    let target := if isStatic then ctor else proto
    let k ← evalPropertyName ev fr key
    let r ← newMethod fr target k f
    let change := methodChange f.info.kind r false
    if k.isSecret then
      let p := match f.info.kind with
        | .getter => Property.accessor (some r) none false false
        | .setter => .accessor none (some r) false false
        | _ => .data (.object r) false false false
      if isStatic then
        match ← request (.own ctor k), p with
        | some (.accessor g none _ _), .accessor none s _ _ =>
          discard (request (.delete ctor k))
          discard (request (.define ctor k (Change.ofProperty (.accessor g s false true))))
        | some (.accessor none s _ _), .accessor g none _ _ =>
          discard (request (.define ctor k (Change.ofProperty (.accessor g s false true))))
        | _, .accessor g s _ _ =>
          discard (request (.define ctor k (Change.ofProperty (.accessor g s false true))))
        | _, p => discard (request (.define ctor k (Change.ofProperty p)))
        return parts
      else return { parts with methods := mergeSecret k p parts.methods }
    else
      orRefuse (← target.defineOwn k change)
      return parts
  | .field isStatic key init =>
    let k ← evalPropertyName ev fr key
    let target := if isStatic then ctor else proto
    let r ← newClosure fr (nameFieldValue init k.functionName) { name := [], home := some target }
    if isStatic then return { parts with statics := parts.statics ++ [(some k, r)] }
    else return { parts with fields := parts.fields ++ [.field k r] }
  | .block f =>
    let r ← newClosure fr f { name := [], home := some ctor }
    return { parts with statics := parts.statics ++ [(none, r)] }

def evalClassElements (ev : Evaluator) (fr : Frame) (ctor proto : Ref) :
    ClassParts → List ClassElement → Eval ClassParts
  | parts, [] => pure parts
  | parts, x :: rest => do
    let parts ← evalElement ev fr ctor proto parts x
    evalClassElements ev fr ctor proto parts rest

def runStatics (ctor : Ref) : List (Option Key × Ref) → Eval Unit
  | [] => pure ()
  | (key, f) :: rest => do
    match key with
    | some k => initializeFields ctor [.field k f]
    | none => discard (call f (.object ctor) [])
    runStatics ctor rest

/-- Evaluates a class that shows the name `shown`. -/
def evalClass (ev : Evaluator) (fr : Frame) (shown : Name) (c : ClassNode) : Eval Value := do
  match c with
  | .mk name _ parent constructor secrets elements =>
    let fr ← if name == "" then pure fr else bindVariable fr name .constant none
    let fr ← bindSecrets { fr with strict := true } elements secrets
    let parents ← evalParents ev fr parent
    let proto ← request (.make parents.prototype .ordinary [])
    let ctor ← newClosure fr constructor
      { name := Units.ofString shown, home := some proto, proto := some parents.constructor }
    discard (request (.define ctor (Key.ofString "prototype")
      (Change.ofProperty (.fixed (.object proto)))))
    discard (request (.define proto (Key.ofString "constructor")
      (Change.ofProperty (.hidden (.object ctor)))))
    let fr := (fr.hold (.object proto)).hold (.object ctor)
    let parts ← evalClassElements ev fr ctor proto ⟨[], [], []⟩ elements
    match ← payload ctor with
    | .closure closure =>
      request (.revise ctor (.closure { closure with fields := parts.methods ++ parts.fields }))
    | _ => pure ()
    if name != "" then initializeVariable fr name (.object ctor)
    runStatics ctor parts.statics
    return .object ctor

end ScriptBridge.Script
