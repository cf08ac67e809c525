import ScriptBridge.Bridge.World

/-!
Marshalling: slots of the host and values of the script, each made from the other.

Encoding keeps what is no number, boolean or big integer in the ledger, staged.  Decoding reads
the ledger and changes nothing.  A value that the host keeps is classified by two properties: a
number under `targetKey` makes it a host object, a number under `classKey` a host class.
-/
namespace ScriptBridge

open Data Text Script Script.Script

/-- Property with the token of a projected instance or wrapped function. -/
def targetKey : Key := Key.ofString "_$tar"

/-- Property with the number of a projected class. -/
def classKey : Key := Key.ofString "_$class"

/-! ### Encoding and decoding -/

/-- Big integers cross as their low 64 bits. -/
def lowInt64 (i : Int) : Int64 := Int64.ofInt i

namespace Bridge

def stage (b : Bridge) (v : Value) : Handle × Bridge :=
  let (h, l) := b.ledger.stage v
  (h, { b with ledger := l }.note (.issued h))

/-- The slot of a value; what has no kind of slot becomes null. -/
def encode (b : Bridge) (v : Value) : Slot × Bridge :=
  match v with
  | .int i => (.int32 i, b)
  | .double x => (.double x, b)
  | .bool x => (.bool x, b)
  | .bigint i _ => (.int64 (lowInt64 i), b)
  | .string _ _ =>
    let (h, b) := b.stage v
    (.scriptString h, b)
  | .object _ =>
    let (h, b) := b.stage v
    (.scriptValue h, b)
  | .undefined | .null | .symbol _ => (.null, b)

def encodeAll (b : Bridge) : List Value → List Slot × Bridge
  | [] => ([], b)
  | v :: rest =>
    let (s, b) := b.encode v
    let (more, b) := b.encodeAll rest
    (s :: more, b)

/-- An integer of 64 bits as a number of the script. -/
def numberOfInt64 (n : Int64) : Value :=
  if -2147483648 ≤ n.toInt && n.toInt ≤ 2147483647 then .int (Int32.ofInt n.toInt)
  else .double (Numeral.floatOfInt n.toInt)

def decode (b : Bridge) (s : Slot) : Except BridgeFault Value :=
  match s with
  | .null => .ok .null
  | .int32 n => .ok (.int n)
  | .int64 n => .ok (numberOfInt64 n)
  | .double x => .ok (.double x)
  | .bool x => .ok (.bool x)
  | .text t => .ok (.text t)
  | .rawPointer _ => .ok .undefined
  | .promise id => (b.promises.get id).map PendingPromise.target
  | .scriptString h | .scriptValue h | .managed h | .hostClass _ h | .hostObject _ h =>
    b.ledger.get h

def decodeAll (b : Bridge) : List Slot → Except BridgeFault (List Value)
  | [] => .ok []
  | s :: rest =>
    match b.decode s with
    | .ok v => (b.decodeAll rest).map (v :: ·)
    | .error f => .error f

/-- An object argument: a live handle of a value that is an object. -/
def object (b : Bridge) (s : Slot) : Except BridgeFault Ref :=
  match s.objectHandle? with
  | none => .error .wrongArguments
  | some h =>
    match b.ledger.get h with
    | .error f => .error f
    | .ok v =>
      match v with
      | .object r => .ok r
      | _ => .error .wrongArguments

end Bridge

/-- Host text of script text, unless a surrogate stands alone in it. -/
def hostText (u : Units) : Except BridgeFault String :=
  match Units.toText u with
  | .ok t => .ok t
  | .error n => .error (.engine (.illFormed n))

/-- The text of a string argument. -/
def Bridge.stringOf (b : Bridge) (s : Slot) : Except BridgeFault String :=
  match s with
  | .text t => .ok t
  | .scriptString h =>
    match b.ledger.get h with
    | .error f => .error f
    | .ok v =>
      match v with
      | .string u _ => hostText u
      | _ => .error .wrongArguments
  | _ => .error .wrongArguments

/-! ### Classification -/

/-- The number that an object shows under a key; scripts on the way may fail without harm. -/
def marker {ρ : Type} (r : Ref) (k : Key) : Script ρ (Option Float) := do
  match ← attempt (r.has k) with
  | .ok true =>
    match ← attempt (r.get k) with
    | .ok v => return v.float?
    | .error _ => return none
  | _ => return none

/-- The slot under which the host holds a value. -/
def classify {ρ : Type} (h : Handle) (v : Value) : Script ρ Slot := do
  match v with
  | .string _ _ => return .scriptString h
  | .object r =>
    match ← marker r targetKey with
    | some x => return .hostObject (Number.saturatingUInt64 x) h
    | none =>
      match ← marker r classKey with
      | some x => return .hostClass (Number.saturatingInt32 x) h
      | none => return .managed h
  | _ => return .managed h

/-- The name of a value's type in messages. -/
def shownType {ρ : Type} (v : Value) : Script ρ String := do
  match v with
  | .undefined => return "undefined"
  | .null => return "null"
  | .bool _ => return "bool"
  | .int _ => return "int"
  | .double _ => return "float"
  | .bigint _ _ => return "big_int"
  | .string _ _ => return "string"
  | .symbol _ => return "symbol"
  | .object r =>
    if (← attempt (isArray v)) matches .ok true then return "array"
    if ← isConstructor v then return "constructor"
    match (← look r).kind with
    | .script (.promise _) => return "promise"
    | .script .error => return "exception"
    | k => return if k.callable then "function" else "object"

/-! ### Operations -/

namespace Runner

variable {σ : Type} (run : Runner σ)

/-- Stages a value and classifies it. -/
def stageClassified (v : Value) : Act σ Slot := do
  let (h, b) := (← Act.bridge).stage v
  Act.setBridge b
  run.script (classify h v)

/-- Has the host hold a value by one reference that is its own. -/
def hold (v : Value) : Act σ Slot := do
  let b ← Act.bridge
  let (h, l) := b.ledger.insert v 1
  Act.setBridge ({ b with ledger := l }.note (.issued h))
  run.script (classify h v)

/-- One more reference for the host. -/
def retain (s : Slot) : Act σ Slot := do
  let b ← Act.bridge
  match s.handle? with
  | none => Act.fault .wrongArguments
  | some h =>
    let v ← Act.orFault (b.ledger.get h)
    let l ← Act.orFault (b.ledger.addRef h)
    Act.setBridge ({ b with ledger := l }.note (.retained h))
    run.script (classify h v)

/-- One reference of the host less. -/
def release (s : Slot) : Act σ Unit := do
  let b ← Act.bridge
  match s.handle? with
  | none => Act.fault .wrongArguments
  | some h =>
    let (_, l) ← Act.orFault (b.ledger.release h)
    Act.setBridge ({ b with ledger := l }.note (.released h))

/-- The text of any slot, as `String` makes it in a script. -/
def stringify (s : Slot) : Act σ String := do
  let v ← Act.orFault ((← Act.bridge).decode s)
  Act.orFault (hostText (← run.script (toUnits v)))

/-- A promise that the host will complete. -/
def newPromise : Act σ Slot := do
  let c ← run.script (ownCapability : Script Capability Capability)
  let b ← Act.bridge
  let p : PendingPromise := ⟨c.promise, c.resolve, c.reject⟩
  let (id, t) := b.promises.insert p
  Act.setBridge ({ b with promises := t }.note (.promised id p))
  return .promise id

end Runner

end ScriptBridge
