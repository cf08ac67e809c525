/-!
Slots: the fixed-shape values that host and engine exchange.

A slot says what it is by its constructor; what it means in a position is decided by the action
that it is an argument of.  References are not in the slot: it carries a handle into the ledger.
-/
namespace ScriptBridge

/-- Key of the ledger. -/
structure Handle where
  id : UInt32
  deriving Repr, DecidableEq

/-- Key of the table of pending promises. -/
structure PromiseId where
  id : UInt32
  deriving Repr, DecidableEq

inductive Slot where
  | null
  | int32 (n : Int32)
  | int64 (n : Int64)
  | double (x : Float)
  | bool (b : Bool)
  /-- text of the host; decoding makes a new script string of it -/
  | text (s : String)
  | scriptString (h : Handle)
  | scriptValue (h : Handle)
  /-- constructor of a projected class -/
  | hostClass (classId : Int32) (h : Handle)
  /-- projected instance or wrapped function of the host -/
  | hostObject (token : UInt64) (h : Handle)
  | rawPointer (p : UInt64)
  | promise (id : PromiseId)
  /-- a value of which the host holds one reference -/
  | managed (h : Handle)
  deriving Repr

instance : Inhabited Slot := ⟨.null⟩

/-- What kind of slot it is, without its content. -/
inductive SlotTag where
  | null | int32 | int64 | double | bool | text | scriptString | scriptValue
  | hostClass | hostObject | rawPointer | promise | managed
  deriving Repr, DecidableEq

namespace SlotTag

def all : List SlotTag :=
  [.null, .int32, .int64, .double, .bool, .text, .scriptString, .scriptValue,
   .hostClass, .hostObject, .rawPointer, .promise, .managed]

/-- Tags are numbered from zero in the order of `all`. -/
def code : SlotTag → Int
  | .null => 0
  | .int32 => 1
  | .int64 => 2
  | .double => 3
  | .bool => 4
  | .text => 5
  | .scriptString => 6
  | .scriptValue => 7
  | .hostClass => 8
  | .hostObject => 9
  | .rawPointer => 10
  | .promise => 11
  | .managed => 12

def ofCode? (n : Int) : Option SlotTag := all.find? fun t => t.code == n

/-- The tag's name in interchange text. -/
def name : SlotTag → String
  | .null => "Null"
  | .int32 => "Int32"
  | .int64 => "Int64"
  | .double => "Double"
  | .bool => "Bool"
  | .text => "String"
  | .scriptString => "JsString"
  | .scriptValue => "JsValue"
  | .hostClass => "HostClass"
  | .hostObject => "HostObject"
  | .rawPointer => "RawPointer"
  | .promise => "Promise"
  | .managed => "Managed"

end SlotTag

namespace Slot

def tag : Slot → SlotTag
  | .null => .null
  | .int32 _ => .int32
  | .int64 _ => .int64
  | .double _ => .double
  | .bool _ => .bool
  | .text _ => .text
  | .scriptString _ => .scriptString
  | .scriptValue _ => .scriptValue
  | .hostClass _ _ => .hostClass
  | .hostObject _ _ => .hostObject
  | .rawPointer _ => .rawPointer
  | .promise _ => .promise
  | .managed _ => .managed

/-- The handle that the slot carries. -/
def handle? : Slot → Option Handle
  | .scriptString h | .scriptValue h | .managed h => some h
  | .hostClass _ h | .hostObject _ h => some h
  | _ => none

/-- The handle of a slot that may stand for an object: any but a script string's. -/
def objectHandle? : Slot → Option Handle
  | .scriptString _ => none
  | s => s.handle?

def int32? : Slot → Option Int32
  | .int32 n => some n
  | _ => none

def text? : Slot → Option String
  | .text s => some s
  | _ => none

def isString : Slot → Bool
  | .text _ | .scriptString _ => true
  | _ => false

def isNull : Slot → Bool
  | .null => true
  | _ => false

end Slot

end ScriptBridge
