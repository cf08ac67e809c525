import ScriptBridge.Json.Printer
import ScriptBridge.Json.Record
import ScriptBridge.Projection.Descriptor
import ScriptBridge.Protocol.Action

/-!
Slots, codes and class descriptors as interchange text.

Each type has a tree (`toTree`) and a reader.  A slot is a variant under its tag's name, a code
its name, a class descriptor a record whose list of members may be left out.
-/
namespace ScriptBridge

open JsonReader

/-! ### Slots -/

/-- A double; without a number there is no numeral. -/
def floatTree (x : Float) : JsonTree :=
  if Number.isFinite x then .number (.float x) else .null

namespace Slot

/-- The content of a slot, with nothing for the empty one. -/
def content? : Slot → Option JsonTree
  | .null => none
  | .int32 n => some (.ofInt n.toInt)
  | .int64 n => some (.ofInt n.toInt)
  | .double x => some (floatTree x)
  | .bool b => some (.bool b)
  | .text s => some (.text s)
  | .scriptString h => some (.ofNat h.id.toNat)
  | .scriptValue h => some (.ofNat h.id.toNat)
  | .hostClass c h => some (.object [("class_id", .ofInt c.toInt), ("handle", .ofNat h.id.toNat)])
  | .hostObject t h => some (.object [("token", .ofNat t.toNat), ("handle", .ofNat h.id.toNat)])
  | .rawPointer p => some (.ofNat p.toNat)
  | .promise p => some (.ofNat p.id.toNat)
  | .managed h => some (.ofNat h.id.toNat)

def toTree (s : Slot) : JsonTree :=
  match s.content? with
  | none => .text s.tag.name
  | some t => .object [(s.tag.name, t)]

def handleReader : JsonReader Handle := map Handle.mk uint32

/-- A number and a handle, as they come in. -/
structure Pair (α : Type) where
  first : Option α
  handle : Option Handle

def Pair.empty {α : Type} : Pair α := ⟨none, none⟩

/-- A record of a number called `name` and a handle. -/
def pairRecord {α β : Type} (tag name : String) (read : JsonReader α) (make : α → Handle → β) :
    Record (Pair α) β where
  expected := "struct variant Slot::" ++ tag
  fields :=
    [⟨name, fun p => p.first.isSome, map (fun a p => { p with first := some a }) read⟩,
     ⟨"handle", fun p => p.handle.isSome, map (fun h p => { p with handle := some h }) handleReader⟩]
  start := .empty
  build p := do return make (← required name p.first) (← required "handle" p.handle)

/-- What a slot of a tag holds. -/
def contentOf : SlotTag → Content Slot
  | .null => .unit .null
  | .int32 => .single (map .int32 JsonReader.int32)
  | .int64 => .single (map .int64 JsonReader.int64)
  | .double => .single (map .double float)
  | .bool => .single (map .bool JsonReader.bool)
  | .text => .single (map .text JsonReader.text)
  | .scriptString => .single (map .scriptString handleReader)
  | .scriptValue => .single (map .scriptValue handleReader)
  | .hostClass => .fields (record (pairRecord SlotTag.hostClass.name "class_id" JsonReader.int32 .hostClass))
  | .hostObject => .fields (record (pairRecord SlotTag.hostObject.name "token" uint64 .hostObject))
  | .rawPointer => .single (map .rawPointer uint64)
  | .promise => .single (map (fun n => .promise ⟨n⟩) uint32)
  | .managed => .single (map .managed handleReader)

def reader : JsonReader Slot := variant (SlotTag.all.map fun t => ⟨t.name, contentOf t⟩)

end Slot

/-! ### Codes -/

def SlotTag.reader : JsonReader SlotTag := choice SlotTag.all SlotTag.name

def Action.reader : JsonReader Action := choice Action.all Action.name

def Callback.reader : JsonReader Callback := choice Callback.all Callback.name

def PrintLevel.reader : JsonReader PrintLevel := choice PrintLevel.all PrintLevel.name

/-! ### Class descriptors -/

namespace MemberDescriptor

def toTree (m : MemberDescriptor) : JsonTree :=
  .object [("name", .text m.name), ("flags", .ofNat m.flags.bits.toNat)]

structure Given where
  name : Option String
  flags : Option MemberFlags

def reader : JsonReader MemberDescriptor :=
  record (σ := Given) {
    expected := "struct MemberDescriptor"
    fields :=
      [⟨"name", fun g => g.name.isSome,
        map (fun n (g : Given) => { g with name := some n }) JsonReader.text⟩,
       ⟨"flags", fun g => g.flags.isSome,
        map (fun n (g : Given) => { g with flags := some ⟨n⟩ }) uint32⟩]
    start := ⟨none, none⟩
    build := fun g => do return ⟨← required "name" g.name, ← required "flags" g.flags⟩ }

end MemberDescriptor

namespace ClassDescriptor

def toTree (d : ClassDescriptor) : JsonTree :=
  .object [("name", .text d.name), ("members", .list (d.members.map MemberDescriptor.toTree))]

structure Given where
  name : Option String
  members : Option (List MemberDescriptor)

def reader : JsonReader ClassDescriptor :=
  record (σ := Given) {
    expected := "struct ClassDescriptor"
    fields :=
      [⟨"name", fun g => g.name.isSome,
        map (fun n (g : Given) => { g with name := some n }) JsonReader.text⟩,
       ⟨"members", fun g => g.members.isSome,
        map (fun l (g : Given) => { g with members := some l }) (list MemberDescriptor.reader)⟩]
    start := ⟨none, none⟩
    build := fun g => do return ⟨← required "name" g.name, g.members.getD []⟩ }

end ClassDescriptor

end ScriptBridge
