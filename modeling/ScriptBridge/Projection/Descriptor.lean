/-!
Class descriptors: the shape that the host gives to a projected class.

A member's flags decide what it is; a member's position in the list is the number under which
its calls reach the host.
-/
namespace ScriptBridge

inductive MemberKind where
  | method | getter | setter
  deriving Repr, DecidableEq

def MemberKind.name : MemberKind → String
  | .method => "Method"
  | .getter => "Getter"
  | .setter => "Setter"

structure MemberFlags where
  bits : UInt32
  deriving Repr, DecidableEq

namespace MemberFlags

def function : MemberFlags := ⟨1⟩
def constructor : MemberFlags := ⟨2⟩
def getter : MemberFlags := ⟨4⟩
def setter : MemberFlags := ⟨8⟩
def static : MemberFlags := ⟨16⟩

/-- Every bit of `b` is set in `a`. -/
def contains (a b : MemberFlags) : Bool := a.bits &&& b.bits == b.bits

def union (a b : MemberFlags) : MemberFlags := ⟨a.bits ||| b.bits⟩

def isStatic (f : MemberFlags) : Bool := f.contains static

/-- What the member is; constructors and members without a known bit are nothing. -/
def kind? (f : MemberFlags) : Option MemberKind :=
  if f.contains constructor then none
  else if f.contains function then some .method
  else if f.contains getter then some .getter
  else if f.contains setter then some .setter
  else none

end MemberFlags

structure MemberDescriptor where
  name : String
  flags : MemberFlags
  deriving Repr, DecidableEq

structure ClassDescriptor where
  name : String
  members : List MemberDescriptor
  deriving Repr, DecidableEq

/-- How a member's calls travel. -/
structure MemberRoute where
  name : String
  kind : MemberKind
  isStatic : Bool
  deriving Repr, DecidableEq

/-- One route for each member, in order; members that are nothing have none. -/
def ClassDescriptor.routes (d : ClassDescriptor) : List (Option MemberRoute) :=
  d.members.map fun m => m.flags.kind?.map fun k => ⟨m.name, k, m.flags.isStatic⟩

/-! ### Accessors -/

/-- A getter and a setter under one name, by the positions of their members. -/
structure AccessorPair where
  name : String
  isStatic : Bool
  getter : Option Nat
  setter : Option Nat
  deriving Repr, DecidableEq

namespace AccessorPair

/-- The pair with one side set to `position`. -/
def assign (p : AccessorPair) (kind : MemberKind) (position : Nat) : AccessorPair :=
  match kind with
  | .getter => { p with getter := some position }
  | .setter => { p with setter := some position }
  | .method => p

def isFor (p : AccessorPair) (r : MemberRoute) : Bool := p.name == r.name && p.isStatic == r.isStatic

/-- Enters an accessor into the pair of its name, or into a new pair at the end. -/
def enter (r : MemberRoute) (position : Nat) : List AccessorPair → List AccessorPair
  | [] => [AccessorPair.assign ⟨r.name, r.isStatic, none, none⟩ r.kind position]
  | p :: rest => if p.isFor r then p.assign r.kind position :: rest else p :: enter r position rest

/-- The pairs of a list of routes, in the order in which their names first come up. -/
def ofRoutes (routes : List (Option MemberRoute)) : List AccessorPair :=
  routes.zipIdx.foldl (fun pairs r =>
    match r.1 with
    | some route => if route.kind == .method then pairs else enter route r.2 pairs
    | none => pairs) []

end AccessorPair

end ScriptBridge
