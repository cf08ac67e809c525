import ScriptBridge.Json.Scalar

/-!
Reading values of a given shape.

A reader is given how many levels of nesting are still allowed, and the text.  It says which
shape it expected when it finds another.  `tree` takes any value, and `skip` passes over one
that nobody asked for.
-/
namespace ScriptBridge

/-- Reads a value: levels of nesting left, text, then the value and the text after it. -/
abbrev JsonReader (α : Type) := Nat → Source → Except JsonFault (α × Source)

namespace JsonReader

open Source

/-- Levels of nesting that text may have. -/
def depthLimit : Nat := 128

/-- One level further in. -/
def descend : Nat → Except JsonFault Nat
  | 0 | 1 => .error .tooDeep
  | depth + 2 => .ok (depth + 1)

/-! ### Scalars -/

/-- A value whose head `accept` takes; `expected` names it. -/
def scalar {α : Type} (expected : String) (accept : JsonHead → Option (Except JsonFault α)) :
    JsonReader α := fun _ s => do
  let (h, rest) ← head s
  match accept h with
  | some r => return (← r, rest)
  | none => .error (.wrongType h expected)

def text : JsonReader String :=
  scalar "a string" fun h =>
    match h with
    | .text t => some (.ok t)
    | _ => none

def bool : JsonReader Bool :=
  scalar "a boolean" fun h =>
    match h with
    | .bool b => some (.ok b)
    | _ => none

def unit : JsonReader Unit :=
  scalar "unit" fun h =>
    match h with
    | .null => some (.ok ())
    | _ => none

/-- A whole number from `least` to `greatest`. -/
def integer (expected : String) (least greatest : Int) : JsonReader Int :=
  scalar expected fun h =>
    match h with
    | .number n =>
      match n.int? with
      | some i =>
        some (if least ≤ i && i ≤ greatest then .ok i else .error (.outOfRange n expected))
      | none => none
    | _ => none

def map {α β : Type} (f : α → β) (read : JsonReader α) : JsonReader β := fun depth s => do
  let (a, rest) ← read depth s
  return (f a, rest)

def int32 : JsonReader Int32 :=
  map Int32.ofInt (integer "i32" (-2147483648) 2147483647)

def int64 : JsonReader Int64 :=
  map Int64.ofInt (integer "i64" (-9223372036854775808) 9223372036854775807)

def uint32 : JsonReader UInt32 :=
  map (fun i => UInt32.ofNat i.toNat) (integer "u32" 0 4294967295)

def uint64 : JsonReader UInt64 :=
  map (fun i => UInt64.ofNat i.toNat) (integer "u64" 0 18446744073709551615)

/-- A count of something in memory. -/
def size : JsonReader UInt64 :=
  map (fun i => UInt64.ofNat i.toNat) (integer "usize" 0 18446744073709551615)

def float : JsonReader Float :=
  scalar "f64" fun h =>
    match h with
    | .number n => some (.ok n.toFloat)
    | _ => none

/-! ### Lists -/

/-- Items up to the closing bracket; `fuel` is at least their number. -/
def itemsOf {α : Type} (item : JsonReader α) (depth : Nat) :
    Nat → Bool → Source → Except JsonFault (List α × Source)
  | 0, _, _ => .error .endInList
  | fuel + 1, first, s => do
    match ← nextItem first s with
    | none => return ([], s)
    | some s =>
      let (a, rest) ← item depth s
      let (more, rest) ← itemsOf item depth fuel false rest
      return (a :: more, rest)

def list {α : Type} (item : JsonReader α) : JsonReader (List α) := fun depth s => do
  match ← head s with
  | (.list, rest) =>
    let depth ← descend depth
    let (items, rest) ← itemsOf item depth (rest.length + 1) true rest
    return (items, ← endList rest)
  | (h, _) => .error (.wrongType h "a sequence")

/-! ### Any value -/

mutual

/-- Any value; `fuel` is more than the text is long. -/
def treeOf (fuel : Nat) : JsonReader JsonTree := fun depth s =>
  match fuel with
  | 0 => .error .endInValue
  | fuel + 1 => do
    match ← head s with
    | (.null, rest) => return (.null, rest)
    | (.bool b, rest) => return (.bool b, rest)
    | (.number n, rest) => return (.number n, rest)
    | (.text t, rest) => return (.text t, rest)
    | (.list, rest) =>
      let depth ← descend depth
      let (items, rest) ← treeItems fuel depth true rest
      return (.list items, ← endList rest)
    | (.object, rest) =>
      let depth ← descend depth
      let (members, rest) ← treeMembers fuel depth true rest
      return (.ofMembers members, ← endObject rest)

def treeItems (fuel depth : Nat) (first : Bool) (s : Source) :
    Except JsonFault (List JsonTree × Source) :=
  match fuel with
  | 0 => .error .endInList
  | fuel + 1 => do
    match ← nextItem first s with
    | none => return ([], s)
    | some s =>
      let (t, rest) ← treeOf fuel depth s
      let (more, rest) ← treeItems fuel depth false rest
      return (t :: more, rest)

/-- Members in the order in which they are written. -/
def treeMembers (fuel depth : Nat) (first : Bool) (s : Source) :
    Except JsonFault (List (String × JsonTree) × Source) :=
  match fuel with
  | 0 => .error .endInObject
  | fuel + 1 => do
    match ← nextKey first s with
    | none => return ([], s)
    | some s =>
      let (k, rest) ← quoted s
      let (t, rest) ← treeOf fuel depth (← colon rest)
      let (more, rest) ← treeMembers fuel depth false rest
      return ((k, t) :: more, rest)

end

def tree : JsonReader JsonTree := fun depth s => treeOf (2 * s.length + 2) depth s

/-! ### Values that nobody asked for -/

mutual

def skipValue (fuel : Nat) (s : Source) : Except JsonFault Source :=
  match fuel with
  | 0 => .error .endInValue
  | fuel + 1 =>
    match skipBlanks s with
    | [] => .error .endInValue
    | p :: rest =>
      match p with
      | some 'n' => word ['u', 'l', 'l'] rest
      | some 't' => word ['r', 'u', 'e'] rest
      | some 'f' => word ['a', 'l', 's', 'e'] rest
      | some '-' => skipNumeral rest
      | some '"' => skipQuoted (rest.length + 1) rest
      | some '[' =>
        match skipBlanks rest with
        | [] => .error .endInList
        | some ']' :: rest => .ok rest
        | rest => skipItems fuel rest
      | some '\x7b' =>
        match skipBlanks rest with
        | [] => .error .endInObject
        | some '\x7d' :: rest => .ok rest
        | rest => skipMembers fuel rest
      | p => if isDigit p then skipNumeral (p :: rest) else .error .expectedValue

/-- At least one item, and the closing bracket. -/
def skipItems (fuel : Nat) (s : Source) : Except JsonFault Source :=
  match fuel with
  | 0 => .error .endInList
  | fuel + 1 => do
    let rest ← skipValue fuel s
    match skipBlanks rest with
    | [] => .error .endInList
    | some ',' :: rest => skipItems fuel rest
    | some ']' :: rest => .ok rest
    | _ => .error .expectedListEnd

def skipMembers (fuel : Nat) (s : Source) : Except JsonFault Source :=
  match fuel with
  | 0 => .error .endInObject
  | fuel + 1 => do
    match skipBlanks s with
    | [] => .error .endInObject
    | some '"' :: rest =>
      let rest ← skipQuoted (rest.length + 1) rest
      let rest ← skipValue fuel (← colon rest)
      match skipBlanks rest with
      | [] => .error .endInObject
      | some ',' :: rest => skipMembers fuel rest
      | some '\x7d' :: rest => .ok rest
      | _ => .error .expectedObjectEnd
    | _ => .error .keyNotText

end

def skip (s : Source) : Except JsonFault Source := skipValue (2 * s.length + 2) s

/-! ### Whole texts -/

/-- A value and nothing after it. -/
def run {α : Type} (read : JsonReader α) (s : Source) : Except JsonFault α := do
  let (a, rest) ← read depthLimit s
  finish rest
  return a

end JsonReader

end ScriptBridge
