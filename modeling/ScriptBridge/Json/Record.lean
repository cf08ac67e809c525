import ScriptBridge.Json.Reader

/-!
Reading records and variants.

A record is an object of its fields in any order, or a list of them in theirs; fields of other
names are passed over.  A variant is its name, or an object that holds its content under its
name.
-/
namespace ScriptBridge.JsonReader

open Source

/-! ### Records -/

/-- A field of a record that is being collected in `σ`. -/
structure Field (σ : Type) where
  name : String
  /-- has it been given? -/
  isGiven : σ → Bool
  read : JsonReader (σ → σ)

/-- A record: how it is called, its fields, and how it is made of what was collected, or which
field is missing for that. -/
structure Record (σ α : Type) where
  expected : String
  fields : List (Field σ)
  start : σ
  build : σ → Except String α

/-- Members of a record up to the closing bracket. -/
def members {σ : Type} (fields : List (Field σ)) (depth : Nat) :
    Nat → Bool → σ → Source → Except JsonFault (σ × Source)
  | 0, _, _, _ => .error .endInObject
  | fuel + 1, first, given, s => do
    match ← nextKey first s with
    | none => return (given, s)
    | some s =>
      let (key, rest) ← quoted s
      match fields.find? fun f => f.name == key with
      | some f =>
        if f.isGiven given then .error (.duplicateField f.name)
        else
          let (put, rest) ← f.read depth (← colon rest)
          members fields depth fuel false (put given) rest
      | none => members fields depth fuel false given (← skip (← colon rest))

/-- Fields in their order, as many as there are. -/
def positions {σ : Type} (depth : Nat) :
    List (Field σ) → Bool → σ → Source → Except JsonFault (σ × Source)
  | [], _, given, s => .ok (given, s)
  | f :: more, first, given, s => do
    match ← nextItem first s with
    | none => return (given, s)
    | some s =>
      let (put, rest) ← f.read depth s
      positions depth more false (put given) rest

def countOf (n : Nat) (what : String) : String :=
  toString n ++ " " ++ what ++ (if n == 1 then "" else "s")

def record {σ α : Type} (r : Record σ α) : JsonReader α := fun depth s => do
  match ← head s with
  | (.object, rest) =>
    let depth ← descend depth
    let (given, rest) ← members r.fields depth (rest.length + 1) true r.start rest
    match r.build given with
    | .ok a => return (a, ← endObject rest)
    | .error name => .error (.missingField name)
  | (.list, rest) =>
    let depth ← descend depth
    let (given, rest) ← positions depth r.fields true r.start rest
    match r.build given with
    | .ok a => return (a, ← endList rest)
    | .error name =>
      let place := (r.fields.takeWhile fun f => f.name != name).length
      .error (.wrongLength place (r.expected ++ " with " ++ countOf r.fields.length "element"))
  | (h, _) => .error (.wrongType h r.expected)

/-- A field that was given, or its name. -/
def required {α : Type} (name : String) : Option α → Except String α
  | some a => .ok a
  | none => .error name

/-! ### Variants -/

inductive Content (α : Type) where
  | unit (a : α)
  /-- one value -/
  | single (read : JsonReader α)
  /-- fields -/
  | fields (read : JsonReader α)

structure Variant (α : Type) where
  name : String
  content : Content α

def findVariant {α : Type} (variants : List (Variant α)) (name : String) :
    Except JsonFault (Variant α) :=
  match variants.find? fun v => v.name == name with
  | some v => .ok v
  | none => .error (.unknownVariant name (variants.map Variant.name))

/-- A variant without content. -/
def Variant.bare {α : Type} (v : Variant α) : Except JsonFault α :=
  match v.content with
  | .unit a => .ok a
  | .single _ => .error (.bareVariant "newtype variant")
  | .fields _ => .error (.bareVariant "struct variant")

def Variant.read {α : Type} (v : Variant α) : JsonReader α :=
  match v.content with
  | .unit a => map (fun _ => a) unit
  | .single read | .fields read => read

/-- The name of a variant, as a value. -/
def variantName : JsonReader String :=
  scalar "variant identifier" fun h =>
    match h with
    | .text t => some (.ok t)
    | _ => none

def variant {α : Type} (variants : List (Variant α)) : JsonReader α := fun depth s => do
  match skipBlanks s with
  | [] => .error .endInValue
  | some '\x7b' :: rest =>
    let depth ← descend depth
    let (name, rest) ← variantName depth rest
    let v ← findVariant variants name
    let (a, rest) ← v.read depth (← colon rest)
    match skipBlanks rest with
    | [] => .error .endInObject
    | some '\x7d' :: rest => return (a, rest)
    | _ => .error .expectedValue
  | some '"' :: rest =>
    let (name, rest) ← quoted rest
    return (← (← findVariant variants name).bare, rest)
  | _ => .error .expectedValue

/-- Variants without content, one for each of `all`. -/
def choice {α : Type} (all : List α) (name : α → String) : JsonReader α :=
  variant (all.map fun a => ⟨name a, .unit a⟩)

end ScriptBridge.JsonReader
