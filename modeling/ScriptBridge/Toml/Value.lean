import ScriptBridge.Toml.Scalar

/-!
Values of TOML text, and the rules by which tables come together.

A table remembers how it came about, for that decides who may still add to it: one named by a
header may not be named again, one that only a longer header implies may, one made by dotted
keys may grow by dotted keys, and one in braces is closed.
-/
namespace ScriptBridge

/-- How a table came about. -/
inductive TableOrigin where
  | header | implied | dotted | closed
  deriving Repr, DecidableEq

inductive TomlValue where
  | scalar (s : Toml.Scalar)
  | array (items : List TomlValue)
  /-- the tables of an array, the last one first -/
  | tables (items : List (List (String × TomlValue)))
  | table (origin : TableOrigin) (entries : List (String × TomlValue))

abbrev TomlTable := List (String × TomlValue)

namespace TomlTable

def get? (t : TomlTable) (key : String) : Option TomlValue := List.lookup key t

def set (t : TomlTable) (key : String) (v : TomlValue) : TomlTable :=
  match t with
  | [] => [(key, v)]
  | (k, w) :: rest => if k == key then (key, v) :: rest else (k, w) :: set rest key v

def erase (t : TomlTable) (key : String) : TomlTable := t.filter fun e => e.1 != key

/-- Changes the table at the end of a path, which comes into being as `fresh` where it is not
there; `enter` says which tables the path may pass. -/
def descend (fresh : TableOrigin) (enter : TableOrigin → Bool)
    (change : TableOrigin → TomlTable → Option TomlTable) :
    TableOrigin → List String → TomlTable → Option TomlTable
  | origin, [], t => change origin t
  | _, key :: path, t =>
    match t.get? key with
    | none => (descend fresh enter change fresh path []).map fun inner => t.set key (.table fresh inner)
    | some (.table origin inner) =>
      if enter origin then
        (descend fresh enter change origin path inner).map fun inner => t.set key (.table origin inner)
      else none
    | some (.tables (last :: earlier)) =>
      (descend fresh enter change .header path last).map fun last => t.set key (.tables (last :: earlier))
    | some _ => none

/-! ### Keys and values -/

/-- Adds a value under a key that is not there yet. -/
def addNew (key : String) (v : TomlValue) (t : TomlTable) : Option TomlTable :=
  if (t.get? key).isSome then none else some (t.set key v)

/-- May dotted keys pass the table? -/
def dottedMayPass : TableOrigin → Bool
  | .implied | .dotted => true
  | .header | .closed => false

/-- Adds a value under a key of one or more parts. -/
def assign (t : TomlTable) (path : List String) (key : String) (v : TomlValue) : Option TomlTable :=
  match path with
  | [] => addNew key v t
  | path =>
    t.descend .dotted dottedMayPass
      (fun origin inner => if origin == .dotted then addNew key v inner else none) .header path

/-! ### Headers -/

/-- May a header's path pass the table? -/
def headerMayPass : TableOrigin → Bool
  | .closed => false
  | _ => true

/-- Adds what a header with its lines makes: a table, which may fill in one that was implied. -/
def addTable (t : TomlTable) (path : List String) (key : String) (lines : TomlTable) :
    Option TomlTable :=
  t.descend .implied headerMayPass (fun _ inner => addNew key (.table .header lines) inner) .header path

/-- Adds one more table to an array of tables. -/
def addItem (t : TomlTable) (path : List String) (key : String) (lines : TomlTable) :
    Option TomlTable :=
  t.descend .implied headerMayPass
    (fun _ inner =>
      match inner.get? key with
      | none => some (inner.set key (.tables [lines]))
      | some (.tables items) => some (inner.set key (.tables (lines :: items)))
      | some _ => none) .header path

/-- The table that a header goes on with, taken out of its place: a new one, or one that was
implied. -/
def openTable (t : TomlTable) (path : List String) (key : String) :
    Option (TomlTable × TomlTable) :=
  let found := t.descend .implied headerMayPass (fun _ inner =>
    match inner.get? key with
    | none => some inner
    | some (.table .implied _) => some (inner.erase key)
    | some _ => none) .header path
  found.map fun rest => (rest, (lookIn t path key).getD [])
where
  /-- The entries of the table under a path. -/
  lookIn : TomlTable → List String → String → Option TomlTable
    | t, [], key =>
      match t.get? key with
      | some (.table _ inner) => some inner
      | _ => none
    | t, k :: path, key =>
      match t.get? k with
      | some (.table _ inner) => lookIn inner path key
      | some (.tables (last :: _)) => lookIn last path key
      | _ => none

end TomlTable

end ScriptBridge
