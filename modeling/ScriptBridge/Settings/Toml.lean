import ScriptBridge.Settings.Basic
import ScriptBridge.Number.Text
import ScriptBridge.Toml.Reader

/-!
Settings as TOML: one entry on each line, the logging settings under a header of their own.

Every entry may be left out, for its default; entries of other names are passed over.
-/
namespace ScriptBridge

open scoped Number

/-! ### Reading -/

namespace TomlValue

mutual

/-- Can the value be passed over?  Its whole numbers must fit 128 bits, with a sign or without. -/
def isPassable : TomlValue → Bool
  | .scalar (.integer i) => -(2 ^ (127 : Nat) : Int) ≤ i && i < (2 ^ (128 : Nat) : Int)
  | .scalar _ => true
  | .array items => allPassable items
  | .tables items => tablesPassable items
  | .table _ entries => entriesPassable entries

def allPassable : List TomlValue → Bool
  | [] => true
  | v :: rest => v.isPassable && allPassable rest

def entriesPassable : List (String × TomlValue) → Bool
  | [] => true
  | (_, v) :: rest => v.isPassable && entriesPassable rest

def tablesPassable : List (List (String × TomlValue)) → Bool
  | [] => true
  | t :: rest => entriesPassable t && tablesPassable rest

end

def size? : TomlValue → Option UInt64
  | .scalar (.integer i) =>
    if 0 ≤ i && i < UInt64.size then some (UInt64.ofNat i.toNat) else none
  | _ => none

def bool? : TomlValue → Option Bool
  | .scalar (.bool b) => some b
  | _ => none

def isEmptyBracket : TomlValue → Bool
  | .array items => items.isEmpty
  | .table _ entries => entries.isEmpty
  | _ => false

/-- A level is its name, or a table in which the name stands alone, over nothing. -/
def level? : TomlValue → Option LogLevel
  | .scalar (.text s) => LogLevel.all.find? fun l => l.name == String.ofList s
  | .table _ [(key, v)] =>
    if v.isEmptyBracket then LogLevel.all.find? fun l => l.name == key else none
  | _ => none

/-- The value of an entry, if there is one, or else its default. -/
def orDefault {α : Type} (read : TomlValue → Option α) (v : Option TomlValue) (d : α) : Option α :=
  match v with
  | some v => read v
  | none => some d

/-- Everything under other names than the given ones can be passed over. -/
def othersPassable (names : List String) (t : TomlTable) : Bool :=
  entriesPassable (t.filter fun e => !names.contains e.1)

def logOf (level toConsole : Option TomlValue) : Option LogSettings := do
  return ⟨← orDefault level? level LogSettings.default.level,
    ← orDefault bool? toConsole LogSettings.default.toConsole⟩

/-- Logging settings are a table, or a list of its entries' values in their order. -/
def log? : TomlValue → Option LogSettings
  | .table _ t =>
    if othersPassable ["level", "log_to_console"] t then
      logOf (TomlTable.get? t "level") (TomlTable.get? t "log_to_console")
    else none
  | .array items => logOf items[0]? items[1]?
  | .tables items =>
    let values := items.reverse.map (TomlValue.table .header)
    logOf values[0]? values[1]?
  | .scalar .moment => some .default
  | .scalar _ => none

end TomlValue

namespace Settings

open TomlValue

def ofTable (t : TomlTable) : Option Settings := do
  let d := Settings.default
  let names :=
    ["max_arguments", "memory_limit", "max_stack_size", "gc_threshold",
     "track_unhandled_rejections", "logging"]
  if othersPassable names t then
    return ⟨← orDefault size? (t.get? "max_arguments") d.maxArguments,
      ← orDefault size? (t.get? "memory_limit") d.memoryLimit,
      ← orDefault size? (t.get? "max_stack_size") d.maxStackSize,
      ← orDefault size? (t.get? "gc_threshold") d.gcThreshold,
      ← orDefault bool? (t.get? "track_unhandled_rejections") d.tracksRejections,
      ← orDefault log? (t.get? "logging") d.log⟩
  else none

def ofToml? (text : String) : Option Settings := (Toml.parse? text).bind ofTable

/-! ### Writing -/

/-- A line of a key and its value. -/
def tomlLine (key : String) (value : List Char) : List Char :=
  key.toList ++ ' ' :: '=' :: ' ' :: value ++ ['\n']

def sizeChars (n : UInt64) : List Char := Number.digitChars n.toNat

def flagChars (b : Bool) : List Char :=
  if b then ['t', 'r', 'u', 'e'] else ['f', 'a', 'l', 's', 'e']

def tomlChars (s : Settings) : List Char :=
  tomlLine "max_arguments" (sizeChars s.maxArguments)
    ++ tomlLine "memory_limit" (sizeChars s.memoryLimit)
    ++ tomlLine "max_stack_size" (sizeChars s.maxStackSize)
    ++ tomlLine "gc_threshold" (sizeChars s.gcThreshold)
    ++ tomlLine "track_unhandled_rejections" (flagChars s.tracksRejections)
    ++ "\n[logging]\n".toList
    ++ tomlLine "level" ('"' :: s.log.level.name.toList ++ ['"'])
    ++ tomlLine "log_to_console" (flagChars s.log.toConsole)

def toToml (s : Settings) : String := String.ofList s.tomlChars

end Settings

end ScriptBridge
