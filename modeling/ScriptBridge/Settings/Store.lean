import ScriptBridge.Settings.Json
import ScriptBridge.Settings.Toml

/-!
Settings in files: loading and saving either form, and where settings are looked for.
-/
namespace ScriptBridge

/-- The two forms of a settings file. -/
inductive SettingsFormat where
  | toml | json
  deriving Repr, DecidableEq

/-- What stands at a path. -/
inductive FileState where
  | absent
  | directory
  | text (content : String)
  deriving Repr, DecidableEq

namespace Settings

/-- Reads the text of a settings file.  What is wrong with text of the first form is not told. -/
def parse (format : SettingsFormat) (text : String) : Except SettingsFault Settings :=
  match format with
  | .toml =>
    match ofToml? text with
    | some s => .ok s
    | none => .error (.parse none)
  | .json =>
    match ofJson text with
    | .ok s => .ok s
    | .error f => .error (.parse (some f.message))

def print (format : SettingsFormat) (s : Settings) : String :=
  match format with
  | .toml => s.toToml
  | .json => s.toJson

def load (format : SettingsFormat) (file : FileState) : Except SettingsFault Settings :=
  match file with
  | .absent => .error (.file "No such file or directory (os error 2)")
  | .directory => .error (.file "Is a directory (os error 21)")
  | .text content => parse format content

/-- Does the written form read back as the same settings? -/
def survives (format : SettingsFormat) (s : Settings) : Bool :=
  match parse format (print format s) with
  | .ok r => r == s
  | .error _ => false

/-- What an environment holds of settings: two files of the place, one of the user, variables. -/
structure Surroundings where
  placeToml : FileState
  placeJson : FileState
  userToml : FileState
  environment : Environment

/-- The first file that loads. -/
def find? (around : Surroundings) : Option Settings :=
  [(SettingsFormat.toml, around.placeToml), (.json, around.placeJson),
    (.toml, around.userToml)].findSome? fun f => (load f.1 f.2).toOption

/-- The first file that loads, or the defaults, with the variables' overrides. -/
def locate (around : Surroundings) : Settings :=
  ((find? around).getD .default).withEnvironment around.environment

end Settings

end ScriptBridge
