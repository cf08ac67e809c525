/-!
Settings of a bridge: sizes, limits and logging, their defaults, what makes them valid, and what
the environment may override.
-/
namespace ScriptBridge

inductive LogLevel where
  | trace | debug | info | warn | error
  deriving Repr, DecidableEq

namespace LogLevel

def all : List LogLevel := [.trace, .debug, .info, .warn, .error]

def name : LogLevel → String
  | .trace => "Trace"
  | .debug => "Debug"
  | .info => "Info"
  | .warn => "Warn"
  | .error => "Error"

/-- The directive that selects the level. -/
def filter : LogLevel → String
  | .trace => "trace"
  | .debug => "debug"
  | .info => "info"
  | .warn => "warn"
  | .error => "error"

/-- White space around words. -/
def isBlank (c : Char) : Bool :=
  let n := c.toNat
  (9 ≤ n && n ≤ 13) || n == 32 || n == 0x85 || n == 0xA0 || n == 0x1680
    || (0x2000 ≤ n && n ≤ 0x200A) || n == 0x2028 || n == 0x2029 || n == 0x202F || n == 0x205F
    || n == 0x3000

def trim (cs : List Char) : List Char :=
  ((cs.dropWhile isBlank).reverse.dropWhile isBlank).reverse

/-- Reads a level in any case of ASCII, with blanks around it. -/
def parse? (text : String) : Option LogLevel :=
  let word := String.ofList ((trim text.toList).map Char.toLower)
  if word == "warning" then some .warn else all.find? fun l => l.filter == word

end LogLevel

structure LogSettings where
  level : LogLevel
  toConsole : Bool
  deriving Repr, DecidableEq

structure Settings where
  /-- number of argument slots -/
  maxArguments : UInt64
  memoryLimit : UInt64
  maxStackSize : UInt64
  gcThreshold : UInt64
  tracksRejections : Bool
  log : LogSettings
  deriving Repr, DecidableEq

def LogSettings.default : LogSettings := ⟨.info, true⟩

namespace Settings

def default : Settings := ⟨16, 0, 0, 0, true, .default⟩

/-- Callbacks have up to three fixed slots and need room for one argument. -/
def minArguments : Nat := 4

def argumentLimit : Nat := 2147483647

/-- Why settings are not valid. -/
inductive Invalid where
  | tooFew (count : Nat)
  | tooMany (count : Nat)
  deriving Repr, DecidableEq

def Invalid.message : Invalid → String
  | .tooFew n => "max_arguments must be at least " ++ toString minArguments ++ ", got " ++ toString n
  | .tooMany n => "max_arguments is too large: " ++ toString n

def validate (s : Settings) : Except Invalid Unit :=
  let n := s.maxArguments.toNat
  if n < minArguments then .error (.tooFew n)
  else if n > argumentLimit then .error (.tooMany n)
  else .ok ()

/-! ### The environment -/

/-- Decimal digits, after a plus sign if there is one, below `2^64`. -/
def parseSize? (text : String) : Option UInt64 :=
  let digits := match text.toList with
    | '+' :: rest => rest
    | cs => cs
  if digits.isEmpty || !digits.all (fun c => '0' ≤ c && c ≤ '9') then none
  else
    let n := digits.foldl (fun n c => n * 10 + (c.toNat - 48)) 0
    if n < UInt64.size then some (UInt64.ofNat n) else none

def parseBool? (text : String) : Option Bool :=
  if text == "true" then some true else if text == "false" then some false else none

/-- Variables of the environment. -/
abbrev Environment := List (String × String)

/-- The value that `read` makes of a variable, or else `old`. -/
def override {α : Type} (env : Environment) (name : String) (read : String → Option α) (old : α) : α :=
  ((env.lookup name).bind read).getD old

/-- Overrides what the environment names; what does not read stays. -/
def withEnvironment (s : Settings) (env : Environment) : Settings :=
  { s with
    maxArguments := override env "JS_SCRIPT_MAX_ARGUMENTS" parseSize? s.maxArguments
    memoryLimit := override env "JS_SCRIPT_MEMORY_LIMIT" parseSize? s.memoryLimit
    maxStackSize := override env "JS_SCRIPT_MAX_STACK_SIZE" parseSize? s.maxStackSize
    tracksRejections := override env "JS_SCRIPT_TRACK_REJECTIONS" parseBool? s.tracksRejections
    log := { s.log with level := override env "JS_SCRIPT_LOG_LEVEL" LogLevel.parse? s.log.level } }

end Settings

/-- Why settings could not be had. -/
inductive SettingsFault where
  | file (text : String)
  /-- what is wrong with the text, where that is told -/
  | parse (text : Option String)
  | invalid (why : Settings.Invalid)
  deriving Repr, DecidableEq

namespace SettingsFault

def name : SettingsFault → String
  | .file _ => "FileError"
  | .parse _ => "ParseError"
  | .invalid _ => "ValidationError"

def message : SettingsFault → String
  | .file t => "Config file error: " ++ t
  | .parse t => "Config parse error: " ++ t.getD "malformed text"
  | .invalid w => "Config validation error: " ++ w.message

end SettingsFault

end ScriptBridge
