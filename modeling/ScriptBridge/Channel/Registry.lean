import ScriptBridge.Channel.Message

/-!
Plugins: what answers on the host's named channels.

A registry holds plugins in the order of their coming, what they say of themselves under their
names, and their places under their channels.  A plugin's own code may do anything that `m`
allows; the registry runs it when the plugin comes and when a message is for it.
-/
namespace ScriptBridge

structure Version where
  major : UInt32
  minor : UInt32
  patch : UInt32
  deriving Repr, DecidableEq

namespace Version

def text (v : Version) : String :=
  toString v.major.toNat ++ "." ++ toString v.minor.toNat ++ "." ++ toString v.patch.toNat

def numbers (v : Version) : List Nat := [v.major.toNat, v.minor.toNat, v.patch.toNat]

/-- The first numbers that differ decide. -/
def compareNumbers : List Nat → List Nat → Ordering
  | a :: as, b :: bs => if a < b then .lt else if b < a then .gt else compareNumbers as bs
  | [], _ :: _ => .lt
  | _ :: _, [] => .gt
  | [], [] => .eq

def compare (v w : Version) : Ordering := compareNumbers v.numbers w.numbers

end Version

/-- What a plugin says of itself. -/
structure PluginInfo where
  name : String
  channel : String
  version : Version
  description : String
  deriving Repr, DecidableEq

structure Plugin (m : Type → Type := Id) where
  name : String
  channel : String
  version : Version := ⟨1, 0, 0⟩
  description : String := ""
  info : PluginInfo := ⟨name, channel, version, description⟩
  /-- runs once, when the plugin is added -/
  setup : m Unit
  handle : List UInt8 → m Response

namespace Plugin

variable {m : Type → Type} [Pure m]

/-- Answers every message with the number of its bytes. -/
def measuring (name channel : String) : Plugin m where
  name := name
  channel := channel
  setup := pure ()
  handle message := pure (.success (.ofNat message.length))

/-- The bridge's own channel: it has no methods, and refuses what is no call. -/
def bridge : Plugin m where
  name := "JsScriptPlugin"
  channel := "js_script"
  version := ⟨0, 1, 0⟩
  description := "QuickJS script bridge channel"
  setup := pure ()
  handle message := pure <|
    match MethodCall.decode message with
    | .ok _ => .notImplemented
    | .error f => .error "bad_message" f.message

end Plugin

inductive PluginFault where
  | duplicatePlugin (name : String)
  | duplicateChannel (channel owner : String)
  | unknownChannel (channel : String)
  deriving Repr, DecidableEq

namespace PluginFault

def message : PluginFault → String
  | .duplicatePlugin name => "Duplicate plugin: " ++ name
  | .duplicateChannel channel owner => "Channel " ++ channel ++ " is already used by " ++ owner
  | .unknownChannel channel => "Unknown channel: " ++ channel

def name : PluginFault → String
  | .duplicatePlugin _ => "DuplicatePlugin"
  | .duplicateChannel _ _ => "DuplicateChannel"
  | .unknownChannel _ => "UnknownChannel"

end PluginFault

structure PluginRegistry (m : Type → Type := Id) where
  plugins : Array (Plugin m)
  /-- what plugins say of themselves, by their names -/
  metadata : List (String × PluginInfo)
  /-- places in `plugins`, by the channels of the plugins there -/
  channels : List (String × Nat)
  placed : ∀ channel place, channels.lookup channel = some place → place < plugins.size

namespace PluginRegistry

variable {m : Type → Type}

def empty : PluginRegistry m := ⟨#[], [], [], fun _ _ h => nomatch h⟩

def onChannel? (r : PluginRegistry m) (channel : String) : Option (Plugin m) :=
  match h : r.channels.lookup channel with
  | some place =>
    have := r.placed channel place h
    some r.plugins[place]
  | none => none

def info? (r : PluginRegistry m) (name : String) : Option PluginInfo := r.metadata.lookup name

def hasChannel (r : PluginRegistry m) (channel : String) : Bool := (r.channels.lookup channel).isSome

def infos (r : PluginRegistry m) : List PluginInfo := r.plugins.toList.filterMap fun p => r.info? p.name

def size (r : PluginRegistry m) : Nat := r.plugins.size

/-- Why a plugin that says this of itself cannot be added. -/
def refusal? (r : PluginRegistry m) (i : PluginInfo) : Option PluginFault :=
  if (r.info? i.name).isSome then some (.duplicatePlugin i.name)
  else (r.onChannel? i.channel).map fun owner => .duplicateChannel i.channel owner.name

/-- The registry with one more plugin, which comes last. -/
def enlist (r : PluginRegistry m) (p : Plugin m) : PluginRegistry m where
  plugins := r.plugins.push p
  metadata := (p.info.name, p.info) :: r.metadata
  channels := (p.info.channel, r.plugins.size) :: r.channels
  placed channel place h := by
    rw [Array.size_push]
    rw [List.lookup_cons] at h
    split at h
    · cases h
      exact Nat.lt_succ_self _
    · exact Nat.lt_succ_of_lt (r.placed channel place h)

section

variable [Monad m]

/-- Adds a plugin under a new name and on a free channel, and lets it set itself up. -/
def enter (r : PluginRegistry m) (p : Plugin m) : m (Except PluginFault Unit × PluginRegistry m) :=
  match r.refusal? p.info with
  | some fault => pure (.error fault, r)
  | none => do
    p.setup
    pure (.ok (), r.enlist p)

/-- The registry with the plugin added, for a caller that keeps the old one otherwise. -/
def add (r : PluginRegistry m) (p : Plugin m) : m (Except PluginFault (PluginRegistry m)) := do
  match ← r.enter p with
  | (.ok (), r) => pure (.ok r)
  | (.error fault, _) => pure (.error fault)

def send (r : PluginRegistry m) (channel : String) (message : List UInt8) :
    m (Except PluginFault Response) :=
  match r.onChannel? channel with
  | some p => do return .ok (← p.handle message)
  | none => pure (.error (.unknownChannel channel))

end

end PluginRegistry

end ScriptBridge
