import ScriptBridge.Json.Printer
import ScriptBridge.Json.Record
import ScriptBridge.Settings.Basic

/-!
Settings as JSON: a record of which every field may be left out, for its default.
-/
namespace ScriptBridge

open JsonReader

def LogLevel.reader : JsonReader LogLevel := choice LogLevel.all LogLevel.name

namespace LogSettings

def toTree (l : LogSettings) : JsonTree :=
  .object [("level", .text l.level.name), ("log_to_console", .bool l.toConsole)]

structure Given where
  level : Option LogLevel
  toConsole : Option Bool

def Given.settings (g : Given) : LogSettings where
  level := g.level.getD LogSettings.default.level
  toConsole := g.toConsole.getD LogSettings.default.toConsole

def reader : JsonReader LogSettings :=
  record (σ := Given) {
    expected := "struct LoggingConfig"
    fields :=
      [⟨"level", fun g => g.level.isSome,
        map (fun l (g : Given) => { g with level := some l }) LogLevel.reader⟩,
       ⟨"log_to_console", fun g => g.toConsole.isSome,
        map (fun b (g : Given) => { g with toConsole := some b }) JsonReader.bool⟩]
    start := ⟨none, none⟩
    build := fun g => .ok g.settings }

end LogSettings

namespace Settings

def toTree (s : Settings) : JsonTree :=
  .object
    [("max_arguments", .ofNat s.maxArguments.toNat),
     ("memory_limit", .ofNat s.memoryLimit.toNat),
     ("max_stack_size", .ofNat s.maxStackSize.toNat),
     ("gc_threshold", .ofNat s.gcThreshold.toNat),
     ("track_unhandled_rejections", .bool s.tracksRejections),
     ("logging", s.log.toTree)]

/-- Settings as far as they have come in. -/
structure Given where
  maxArguments : Option UInt64
  memoryLimit : Option UInt64
  maxStackSize : Option UInt64
  gcThreshold : Option UInt64
  tracksRejections : Option Bool
  log : Option LogSettings

def Given.none : Given := ⟨.none, .none, .none, .none, .none, .none⟩

def Given.settings (g : Given) : Settings where
  maxArguments := g.maxArguments.getD Settings.default.maxArguments
  memoryLimit := g.memoryLimit.getD Settings.default.memoryLimit
  maxStackSize := g.maxStackSize.getD Settings.default.maxStackSize
  gcThreshold := g.gcThreshold.getD Settings.default.gcThreshold
  tracksRejections := g.tracksRejections.getD Settings.default.tracksRejections
  log := g.log.getD Settings.default.log

def reader : JsonReader Settings :=
  record (σ := Given) {
    expected := "struct BridgeConfig"
    fields :=
      [⟨"max_arguments", fun g => g.maxArguments.isSome,
        map (fun n (g : Given) => { g with maxArguments := some n }) size⟩,
       ⟨"memory_limit", fun g => g.memoryLimit.isSome,
        map (fun n (g : Given) => { g with memoryLimit := some n }) size⟩,
       ⟨"max_stack_size", fun g => g.maxStackSize.isSome,
        map (fun n (g : Given) => { g with maxStackSize := some n }) size⟩,
       ⟨"gc_threshold", fun g => g.gcThreshold.isSome,
        map (fun n (g : Given) => { g with gcThreshold := some n }) size⟩,
       ⟨"track_unhandled_rejections", fun g => g.tracksRejections.isSome,
        map (fun b (g : Given) => { g with tracksRejections := some b }) JsonReader.bool⟩,
       ⟨"logging", fun g => g.log.isSome,
        map (fun l (g : Given) => { g with log := some l }) LogSettings.reader⟩]
    start := .none
    build := fun g => .ok g.settings }

def ofJson (text : String) : Except JsonFault Settings := run reader (Source.ofText text)

def toJson (s : Settings) : String := s.toTree.onLines

end Settings

end ScriptBridge
