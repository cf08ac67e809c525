import ScriptBridge.Proofs.JsonReaders
import ScriptBridge.Proofs.TomlLines
import ScriptBridge.Settings.Store

/-!
Settings that have been saved are the ones that are loaded.

    load format (text of (print format s))  =  s      for all settings and both formats

As JSON, settings are a record whose fields are all given, in their order, with the logging settings as a record inside
it.  As TOML, each line adds its entry to the table under way, the header of the logging settings closes the first table
and goes on with a second (`reads_tomlChars`), and the settings are what the entries of the two stand for
(`ofTable_entries`).  In both forms a size is written in decimal digits and may take the whole range of a word.
-/
namespace ScriptBridge

open JsonReader

/-! ### As JSON -/

theorem LogLevel.takes_name (l : LogLevel) : Takes LogLevel.reader (.text l.name) l :=
  takes_bare (v := ⟨l.name, .unit l⟩) (by cases l <;> rfl) rfl

theorem LogSettings.takes_toTree (l : LogSettings) : Takes LogSettings.reader l.toTree l :=
  takes_record (.cons rfl rfl l.level.takes_name (.cons rfl rfl (takes_bool l.toConsole) .nil)) rfl

namespace Settings

theorem takes_toTree (s : Settings) : Takes Settings.reader s.toTree s :=
  takes_record
    (.cons rfl rfl (takes_size s.maxArguments) (.cons rfl rfl (takes_size s.memoryLimit)
      (.cons rfl rfl (takes_size s.maxStackSize) (.cons rfl rfl (takes_size s.gcThreshold)
        (.cons rfl rfl (takes_bool s.tracksRejections) (.cons rfl rfl s.log.takes_toTree .nil)))))) rfl

theorem ofJson_toJson (s : Settings) : ofJson s.toJson = .ok s :=
  s.takes_toTree.onLines (show 2 < 128 by decide)

/-! ### As TOML -/

open Toml

theorem stands_level (l : LogLevel) :
    Stands ('"' :: l.name.toList ++ ['"']) (.scalar (.text l.name.toList)) := by
  cases l <;> exact stands_text (by decide) (by simp [LogLevel.name, isPlain])

/-- The entries that are written of the logging settings. -/
def logEntries (l : LogSettings) : TomlTable :=
  [("level", .scalar (.text l.level.name.toList)), ("log_to_console", .scalar (.bool l.toConsole))]

/-- The entries that are written before the header of the logging settings. -/
def sizeEntries (s : Settings) : TomlTable :=
  [("max_arguments", .scalar (.integer s.maxArguments.toNat)),
   ("memory_limit", .scalar (.integer s.memoryLimit.toNat)),
   ("max_stack_size", .scalar (.integer s.maxStackSize.toNat)),
   ("gc_threshold", .scalar (.integer s.gcThreshold.toNat)),
   ("track_unhandled_rejections", .scalar (.bool s.tracksRejections))]

theorem reads_sizes (s : Settings) :
    Document.empty.Reads
      (tomlLine "max_arguments" (sizeChars s.maxArguments) ++ tomlLine "memory_limit" (sizeChars s.memoryLimit)
        ++ tomlLine "max_stack_size" (sizeChars s.maxStackSize) ++ tomlLine "gc_threshold" (sizeChars s.gcThreshold)
        ++ tomlLine "track_unhandled_rejections" (flagChars s.tracksRejections))
      ⟨[], .root, sizeEntries s⟩ :=
  ((((reads_entry (by decide) (stands_size s.maxArguments) rfl).append
    (reads_entry (by decide) (stands_size s.memoryLimit) rfl)).append
      (reads_entry (by decide) (stands_size s.maxStackSize) rfl)).append
        (reads_entry (by decide) (stands_size s.gcThreshold) rfl)).append
          (reads_entry (by decide) (stands_flag s.tracksRejections) rfl)

theorem reads_header (s : Settings) :
    Document.Reads ⟨[], .root, sizeEntries s⟩ "\n[logging]\n".toList ⟨sizeEntries s, .table [] "logging", []⟩ := by
  have hblank : Document.Reads ⟨[], .root, sizeEntries s⟩ ['\n'] ⟨[], .root, sizeEntries s⟩ :=
    reads_line (by simp) fun rest => line_blank
  exact hblank.append (reads_line (by simp) fun rest => line_header "logging".toList rest (by decide))

theorem reads_tomlChars (s : Settings) :
    Document.empty.Reads s.tomlChars ⟨sizeEntries s, .table [] "logging", logEntries s.log⟩ :=
  (((reads_sizes s).append (reads_header s)).append
    (reads_entry (by decide) (stands_level s.log.level) rfl)).append
      (reads_entry (by decide) (stands_flag s.log.toConsole) rfl)

theorem size?_toNat (n : UInt64) : TomlValue.size? (.scalar (.integer n.toNat)) = some n := by
  have hless := n.toNat_lt
  simp [TomlValue.size?, UInt64.size]
  omega

theorem level?_name (l : LogLevel) : TomlValue.level? (.scalar (.text l.name.toList)) = some l := by
  cases l <;> rfl

theorem log?_entries (l : LogSettings) : TomlValue.log? (.table .header (logEntries l)) = some l := by
  show ((TomlValue.level? (.scalar (.text l.level.name.toList))).bind fun level => some ⟨level, l.toConsole⟩) = some l
  rw [level?_name, Option.bind_some]

theorem ofTable_entries {s : Settings} {a b c d flag log : TomlValue} (ha : a.size? = some s.maxArguments)
    (hb : b.size? = some s.memoryLimit) (hc : c.size? = some s.maxStackSize) (hd : d.size? = some s.gcThreshold)
    (hflag : flag.bool? = some s.tracksRejections) (hlog : log.log? = some s.log) :
    ofTable [("max_arguments", a), ("memory_limit", b), ("max_stack_size", c), ("gc_threshold", d),
      ("track_unhandled_rejections", flag), ("logging", log)] = some s := by
  simp [ofTable, TomlTable.get?, List.lookup_cons, TomlValue.othersPassable, TomlValue.entriesPassable,
    TomlValue.orDefault, ha, hb, hc, hd, hflag, hlog]

theorem ofToml?_toToml (s : Settings) : ofToml? s.toToml = some s := by
  have htable : parse? s.toToml = some (sizeEntries s ++ [("logging", .table .header (logEntries s.log))]) := by
    rw [toToml, parse?_of_reads (by simp [tomlChars, tomlLine]) (reads_tomlChars s)]
    rfl
  rw [ofToml?, htable, Option.bind_some]
  exact ofTable_entries (size?_toNat _) (size?_toNat _) (size?_toNat _) (size?_toNat _) rfl (log?_entries _)

/-- **Settings that have been saved are the ones that are loaded**, in either form. -/
theorem load_saved (format : SettingsFormat) (s : Settings) : load format (.text (print format s)) = .ok s := by
  cases format with
  | toml => rw [load, print, parse, ofToml?_toToml]
  | json => rw [load, print, parse, ofJson_toJson]

end Settings

end ScriptBridge
