import Mathlib.Control.Monad.Writer
import Mathlib.Data.List.Nodup
import ScriptBridge.Channel.Registry

/-!
A registry of plugins keeps its three tables in step.

Plugins stand in an array; what they say of themselves is found by their names, and their places in the array by their
channels.  Whatever is added, in any order and however often, the registry answers as the list of the plugins added
would (`Answers`), where a plugin is added if none of those before it has its name or its channel:

    added (plugins ++ [p]) = added plugins ++ [p]   if p is new to added plugins, and else   added plugins

A plugin's own code runs in any monad, so that what a run of additions does there is seen as it is: the setups of the
plugins added, each once and in order, and nothing for those refused (`enterAll_eq`).
-/
namespace ScriptBridge

variable {m : Type → Type}

/-! ### What is added -/

namespace Plugin

/-- A plugin that says its own name and channel of itself. -/
structure Truthful (p : Plugin m) : Prop where
  name : p.info.name = p.name
  channel : p.info.channel = p.channel

/-- A plugin whose name and channel none of these has. -/
def NewTo (p : Plugin m) (added : List (Plugin m)) : Prop := ∀ q ∈ added, q.name ≠ p.name ∧ q.channel ≠ p.channel

instance (p : Plugin m) (added : List (Plugin m)) : Decidable (p.NewTo added) :=
  inferInstanceAs (Decidable (∀ q ∈ added, q.name ≠ p.name ∧ q.channel ≠ p.channel))

/-- A plugin is added if it is new. -/
def accept (added : List (Plugin m)) (p : Plugin m) : List (Plugin m) :=
  if p.NewTo added then added ++ [p] else added

/-- Those of these plugins that are added when they come in this order. -/
def added (plugins : List (Plugin m)) : List (Plugin m) := plugins.foldl accept []

end Plugin

open Plugin

/-! ### The tables -/

theorem lookup_cons_eq_ite {β : Type} (key key' : String) (value : β) (entries : List (String × β)) :
    ((key', value) :: entries).lookup key = if key = key' then some value else entries.lookup key := by
  rw [List.lookup_cons]
  by_cases h : key = key'
  · simp [h]
  · simp [h, beq_false_of_ne h]

namespace PluginRegistry

variable {r : PluginRegistry m} {added : List (Plugin m)} {p : Plugin m}

/-- A channel leads to its place, and the place to a plugin. -/
theorem onChannel?_eq (r : PluginRegistry m) (channel : String) :
    r.onChannel? channel = (r.channels.lookup channel).bind fun place => r.plugins[place]? := by
  unfold onChannel?
  split
  · rename_i place h
    simp only [h, Option.bind_some, Array.getElem?_eq_getElem (r.placed channel place h)]
  · rename_i h
    simp only [h, Option.bind_none]

theorem hasChannel_eq (r : PluginRegistry m) (channel : String) :
    r.hasChannel channel = (r.onChannel? channel).isSome := by
  rw [hasChannel, onChannel?_eq]
  rcases h : r.channels.lookup channel with - | place
  · rfl
  · rw [Option.bind_some, Array.getElem?_eq_getElem (r.placed channel place h)]
    rfl

theorem enlist_info? (r : PluginRegistry m) (p : Plugin m) (name : String) :
    (r.enlist p).info? name = if name = p.info.name then some p.info else r.info? name :=
  lookup_cons_eq_ite name p.info.name p.info r.metadata

/-- The places there were lead where they did, and the new one leads to the plugin that comes last. -/
theorem enlist_onChannel? (r : PluginRegistry m) (p : Plugin m) (channel : String) :
    (r.enlist p).onChannel? channel = if channel = p.info.channel then some p else r.onChannel? channel := by
  rw [onChannel?_eq, onChannel?_eq, enlist, lookup_cons_eq_ite]
  by_cases h : channel = p.info.channel
  · simp [h]
  · rw [if_neg h, if_neg h]
    rcases hplace : r.channels.lookup channel with - | place
    · rfl
    · have := r.placed channel place hplace
      simp only [Option.bind_some]
      rw [Array.getElem?_push_lt this, Array.getElem?_eq_getElem this]

/-! ### One addition -/

/-- A registry with these plugins: each is found by its name and on its channel. -/
structure Holds (r : PluginRegistry m) (added : List (Plugin m)) : Prop where
  plugins : r.plugins.toList = added
  info? : ∀ name, r.info? name = (added.find? (·.name = name)).map Plugin.info
  onChannel? : ∀ channel, r.onChannel? channel = added.find? (·.channel = channel)
  names : (added.map Plugin.name).Nodup
  channels : (added.map Plugin.channel).Nodup

theorem holds_empty : Holds (empty : PluginRegistry m) [] :=
  ⟨rfl, fun _ => rfl, fun _ => rfl, List.nodup_nil, List.nodup_nil⟩

/-- What comes last is found where nothing before it is. -/
theorem find?_append_singleton {key : Plugin m → String} (hnew : ∀ q ∈ added, key q ≠ key p) (k : String) :
    (added ++ [p]).find? (key · = k) = if k = key p then some p else added.find? (key · = k) := by
  rw [List.find?_append]
  by_cases h : k = key p
  · subst h
    have hnone : added.find? (key · = key p) = none := by simpa using hnew
    simp [hnone]
  · simp [h, Ne.symm h]

/-- **A new plugin is added to the tables as it is to the list.** -/
theorem Holds.enlist (h : r.Holds added) (hp : p.Truthful) (hnew : p.NewTo added) :
    (r.enlist p).Holds (added ++ [p]) := by
  refine ⟨?_, fun name => ?_, fun channel => ?_, ?_, ?_⟩
  · show (r.plugins.push p).toList = _
    rw [Array.toList_push, h.plugins]
  · rw [enlist_info?, find?_append_singleton (fun q hq => (hnew q hq).1), h.info?, hp.name]
    split <;> rfl
  · rw [enlist_onChannel?, find?_append_singleton (fun q hq => (hnew q hq).2), h.onChannel?, hp.channel]
  · rw [List.map_append]
    refine h.names.append (List.nodup_singleton _) fun name hin heq => ?_
    obtain ⟨q, hq, rfl⟩ := List.mem_map.mp hin
    exact (hnew q hq).1 (List.mem_singleton.mp heq)
  · rw [List.map_append]
    refine h.channels.append (List.nodup_singleton _) fun channel hin heq => ?_
    obtain ⟨q, hq, rfl⟩ := List.mem_map.mp hin
    exact (hnew q hq).2 (List.mem_singleton.mp heq)

/-- Where all keys are different, a plugin is found by its own. -/
theorem find?_of_mem {key : Plugin m → String} (hkeys : (added.map key).Nodup) (hp : p ∈ added) :
    added.find? (key · = key p) = some p := by
  have hfound : (added.find? (key · = key p)).isSome := List.find?_isSome.mpr ⟨p, hp, by simp⟩
  obtain ⟨q, hq⟩ := Option.isSome_iff_exists.mp hfound
  have hkey : key q = key p := by simpa using List.find?_some hq
  rw [hq, List.inj_on_of_nodup_map hkeys (List.mem_of_find?_eq_some hq) hp hkey]

theorem Holds.info?_of_mem (h : r.Holds added) (hp : p ∈ added) : r.info? p.name = some p.info := by
  rw [h.info?, find?_of_mem h.names hp, Option.map_some]

theorem Holds.onChannel?_of_mem (h : r.Holds added) (hp : p ∈ added) : r.onChannel? p.channel = some p := by
  rw [h.onChannel?, find?_of_mem h.channels hp]

theorem Holds.info?_eq_none (h : r.Holds added) {name : String} (hnone : ∀ q ∈ added, q.name ≠ name) :
    r.info? name = none := by
  rw [h.info?, List.find?_eq_none.mpr (by simpa using hnone), Option.map_none]

theorem Holds.onChannel?_eq_none (h : r.Holds added) {channel : String} (hnone : ∀ q ∈ added, q.channel ≠ channel) :
    r.onChannel? channel = none := by
  rw [h.onChannel?, List.find?_eq_none.mpr (by simpa using hnone)]

/-- Each plugin is listed, by what it says of itself. -/
theorem Holds.infos_eq (h : r.Holds added) : r.infos = added.map Plugin.info := by
  rw [infos, h.plugins, ← List.filterMap_eq_map]
  exact List.filterMap_congr fun p hp => h.info?_of_mem hp

/-! ### What a registry answers -/

variable [Monad m]

/-- The answers of a registry with these plugins. -/
structure Answers (r : PluginRegistry m) (added : List (Plugin m)) : Prop where
  names : (added.map Plugin.name).Nodup
  channels : (added.map Plugin.channel).Nodup
  infos : r.infos = added.map Plugin.info
  size : r.infos.length = r.size
  hasChannel : ∀ channel, r.hasChannel channel = true ↔ ∃ p ∈ added, p.channel = channel
  send : ∀ p ∈ added, ∀ message, r.send p.channel message = (do return .ok (← p.handle message))
  send_unknown : ∀ channel, (∀ p ∈ added, p.channel ≠ channel) →
    ∀ message, r.send channel message = pure (.error (.unknownChannel channel))
  info : ∀ p ∈ added, r.info? p.name = some p.info
  info_unknown : ∀ name, (∀ p ∈ added, p.name ≠ name) → r.info? name = none
  /-- a plugin of a name that is taken is refused, and the registry is as it was -/
  taken : ∀ p : Plugin m, p.Truthful → ∀ q ∈ added, q.name = p.name →
    r.enter p = pure (.error (.duplicatePlugin p.name), r)
  /-- so is one of another name on a channel that is taken, and it is told by whom -/
  occupied : ∀ p : Plugin m, p.Truthful → ∀ q ∈ added, q.channel = p.channel → (∀ q' ∈ added, q'.name ≠ p.name) →
    r.enter p = pure (.error (.duplicateChannel p.channel q.name), r)

theorem Holds.answers (h : r.Holds added) : r.Answers added where
  names := h.names
  channels := h.channels
  infos := h.infos_eq
  size := by rw [h.infos_eq, List.length_map, ← h.plugins, Array.length_toList, PluginRegistry.size]
  hasChannel channel := by
    rw [hasChannel_eq, h.onChannel?, List.find?_isSome]
    simp
  send p hp message := by rw [send, h.onChannel?_of_mem hp]
  send_unknown channel hnone message := by rw [send, h.onChannel?_eq_none hnone]
  info p hp := h.info?_of_mem hp
  info_unknown name hnone := h.info?_eq_none hnone
  taken p hp q hq hname := by
    have hfound := h.info?_of_mem hq
    rw [enter, refusal?, hp.name, ← hname, hfound]
    rfl
  occupied p hp q hq hchannel hnew := by
    rw [enter, refusal?, hp.name, h.info?_eq_none hnew, hp.channel, ← hchannel, h.onChannel?_of_mem hq]
    rfl

/-- A new plugin sets itself up, and is added. -/
theorem Holds.enter_new (h : r.Holds added) (hp : p.Truthful) (hnew : p.NewTo added) :
    r.enter p = (do p.setup; pure (.ok (), r.enlist p)) := by
  rw [enter, refusal?, hp.name, h.info?_eq_none fun q hq => (hnew q hq).1, hp.channel,
    h.onChannel?_eq_none fun q hq => (hnew q hq).2]
  rfl

/-! ### Any number of additions -/

/-- Adds one plugin after the other, whatever the answers are. -/
def enterAll (r : PluginRegistry m) : List (Plugin m) → m (PluginRegistry m)
  | [] => pure r
  | p :: plugins => do
    let (_, r) ← r.enter p
    r.enterAll plugins

/-- A plugin that is not new is refused for its name or for its channel; the registry is as it was. -/
theorem Holds.enter_not_new (h : r.Holds added) (hp : p.Truthful) (hnew : ¬ p.NewTo added) :
    ∃ fault, r.enter p = pure (.error fault, r) := by
  by_cases hname : ∃ q ∈ added, q.name = p.name
  · obtain ⟨q, hq, hname⟩ := hname
    exact ⟨_, h.answers.taken p hp q hq hname⟩
  · push Not at hname
    obtain ⟨q, hq, hchannel⟩ : ∃ q ∈ added, q.channel = p.channel := by
      by_contra hno
      push Not at hno
      exact hnew fun q hq => ⟨hname q hq, hno q hq⟩
    exact ⟨_, h.answers.occupied p hp q hq hchannel hname⟩

variable [LawfulMonad m]

/-- **A run of additions sets up the new plugins, each once and in order, and does nothing else.** -/
theorem Holds.enterAll (h : r.Holds added) {plugins : List (Plugin m)} (hplugins : ∀ p ∈ plugins, p.Truthful) :
    ∃ (more : List (Plugin m)) (r' : PluginRegistry m), plugins.foldl accept added = added ++ more ∧
      r.enterAll plugins = (do more.forM Plugin.setup; pure r') ∧ r'.Holds (added ++ more) := by
  induction plugins generalizing r added with
  | nil => exact ⟨[], r, by simp, by simp [PluginRegistry.enterAll], by simpa using h⟩
  | cons p plugins ih =>
    rw [List.forall_mem_cons] at hplugins
    by_cases hnew : p.NewTo added
    · obtain ⟨more, r', hadded, hrun, hr'⟩ := ih (h.enlist hplugins.1 hnew) hplugins.2
      rw [List.append_assoc, List.singleton_append] at hadded hr'
      refine ⟨p :: more, r', by rwa [List.foldl_cons, accept, if_pos hnew], ?_, hr'⟩
      rw [PluginRegistry.enterAll, h.enter_new hplugins.1 hnew]
      simp [hrun]
    · obtain ⟨more, r', hadded, hrun, hr'⟩ := ih h hplugins.2
      obtain ⟨fault, hrefused⟩ := h.enter_not_new hplugins.1 hnew
      refine ⟨more, r', by rwa [List.foldl_cons, accept, if_neg hnew], ?_, hr'⟩
      rw [PluginRegistry.enterAll, hrefused]
      simp [hrun]

end PluginRegistry

open PluginRegistry

variable [Monad m] [LawfulMonad m]

/-- **A registry answers as the list of the plugins added would.**  Whatever plugins that say their own names and
channels are added, in any order and with any repeats, what is done is the setups of those whose name and channel were
new when they came, each once and in order.  The registry then answers for just these; and a further such plugin that
is new sets itself up and is answered for too, where one that is not is refused and leaves the registry as it is. -/
theorem enterAll_answers (plugins : List (Plugin m)) (hplugins : ∀ p ∈ plugins, p.Truthful) :
    ∃ r : PluginRegistry m,
      PluginRegistry.empty.enterAll plugins = (do (added plugins).forM Plugin.setup; pure r) ∧
      r.Answers (added plugins) ∧
      ∀ p : Plugin m, p.Truthful → p.NewTo (added plugins) →
        ∃ r' : PluginRegistry m, r.enter p = (do p.setup; pure (.ok (), r')) ∧
          r'.Answers (added plugins ++ [p]) := by
  obtain ⟨more, r, hadded, hrun, hr⟩ := holds_empty.enterAll hplugins
  rw [List.nil_append] at hadded hr
  have hmore : added plugins = more := hadded
  rw [hmore]
  refine ⟨r, hrun, hr.answers, fun p hp hnew => ?_⟩
  exact ⟨r.enlist p, hr.enter_new hp hnew, (hr.enlist hp hnew).answers⟩

/-- A plugin that counts how often it is set up. -/
def Plugin.selfCounting (name channel : String) : Plugin (StateM Nat) :=
  { Plugin.measuring name channel with setup := modify (· + 1) }

/-- A plugin, another of its name, another on its channel: the first alone is set up. -/
theorem enterAll_duplicates :
    ∃ r : PluginRegistry (StateM Nat),
      PluginRegistry.empty.enterAll [selfCounting "a" "one", selfCounting "a" "two", selfCounting "b" "one"] =
        (do [selfCounting "a" "one"].forM Plugin.setup; pure r) ∧
      r.Answers [selfCounting "a" "one"] := by
  have hadded : added [selfCounting "a" "one", selfCounting "a" "two", selfCounting "b" "one"]
      = [selfCounting "a" "one"] := rfl
  have htrue : ∀ p ∈ [selfCounting "a" "one", selfCounting "a" "two", selfCounting "b" "one"], p.Truthful := by
    intro p hp
    simp only [List.mem_cons, List.not_mem_nil, or_false] at hp
    rcases hp with rfl | rfl | rfl <;> exact ⟨rfl, rfl⟩
  obtain ⟨r, hrun, hr, -⟩ := enterAll_answers _ htrue
  exact ⟨r, hadded ▸ hrun, hadded ▸ hr⟩

end ScriptBridge
