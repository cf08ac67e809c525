import ScriptBridge.Proofs.Carriers
import ScriptBridge.Proofs.NatMapEntries

/-!
The tokens of the dead.

A sweep takes nodes off the heap and lists the tokens that they carried.  If no two objects carry the
same token, then every token in the list was carried before, is carried no more, and is there once:

    Buried e (e.release held).1 (e.release held).2

Design.  Whatever a sweep does is made of two steps, the removal of one node and the change of a node
of a script, and how it chooses the nodes does not matter; so what these two keep (`Sweep.Closed`)
every sweep keeps.  `Sound`, which compares the heap before a sweep with what is left of it and the
tokens found so far, is such a thing.
-/
namespace ScriptBridge.Script.Engine

open Data

/-- No two objects carry the same token. -/
def Unique (e : Engine) : Prop := ∀ {r s t}, e.Carries r t → e.Carries s t → r = s

theorem Harmless.unique {e e' : Engine} (h : Harmless e e') (hu : e.Unique) : e'.Unique :=
  fun hr hs => hu (h.carries hr) (h.carries hs)

/-- What is left when the objects of some tokens have died. -/
structure Buried (e e' : Engine) (tokens : List UInt64) : Prop where
  harmless : Harmless e e'
  nodup : tokens.Nodup
  carried : ∀ t ∈ tokens, ∃ r, e.Carries r t
  gone : ∀ t ∈ tokens, ∀ r, ¬ e'.Carries r t

theorem Buried.trans {e₁ e₂ e₃ : Engine} {ts us : List UInt64} (h : Buried e₁ e₂ ts)
    (h' : Buried e₂ e₃ us) : Buried e₁ e₃ (ts ++ us) := by
  refine ⟨h.harmless.trans h'.harmless, ?_, fun t ht => ?_, fun t ht r hr => ?_⟩
  · refine List.nodup_append.mpr ⟨h.nodup, h'.nodup, ?_⟩
    rintro t ht u hu rfl
    obtain ⟨r, hr⟩ := h'.carried t hu
    exact h.gone t ht r hr
  · rcases List.mem_append.mp ht with ht | ht
    · exact h.carried t ht
    · obtain ⟨r, hr⟩ := h'.carried t ht
      exact ⟨r, h.harmless.carries hr⟩
  · rcases List.mem_append.mp ht with ht | ht
    · exact h.gone t ht r (h'.harmless.carries hr)
    · exact h'.gone t ht r hr

/-! ### Nodes -/

/-- The node at `n` carries the token. -/
def NodeCarries (nodes : NatMap Node) (n : NodeId) (t : UInt64) : Prop :=
  ∃ node, nodes.get? n = some node ∧ Node.token? node = some t

theorem carries_made {e : Engine} {n : NodeId} {t : UInt64} :
    e.Carries (.made n) t ↔ NodeCarries e.nodes n t := by
  rw [Carries, obj, NodeCarries]
  rcases e.nodes.get? n with - | node
  · constructor
    · intro h
      cases h
    · rintro ⟨_, h, -⟩
      cases h
  · cases node with
    | object o =>
      rw [← token?_object]
      constructor
      · exact fun h => ⟨_, rfl, h⟩
      · rintro ⟨_, h, h'⟩
        exact Option.some.inj h ▸ h'
    | _ =>
      constructor
      · intro h
        cases h
      · rintro ⟨_, h, h'⟩
        cases h
        cases h'

/-- No two nodes carry the same token. -/
def Alone (nodes : NatMap Node) : Prop :=
  ∀ {n m t}, NodeCarries nodes n t → NodeCarries nodes m t → n = m

theorem Unique.alone {e : Engine} (hu : e.Unique) : Alone e.nodes :=
  fun hn hm => Ref.made.inj (hu (carries_made.mpr hn) (carries_made.mpr hm))

/-- Nodes that are left of those before, and the tokens of others. -/
structure Sound (before after : NatMap Node) (tokens : List UInt64) : Prop where
  left : ∀ n node t, after.get? n = some node → Node.token? node = some t →
    before.get? n = some node
  nodup : tokens.Nodup
  found : ∀ t ∈ tokens, ∃ n, NodeCarries before n t
  gone : ∀ t ∈ tokens, ∀ n, ¬ NodeCarries after n t

namespace Sound

variable {before after : NatMap Node} {tokens : List UInt64}

theorem start (nodes : NatMap Node) : Sound nodes nodes [] :=
  ⟨fun _ _ _ h _ => h, List.nodup_nil, nofun, nofun⟩

theorem before_of_after (h : Sound before after tokens) {n : NodeId} {t : UInt64}
    (hn : NodeCarries after n t) : NodeCarries before n t := by
  obtain ⟨node, hnode, ht⟩ := hn
  exact ⟨node, h.left n node t hnode ht, ht⟩

theorem insert (h : Sound before after tokens) (n : NodeId) {node : Node}
    (hnode : Node.token? node = none) : Sound before (after.insert n node) tokens := by
  have kept : ∀ m node' t, (after.insert n node).get? m = some node' → Node.token? node' = some t →
      after.get? m = some node' := by
    intro m node' t hm ht
    rw [NatMap.get?_insert] at hm
    split at hm
    · cases hm
      rw [hnode] at ht
      cases ht
    · exact hm
  refine ⟨fun m node' t hm ht => h.left m node' t (kept m node' t hm ht) ht, h.nodup, h.found, ?_⟩
  rintro t ht m ⟨node', hm, ht'⟩
  exact h.gone t ht m ⟨node', kept m node' t hm ht', ht'⟩

/-- One node goes, and its token, if it has one, is listed. -/
theorem bury (h : Sound before after tokens) (ha : Alone before) {n : NodeId} {node : Node}
    (hn : after.get? n = some node) :
    Sound before (after.erase n) ((Node.token? node).toList ++ tokens) := by
  have kept : ∀ m node' t, (after.erase n).get? m = some node' → Node.token? node' = some t →
      m ≠ n ∧ after.get? m = some node' := by
    intro m node' t hm ht
    rw [NatMap.get?_erase] at hm
    split at hm
    · cases hm
    · exact ⟨‹_›, hm⟩
  have own : ∀ t ∈ (Node.token? node).toList, NodeCarries after n t := by
    intro t ht
    exact ⟨node, hn, Option.mem_toList.mp ht⟩
  refine ⟨fun m node' t hm ht => h.left m node' t (kept m node' t hm ht).2 ht, ?_, ?_, ?_⟩
  · refine List.nodup_append.mpr ⟨by cases Node.token? node <;> simp, h.nodup, ?_⟩
    rintro t ht u hu rfl
    exact h.gone t hu n (own t ht)
  · intro t ht
    rcases List.mem_append.mp ht with ht | ht
    · exact ⟨n, h.before_of_after (own t ht)⟩
    · exact h.found t ht
  · rintro t ht m ⟨node', hm, ht'⟩
    obtain ⟨hne, hm⟩ := kept m node' t hm ht'
    rcases List.mem_append.mp ht with ht | ht
    -- no other node carries the token of the one that goes
    · exact hne (ha (h.before_of_after ⟨node', hm, ht'⟩) (h.before_of_after (own t ht)))
    · exact h.gone t ht m ⟨node', hm, ht'⟩

/-- What holds of the nodes holds of the objects. -/
theorem buried {e e' : Engine} (h : Sound e.nodes e'.nodes tokens) (hp : e'.patched = e.patched)
    (hu : e.Unique) : Buried e e' tokens := by
  have harmless : Harmless e e' := by
    intro r
    rcases r with b | n
    · rw [obj, obj, hp]
      exact .refl _
    · rcases ht : (e'.obj (.made n)).token? with - | t
      · exact .inl ht
      · obtain ⟨node, hnode, htoken⟩ := carries_made.mp ht
        rw [obj, obj, h.left n node t hnode htoken, hnode]
        exact .refl _
  refine ⟨harmless, h.nodup, fun t ht => ?_, fun t ht r hr => ?_⟩
  · obtain ⟨n, hn⟩ := h.found t ht
    exact ⟨.made n, carries_made.mpr hn⟩
  · obtain ⟨n, hn⟩ := h.found t ht
    have heq : r = .made n := hu (harmless.carries hr) (carries_made.mpr hn)
    exact h.gone t ht n (carries_made.mp (heq ▸ hr))

end Sound

/-! ### Sweeps -/

namespace Sweep

theorem dropRefs_same (s : Sweep) (refs : List NodeId) :
    (s.dropRefs refs).nodes = s.nodes ∧ (s.dropRefs refs).tokens = s.tokens := by
  unfold dropRefs
  induction refs generalizing s with
  | nil => exact ⟨rfl, rfl⟩
  | cons n rest ih =>
    rw [List.foldl_cons]
    obtain ⟨hnodes, htokens⟩ := ih (if (s.counts.get? n).getD 0 ≤ 1 then
      { s with counts := s.counts.insert n ((s.counts.get? n).getD 0 - 1), doomed := n :: s.doomed }
      else { s with counts := s.counts.insert n ((s.counts.get? n).getD 0 - 1) })
    refine ⟨hnodes.trans ?_, htokens.trans ?_⟩ <;> split <;> rfl

theorem reportDead_same (s : Sweep) (callback : Ref) (dead : List RegistryEntry) :
    (s.reportDead callback dead).nodes = s.nodes
      ∧ (s.reportDead callback dead).tokens = s.tokens := by
  unfold reportDead
  induction dead generalizing s with
  | nil => exact ⟨rfl, rfl⟩
  | cons d rest ih =>
    rw [List.foldl_cons]
    obtain ⟨hnodes, htokens⟩ := ih ((Sweep.addRefs
      { s with jobs := s.jobs ++ [Job.cleanup callback d.held] } callback.nodes).dropRefs d.token.nodes)
    have hdrop := dropRefs_same (Sweep.addRefs
      { s with jobs := s.jobs ++ [Job.cleanup callback d.held] } callback.nodes) d.token.nodes
    exact ⟨hnodes.trans hdrop.1, htokens.trans hdrop.2⟩

/-- What holds of nodes and tokens through a sweep: one node goes and leaves its token, or a node that is
no object of the host's side is put in the place of another. -/
structure Closed (C : NatMap Node → List UInt64 → Prop) : Prop where
  bury : ∀ {nodes tokens n node}, C nodes tokens → nodes.get? n = some node →
    C (nodes.erase n) ((Node.token? node).toList ++ tokens)
  replace : ∀ {nodes tokens n old node}, C nodes tokens → nodes.get? n = some old →
    old.host? = none → node.host? = none → C (nodes.insert n node) tokens

namespace Closed

variable {C : NatMap Node → List UInt64 → Prop} (hC : Closed C)

include hC

theorem drain (fuel : Nat) {s : Sweep} (h : C s.nodes s.tokens) :
    C (Sweep.drain fuel s).nodes (Sweep.drain fuel s).tokens := by
  induction fuel generalizing s with
  | zero => exact h
  | succ fuel ih =>
    rw [Sweep.drain]
    split
    · exact h
    · simp only
      split
      · exact ih h
      · rename_i node hnode
        have hb := hC.bury h hnode
        refine ih ?_
        rw [(dropRefs_same _ _).1, (dropRefs_same _ _).2]
        rcases ht : Node.token? node with - | t <;> rw [ht] at hb <;> exact hb

/-- Weak objects forget their dead; they are objects of scripts. -/
theorem purgeWeak {s : Sweep} (h : C s.nodes s.tokens) :
    C (Sweep.purgeWeak s).nodes (Sweep.purgeWeak s).tokens := by
  -- on the way each entry still has a node, and none has become one of the host's side
  have hentries : ∀ e ∈ s.nodes.entries, ∃ node, s.nodes.get? e.1 = some node
      ∧ (e.2.host? = none → node.host? = none) :=
    fun e he => ⟨e.2, NatMap.mem_entries.mp he, id⟩
  unfold Sweep.purgeWeak
  generalize s.nodes.entries = entries at hentries
  induction entries generalizing s with
  | nil => exact h
  | cons e rest ih =>
    rw [List.foldl_cons]
    have hrest : ∀ e' ∈ rest, ∃ node, s.nodes.get? e'.1 = some node
        ∧ (e'.2.host? = none → node.host? = none) :=
      fun e' he' => hentries e' (List.mem_cons_of_mem _ he')
    obtain ⟨old, hold, hnone⟩ := hentries e List.mem_cons_self
    split
    · rename_i o hnode
      -- an object of a script is put in the place of another
      have replaced : ∀ (p : Payload) {q : Payload}, o.kind = .script q →
          C (s.nodes.insert e.1 (.object { o with kind := .script p })) s.tokens
            ∧ ∀ e' ∈ rest, ∃ node,
              (s.nodes.insert e.1 (.object { o with kind := .script p })).get? e'.1 = some node
                ∧ (e'.2.host? = none → node.host? = none) := by
        intro p q hkind
        rw [hnode] at hnone
        refine ⟨hC.replace h hold (hnone (host?_script hkind)) (host?_script rfl), fun e' he' => ?_⟩
        rw [NatMap.get?_insert]
        split
        · exact ⟨_, rfl, fun _ => host?_script rfl⟩
        · exact hrest e' he'
      simp only
      split
      · rename_i hkind
        split
        · exact ih h hrest
        · refine ih ?_ ?_
          · rw [(dropRefs_same _ _).1, (dropRefs_same _ _).2]
            exact (replaced _ hkind).1
          · rw [(dropRefs_same _ _).1]
            exact (replaced _ hkind).2
      · rename_i hkind
        split
        · exact ih (replaced _ hkind).1 (replaced _ hkind).2
        · exact ih h hrest
      · rename_i hkind
        split
        · exact ih h hrest
        · refine ih ?_ ?_
          · rw [(reportDead_same _ _ _).1, (reportDead_same _ _ _).2]
            exact (replaced _ hkind).1
          · rw [(reportDead_same _ _ _).1]
            exact (replaced _ hkind).2
      · exact ih h hrest
    · exact ih h hrest

theorem finish (fuel rounds : Nat) {s : Sweep} (h : C s.nodes s.tokens) :
    C (Sweep.finish fuel rounds s).nodes (Sweep.finish fuel rounds s).tokens := by
  induction rounds generalizing s with
  | zero => exact h
  | succ rounds ih =>
    have hs := hC.purgeWeak (hC.drain fuel h)
    rw [Sweep.finish]
    split
    · exact hs
    · exact ih hs

end Closed

end Sweep

theorem Sound.closed {before : NatMap Node} (ha : Alone before) :
    Sweep.Closed (Sound before) where
  bury h hn := h.bury ha hn
  replace h _ _ hnode := h.insert _ (token?_of_host? hnode)

/-- **Objects die with their last reference, and their tokens are told once.** -/
theorem buried_release {e : Engine} (hu : e.Unique) (held : List NodeId) :
    Buried e (e.release held).1 (e.release held).2 :=
  Sound.buried ((Sound.closed hu.alone).finish _ _ (Sound.start e.nodes)) rfl hu

/-- Of the nodes that are objects of the host's side, a sweep adds none. -/
def Left (before after : NatMap Node) : Prop :=
  ∀ n node h, after.get? n = some node → node.host? = some h → before.get? n = some node

theorem Left.closed (before : NatMap Node) : Sweep.Closed fun nodes _ => Left before nodes where
  bury := by
    intro nodes _ n node hleft _ m other h hm hh
    rw [NatMap.get?_erase] at hm
    split at hm
    · cases hm
    · exact hleft m other h hm hh
  replace := by
    intro nodes _ n old node hleft _ _ hnode m other h hm hh
    rw [NatMap.get?_insert] at hm
    split at hm
    · cases hm
      cases hnode.symm.trans hh
    · exact hleft m other h hm hh

/-- What holds of the nodes holds of the objects. -/
theorem Left.endures {e e' : Engine} (h : Left e.nodes e'.nodes) (hp : e'.patched = e.patched) :
    Endures e e' := by
  intro r
  rcases r with b | n
  · rw [obj, obj, hp]
    exact .refl _
  · intro d hkind
    rw [obj] at hkind
    rcases hn : e'.nodes.get? n with - | node
    · rw [hn] at hkind
      cases hkind
    · cases node with
      | object o =>
        rw [hn] at hkind
        have hkind : o.kind = .host d := hkind
        have hhost : Node.host? (.object o) = some d := by rw [Node.host?, hkind]
        have hbefore := h n (.object o) d hn hhost
        rw [obj, obj, hn, hbefore]
        exact Obj.Endures.refl o d hkind
      | _ =>
        rw [hn] at hkind
        cases hkind

theorem endures_release (e : Engine) (held : List NodeId) : Endures e (e.release held).1 :=
  Left.endures ((Left.closed e.nodes).finish _ _ fun _ _ _ h _ => h) rfl

theorem get?_erased (dead : List (Nat × Node)) (nodes : NatMap Node) (m : Nat) :
    (dead.foldl (fun t n => t.erase n.1) nodes).get? m
      = if m ∈ dead.map Prod.fst then none else nodes.get? m := by
  induction dead generalizing nodes with
  | nil => simp
  | cons d rest ih =>
    rw [List.foldl_cons, ih, NatMap.get?_erase, List.map_cons]
    by_cases h : m ∈ rest.map Prod.fst
    · rw [if_pos h, if_pos (List.mem_cons_of_mem _ h)]
    · by_cases hd : m = d.1
      · rw [if_neg h, if_pos hd, if_pos (by simp [hd])]
      · rw [if_neg h, if_neg hd, if_neg (by simp [hd, h])]

/-- Some of the nodes go at once. -/
theorem sound_erased {nodes : NatMap Node} (ha : Alone nodes) (dead : Nat × Node → Bool) :
    Sound nodes ((nodes.entries.filter dead).foldl (fun t n => t.erase n.1) nodes)
      ((nodes.entries.filter dead).filterMap fun n => Node.token? n.2) := by
  have kept : ∀ n node, ((nodes.entries.filter dead).foldl (fun t n => t.erase n.1) nodes).get? n
      = some node → n ∉ (nodes.entries.filter dead).map Prod.fst ∧ nodes.get? n = some node := by
    intro n node h
    rw [get?_erased] at h
    split at h
    · cases h
    · exact ⟨‹_›, h⟩
  have entry : ∀ e ∈ nodes.entries.filter dead, nodes.get? e.1 = some e.2 := fun e he =>
    NatMap.mem_entries.mp (List.mem_filter.mp he).1
  refine ⟨fun n node t h _ => (kept n node h).2, ?_, fun t ht => ?_, ?_⟩
  · -- the keys of the entries differ, so their tokens do
    have hkeys : (nodes.entries.filter dead).Pairwise fun e e' => e.1 ≠ e'.1 :=
      (List.pairwise_map.mp (NatMap.nodup_entries nodes)).filter _
    refine List.pairwise_filterMap.mpr (hkeys.imp_of_mem fun {e e'} he he' hne t ht u hu => ?_)
    rintro rfl
    exact hne (ha ⟨e.2, entry e he, ht⟩ ⟨e'.2, entry e' he', hu⟩)
  · obtain ⟨e, he, ht⟩ := List.mem_filterMap.mp ht
    exact ⟨e.1, e.2, entry e he, ht⟩
  · rintro t ht n ⟨node, hn, htoken⟩
    obtain ⟨e, he, ht⟩ := List.mem_filterMap.mp ht
    obtain ⟨hmem, hn⟩ := kept n node hn
    have heq : n = e.1 := ha ⟨node, hn, htoken⟩ ⟨e.2, entry e he, ht⟩
    exact hmem (heq ▸ List.mem_map_of_mem he)

/-- **The same for what no root reaches.** -/
theorem buried_collect {e : Engine} (hu : e.Unique) (held : List NodeId) :
    Buried e (e.collect held).1 (e.collect held).2 := by
  unfold collect
  simp only
  generalize hs : Sweep.purgeWeak _ = s
  have hsound : Sound e.nodes s.nodes s.tokens := by
    rw [← hs]
    exact (Sound.closed hu.alone).purgeWeak (sound_erased hu.alone _)
  have hfirst : Buried e { e with nodes := s.nodes, suspended := s.suspended, jobs := e.jobs ++ s.jobs }
      s.tokens := Sound.buried hsound rfl hu
  exact hfirst.trans (buried_release (hfirst.harmless.unique hu) held)

/-- **No object comes to the host's side when others die.** -/
theorem endures_collect (e : Engine) (held : List NodeId) : Endures e (e.collect held).1 := by
  unfold collect
  simp only
  generalize hs : Sweep.purgeWeak _ = s
  have hleft : Left e.nodes s.nodes := by
    rw [← hs]
    refine (Left.closed e.nodes).purgeWeak fun n node h hn _ => ?_
    rw [get?_erased] at hn
    split at hn
    · cases hn
    · exact hn
  have hfirst : Endures e { e with nodes := s.nodes, suspended := s.suspended, jobs := e.jobs ++ s.jobs } :=
    Left.endures hleft rfl
  exact hfirst.trans (endures_release _ held)

end ScriptBridge.Script.Engine
