import ScriptBridge.Proofs.Lasting
import ScriptBridge.Proofs.LifeCycle

/-!
The end of a context.

When a context is closed, the host's tables are emptied, what nothing refers to any more is collected,
and the notices of death go out:

    token told of  ⟺  no object carries it any more

So the host is told of every token whose object only its own tables, or a cycle, kept alive
(`Engine.Holds` is what the engine itself holds on to), once; but an object that the global object, a
module or a waiting job still refers to outlives the last notice, and nobody is told of it.
-/
namespace ScriptBridge

open Data Text Script Script.Script Runner

/-! ### What the engine holds on to -/

namespace Script.Engine

/-- The nodes that a chain of references leads to from one of `start`. -/
inductive Reached (nodes : NatMap Node) (start : List NodeId) : NodeId → Prop where
  | start {n} : n ∈ start → Reached nodes start n
  | step {n m node} : Reached nodes start n → nodes.get? n = some node → m ∈ node.references →
      Reached nodes start m

/-- Does the engine itself keep the object?  Built-in objects are part of it. -/
def Holds (e : Engine) : Ref → Prop
  | .builtin _ => True
  | .made n => Reached e.nodes e.roots n

/-- What a search finds is reached, whatever its fuel; induction on the fuel, with what is still to do
and what has been seen both reached. -/
theorem reached_of_seen {nodes : NatMap Node} {start : List NodeId} (fuel : Nat) {todo : List NodeId}
    {seen : NatMap Unit} (htodo : ∀ n ∈ todo, Reached nodes start n)
    (hseen : ∀ n, seen.contains n = true → Reached nodes start n) {n : NodeId}
    (hn : (reach nodes fuel todo seen).contains n = true) : Reached nodes start n := by
  induction fuel generalizing todo seen with
  | zero => exact hseen n hn
  | succ fuel ih =>
    rcases todo with - | ⟨m, rest⟩
    · exact hseen n hn
    -- the first of the list is seen now, and what it refers to is put on the list
    · have hm : Reached nodes start m := htodo m List.mem_cons_self
      have hrest : ∀ k ∈ rest, Reached nodes start k := fun k hk => htodo k (List.mem_cons_of_mem _ hk)
      have hmore : ∀ k, (seen.insert m ()).contains k = true → Reached nodes start k := by
        intro k hk
        rw [NatMap.contains, NatMap.get?_insert] at hk
        split at hk
        · rename_i heq
          exact heq ▸ hm
        · exact hseen k hk
      rw [reach] at hn
      split at hn
      · exact ih hrest hseen hn
      · split at hn
        · rename_i node hnode
          refine ih (fun k hk => ?_) hmore hn
          rcases List.mem_append.mp hk with hk | hk
          · exact hm.step hnode hk
          · exact hrest k hk
        · exact ih hrest hmore hn

theorem reached_of_reach {nodes : NatMap Node} {start : List NodeId} (fuel : Nat) {n : NodeId}
    (hn : (reach nodes fuel start .empty).contains n = true) : Reached nodes start n := by
  refine reached_of_seen fuel (fun m hm => .start hm) (fun m hm => ?_) hn
  rw [NatMap.contains, NatMap.get?_empty] at hm
  cases hm

/-- Purging brings no node back that carries a token. -/
theorem before_purgeWeak (s : Sweep) {n : NodeId} {node : Node} {t : UInt64}
    (hn : s.purgeWeak.nodes.get? n = some node) (ht : Node.token? node = some t) :
    s.nodes.get? n = some node :=
  ((Told.closed s.nodes).purgeWeak (Told.start s.nodes)).left n node t hn ht

/-- **What is left of a collection, of the objects that carry tokens, is reached** from what the host's
side or the engine refers to. -/
theorem reached_of_collect (e : Engine) (held : List NodeId) {n : NodeId} {t : UInt64}
    (hn : (e.collect held).1.Carries (.made n) t) : Reached e.nodes (held ++ e.roots) n := by
  unfold collect at hn
  simp only at hn
  generalize hsearch : reach _ _ _ _ = seen at hn
  generalize hs : Sweep.purgeWeak _ = s at hn
  -- backwards through the phases: what is released last, what is purged, what is erased first
  have hmiddle : ({ e with nodes := s.nodes, suspended := s.suspended, jobs := e.jobs ++ s.jobs } :
      Engine).Carries (.made n) t := by
    obtain ⟨d, hkind, ht⟩ := carries_iff.mp hn
    rw [Carries, ← (leaves_release _ held).left hkind ht]
    exact hn
  obtain ⟨node, hnode, ht⟩ := carries_made.mp hmiddle
  have hnode : s.nodes.get? n = some node := hnode
  rw [← hs] at hnode
  have herased := before_purgeWeak _ hnode ht
  simp only at herased
  rw [get?_erased] at herased
  split at herased
  · cases herased
  · -- the node is not among the dead, so the search has seen it
    rename_i hkept
    have hseen : seen.contains n = true := by
      refine Decidable.byContradiction fun hunseen => hkept ?_
      refine List.mem_map.mpr ⟨(n, node), List.mem_filter.mpr ⟨NatMap.mem_entries.mpr herased, ?_⟩, rfl⟩
      rw [Bool.not_eq_true']
      exact Bool.eq_false_iff.mpr hunseen
    rw [← hsearch] at hseen
    exact reached_of_reach _ hseen

end Script.Engine

/-! ### The last collection -/

variable {σ : Type} {c : Context σ} {t : UInt64}

namespace Context

/-- The context when its tables have been emptied and what nothing refers to any more has died; the
notices have still to go out. -/
def emptied (c : Context σ) : Context σ :=
  (c.flushLog.perform fun _ => do modify releaseTables; modify collect).2

theorem close_eq_flush (c : Context σ) : c.close = c.emptied.flush.2 := performFlushed_context c.flushLog _

theorem heldNodes_releaseTables (w : World σ) : (releaseTables w).bridge.heldNodes = [] := by
  have hvalues : (releaseTables w).bridge.heldValues = [] := rfl
  rw [Bridge.heldNodes, hvalues]
  rfl

/-- Writing the log out is nothing that the engine sees. -/
theorem engine_flushLog (c : Context σ) : c.flushLog.world.engine = c.world.engine := by
  have hsame : Upkeep (σ := σ) fun w w' => w'.engine = w.engine := {
    refl := fun _ => rfl
    trans := fun h h' => h'.trans h
    memory := fun _ _ => rfl
    log := fun _ _ => rfl
    retained := fun _ _ _ _ => rfl
    released := fun _ _ _ _ _ => rfl
    promised := fun _ _ _ => rfl }
  rw [flushLog, perform_world]
  exact hsame.flushLog c.host c.world

theorem engine_emptied (c : Context σ) :
    c.emptied.world.engine = (c.world.engine.collect []).1 := by
  have hworld : c.emptied.world = collect (releaseTables c.flushLog.world) := by
    rw [emptied, perform_world]
    rfl
  rw [hworld, collect, heldNodes_releaseTables, ← engine_flushLog c]
  rfl

end Context

section

variable {R : World σ → World σ → Prop} (hR : Service c.host R)

include hR

theorem Service.emptied : R c.world c.emptied.world := by
  have hlog : R c.world c.flushLog.world := Attendance.performed (hR.flushLog c.host)
  rw [Context.emptied, Context.perform_world]
  refine hR.trans hlog ?_
  exact hR.bind (Act.keeps_modify hR.tablesReleased) (fun _ => Act.keeps_modify hR.collected) _

theorem Service.closed (hb : c.world.busy = false) : R c.emptied.world c.close.world := by
  have hhost : c.emptied.host = c.host := (Context.perform_host c.flushLog _).trans (Context.perform_host c _)
  have hS : Service c.emptied.host R := hhost.symm ▸ hR
  rw [Context.close_eq_flush, Context.flush, Context.perform_world]
  exact hS.noticesDelivered _ hS.runner _ _ ((hR.busy hR.emptied).trans hb)

end

namespace Context.Reachable

/-- Between operations the host is not answering. -/
theorem idle (hc : c.Reachable) : c.world.busy = false := by
  obtain ⟨s, memory, hgrows⟩ := hc.kept (Lasts.service c.host)
  exact hgrows.grows.busy

/-- What the engine does not hold dies when the context is closed. -/
theorem unheld_dies (hc : c.Reachable) (hfew : c.emptied.world.Few) (hmade : .made t ∈ c.world.bridge.journal)
    (hunheld : ∀ r, c.world.engine.Carries r t → ¬ c.world.engine.Holds r) :
    .died t ∈ c.emptied.world.bridge.journal := by
  have hlasts : Lasts c.world c.emptied.world := (Lasts.service c.host).emptied
  have hfew₀ : c.world.Few := hfew.of_grows hlasts.grows
  have hmanifest : c.emptied.world.Manifest := hlasts.manifest hfew (hc.manifest hfew₀)
  obtain ⟨es, hes, -⟩ := hlasts.grows.journal
  -- a token that has not died has an object still, which the collection has left
  refine Classical.byContradiction fun hlive => ?_
  obtain ⟨r, hr⟩ := hmanifest.housed.carried ⟨hes ▸ List.mem_append_right es hmade, hlive⟩
  rw [engine_emptied] at hr
  have hbefore : c.world.engine.Carries r t :=
    (Engine.buried_collect (hc.life hfew₀).2.heap.unique []).harmless.carries hr
  refine hunheld r hbefore ?_
  cases r with
  | builtin b => trivial
  | made n => exact Engine.reached_of_collect c.world.engine [] hr

/-- **The last notices.**  When a context that came to be by fewer than `2 ^ 53` constructions has been
closed, then, unless a notice was interrupted, no token has been told of twice, and of the tokens whose
objects were ever made

1. just those have been told of whose objects the engine has not kept;
2. among them are all that the engine did not hold itself when the end began: whatever only the host's
   handles, its promises and classes, or a cycle of objects referred to. -/
theorem close_notices (hc : c.Reachable) (hfew : (draws c.close.world.bridge.journal).length < 2 ^ 53) :
    c.emptied.flush.1 = .error (.exception "interrupted") ∨
    ((notices c.close.world.bridge.journal).Nodup ∧
      ∀ t, .made t ∈ c.close.world.bridge.journal →
        (t ∈ notices c.close.world.bridge.journal ↔ ∀ r, ¬ c.close.world.engine.Carries r t) ∧
        (.made t ∈ c.world.bridge.journal →
          (∀ r, c.world.engine.Carries r t → ¬ c.world.engine.Holds r) →
          (notices c.close.world.bridge.journal).count t = 1)) := by
  have hclosed : c.close.Reachable := .step .close hc
  have hlife : c.close.world.Life [] := (hclosed.life hfew).2
  have hmanifest : c.close.world.Manifest := hclosed.manifest hfew
  have hflush : Grows c.emptied.world c.close.world := ((Lasts.service c.host).closed hc.idle).grows
  rcases deliverDue_ends c.emptied.runner c.emptied.host c.emptied.limits.steps c.emptied.world
    with ⟨w, hrun, hempty⟩ | ⟨w, hrun⟩
  · refine .inr ⟨hlife.lawful.notices_nodup, fun t hmade => ?_⟩
    -- the queue is empty, so the host has been told of every death
    have htold : notices c.close.world.bridge.journal = deaths c.close.world.bridge.journal := by
      have hqueued : deaths c.close.world.bridge.journal
        = notices c.close.world.bridge.journal ++ c.close.world.bridge.finalized := hlife.queued
      have hnone : c.close.world.bridge.finalized = [] := by
        rw [close_eq_flush, flush, perform, hrun]
        exact hempty
      rw [hqueued, hnone, List.append_nil]
    have hdied : t ∈ notices c.close.world.bridge.journal ↔ .died t ∈ c.close.world.bridge.journal := by
      rw [htold, mem_deaths]
    refine ⟨hdied.trans ⟨fun hdied r hr => (hlife.heap.alive hr).2 hdied, fun hgone => ?_⟩,
      fun hmade' hunheld => ?_⟩
    -- a token that nothing carries has died, or its object would still stand in the heap
    · refine Classical.byContradiction fun hlive => ?_
      obtain ⟨r, hr⟩ := hmanifest.housed.carried ⟨hmade, hlive⟩
      exact hgone r hr
    · obtain ⟨es, hes, -⟩ := hflush.journal
      refine List.count_eq_one_of_mem hlife.lawful.notices_nodup (hdied.mpr ?_)
      rw [hes]
      refine List.mem_append_right _ ?_
      exact hc.unheld_dies (World.Few.of_grows hfew hflush) hmade' hunheld
  · refine .inl ?_
    rw [flush, perform, hrun]
    rfl

/-- A function that only the cache refers to dies at the end, and the host is told. -/
theorem close_notices_wrapping :
    wrapping.Reachable ∧ notices wrapping.close.world.bridge.journal = [1] ∧
    (∀ r, ¬ wrapping.close.world.engine.Carries r 1) ∧
    (∀ t, .made t ∈ wrapping.close.world.bridge.journal → t ≠ 1 →
      ∃ r, wrapping.close.world.engine.Carries r t) := by
  have hc : wrapping.Reachable := .step _ smallest_reachable
  obtain ⟨hdraws, hnotices, hflush⟩ : (draws wrapping.close.world.bridge.journal).length < 2 ^ 53 ∧
      notices wrapping.close.world.bridge.journal = [1] ∧ wrapping.emptied.flush.1.toBool = true := by
    decide +kernel
  -- the rest does not depend on which context it is
  generalize wrapping = c at hc hdraws hnotices hflush ⊢
  have hlife : c.close.world.Life [] := ((Reachable.step .close hc).life hdraws).2
  rcases close_notices hc hdraws with herror | ⟨-, htold⟩
  · rw [herror] at hflush
    cases hflush
  · rw [hnotices] at htold
    refine ⟨hc, hnotices, ?_, fun t hmade hne => ?_⟩
    · have hdied : .died 1 ∈ c.close.world.bridge.journal := by
        rw [← mem_deaths, hlife.queued, hnotices]
        exact List.mem_cons_self
      exact (htold 1 (hlife.lawful.made_of_died hdied)).1.mp List.mem_cons_self
    · refine Classical.byContradiction fun hnone => hne (List.mem_singleton.mp ?_)
      exact (htold t hmade).1.mpr (not_exists.mp hnone)

end Context.Reachable

namespace Context

def wrapped : Context Unit := spacious.apply (.tryDispatch .wrapFunction [])

def borrowing : Context Unit := wrapped.apply (.tryDispatch .get [.hostObject 1 ⟨1⟩, .text "valueOf"])

/-- The method of no object returns the global object. -/
def global : Context Unit := borrowing.apply (.tryDispatch .call [.scriptValue ⟨2⟩, .int32 0])

/-- The host's function is the value of a property of the global object. -/
def keeping : Context Unit :=
  global.apply (.tryDispatch .set [.scriptValue ⟨3⟩, .text "kept", .hostObject 1 ⟨1⟩])

theorem keeping_reachable : keeping.Reachable :=
  .step _ (.step _ (.step _ (.step _ spacious_reachable)))

/-- **The host is not told of an object that the global object refers to**: the end of its context is
over, all notices have gone out, and the object is still there. -/
theorem close_forgets :
    keeping.Reachable ∧ keeping.emptied.flush.1.toBool = true ∧
    .made 1 ∈ keeping.world.bridge.journal ∧ notices keeping.close.world.bridge.journal = [] := by
  have hc := keeping_reachable
  obtain ⟨hdraws, hcarries, hflush, hunnoticed⟩ : (draws keeping.world.bridge.journal).length < 2 ^ 53 ∧
      (keeping.world.engine.obj (.made 6)).token? = some 1 ∧ keeping.emptied.flush.1.toBool = true ∧
      notices keeping.close.world.bridge.journal = [] := by decide +kernel
  exact ⟨hc, hflush, ((hc.life hdraws).2.heap.alive hcarries).1, hunnoticed⟩

end Context

end ScriptBridge
