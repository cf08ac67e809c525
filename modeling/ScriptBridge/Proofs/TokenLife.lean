import ScriptBridge.Proofs.CallbackFrames
import ScriptBridge.Proofs.Deaths
import ScriptBridge.Proofs.TokenHistory

/-!
The life of tokens.

`World.Life w P` is what holds at every moment of every run: the journal is lawful, it agrees with the
heap and with the queue of notices, and every token that was drawn has an object, was refused, or is
in `P`, the list of those whose construction is under way.

Design.  A run leaves `P` as it found it, whatever `P` is (`Lives`), and may rely on some tokens to be
in it (`Lives A` with `A ⊆ P`): so a callback that asks for approval knows that the token it carries
is under construction.  Four steps break `Life` for a moment or change `P`, and are taken with what
follows them: a token is drawn, its object is made, it is refused, and a notice leaves the queue.
-/
namespace ScriptBridge

open Data Text Script Script.Script

variable {σ α : Type}

/-! ### Heap and journal -/

/-- The heap agrees with the journal. -/
structure Agrees (e : Engine) (j : List Occurrence) : Prop where
  alive : ∀ {r t}, e.Carries r t → Alive j t
  unique : e.Unique
  marked : ∀ r, (e.obj r).Marked

theorem Script.Obj.marked_of_none {o : Obj} (h : o.token? = none) : o.Marked := by
  intro t ht
  rw [h] at ht
  cases ht

namespace Agrees

variable {e e' : Engine} {j j' : List Occurrence}

/-- Harm to no carrier, and no death, leaves them in agreement. -/
theorem harmless (h : Agrees e j) (he : Engine.Harmless e e')
    (hj : ∀ {r t}, e'.Carries r t → Alive j t → Alive j' t) : Agrees e' j' := by
  refine ⟨fun hc => hj hc (h.alive (he.carries hc)), he.unique h.unique, fun r => ?_⟩
  rcases he r with hnone | ⟨-, hmarked⟩
  · exact Obj.marked_of_none hnone
  · exact hmarked (h.marked r)

theorem cons (h : Agrees e j) {x : Occurrence} (hx : ∀ t, x ≠ .died t) : Agrees e (x :: j) :=
  h.harmless (.refl e) fun _ ha => ha.cons (hx _)

/-- Objects have died, and their tokens are noted. -/
theorem buried (h : Agrees e j) {ts : List UInt64} (hb : Engine.Buried e e' ts)
    {us : List UInt64} (hus : us.Perm ts) :
    Agrees e' ((us.map Occurrence.died).reverse ++ j) := by
  refine h.harmless hb.harmless fun {r t} hc ha => ⟨List.mem_append_right _ ha.1, fun hmem => ?_⟩
  rcases List.mem_append.mp hmem with hmem | hmem
  · obtain ⟨u, hu, heq⟩ := mem_dying.mp hmem
    cases heq
    exact hb.gone t (hus.mem_iff.mp hu) r hc
  · exact ha.2 hmem

/-- The object of a token that had none is made. -/
theorem made (h : Agrees e j) {o : Obj} {t : UInt64} (ho : o.token? = some t) (hm : o.Marked)
    (hnew : ¬ Alive j t) (hdead : .died t ∉ j) :
    Agrees (e.allocateObj o).2 (.made t :: j) := by
  have carriers : ∀ {s u}, (e.allocateObj o).2.Carries s u →
      (s = (e.allocateObj o).1 ∧ u = t) ∨ (u ≠ t ∧ e.Carries s u) := by
    intro s u hc
    rcases Engine.obj_allocateObj e o s with ⟨hs, hobj⟩ | hobj
    · rw [Engine.Carries, hobj, ho] at hc
      exact .inl ⟨hs, (Option.some.inj hc).symm⟩
    · rw [Engine.Carries, hobj] at hc
      exact .inr ⟨fun heq => hnew (heq ▸ h.alive hc), hc⟩
  refine ⟨fun {s u} hc => ?_, fun {r s u} hr hs => ?_, fun s => ?_⟩
  · rcases carriers hc with ⟨-, rfl⟩ | ⟨-, hc⟩
    · refine ⟨List.mem_cons_self, fun hmem => hdead ?_⟩
      exact (List.mem_cons.mp hmem).resolve_left (by rintro ⟨⟩)
    · exact (h.alive hc).cons (by rintro ⟨⟩)
  · rcases carriers hr with ⟨hr, hu⟩ | ⟨hu, hr⟩ <;> rcases carriers hs with ⟨hs, hu'⟩ | ⟨hu', hs⟩
    · exact hr.trans hs.symm
    · exact absurd hu hu'
    · exact absurd hu' hu
    · exact h.unique hr hs
  · rcases Engine.obj_allocateObj e o s with ⟨-, hobj⟩ | hobj
    · rw [hobj]
      exact hm
    · rw [hobj]
      exact h.marked s

end Agrees

/-! ### The queue -/

namespace Context

theorem insertToken_perm (t : UInt64) (ts : List UInt64) : (insertToken t ts).Perm (t :: ts) := by
  induction ts with
  | nil => exact .refl _
  | cons u rest ih =>
    rw [insertToken]
    split
    · exact .refl _
    · exact (ih.cons u).trans (.swap t u rest)

theorem sortTokens_perm (ts : List UInt64) : (sortTokens ts).Perm ts := by
  induction ts with
  | nil => exact .refl _
  | cons t rest ih => exact (insertToken_perm t _).trans (ih.cons t)

theorem queueDeaths_eq (b : Bridge) (ts : List UInt64) : queueDeaths b ts =
    { b with finalized := b.finalized ++ ts
             journal := (ts.map Occurrence.died).reverse ++ b.journal } := by
  induction ts generalizing b with
  | nil => rw [queueDeaths, List.append_nil]; rfl
  | cons t rest ih =>
    rw [queueDeaths, ih]
    simp [Bridge.note]

end Context

/-! ### Every moment -/

/-- Fewer tokens have been drawn than a double can tell apart. -/
def World.Few (w : World σ) : Prop := (draws w.bridge.journal).length < 2 ^ 53

/-- What holds of tokens while those in `P` are under construction. -/
structure World.Life (w : World σ) (P : List UInt64) : Prop where
  lawful : Lawful w.bridge.journal
  turn : answering w.bridge.journal = w.busy
  records : Records w.bridge.journal w.bridge.lastToken P
  heap : Agrees w.engine w.bridge.journal
  queued : Queued w.bridge.journal w.bridge.finalized

namespace World.Life

variable {w w' : World σ} {P : List UInt64} {t : UInt64}

/-- A step that is not about tokens. -/
theorem aside (h : w.Life P) (es : List Occurrence) (hes : ∀ x ∈ es, x.isPlain = true)
    (hj : w'.bridge.journal = es ++ w.bridge.journal) (hlast : w'.bridge.lastToken = w.bridge.lastToken)
    (hqueue : w'.bridge.finalized = w.bridge.finalized) (hb : w'.busy = w.busy)
    (he : Engine.Harmless w.engine w'.engine) : w'.Life P := by
  refine ⟨?_, ?_, ?_, h.heap.harmless he fun _ ha => ?_, ?_⟩
  · rw [hj]
    exact h.lawful.plain hes
  · rw [hj, hb]
    refine (answering_of_other fun x hx => ?_).trans h.turn
    have hplain := hes x hx
    cases x <;> first | rfl | cases hplain
  · rw [hj, hlast]
    refine h.records.later _ fun x hx => ?_
    have hplain := hes x hx
    cases x <;> first | rfl | cases hplain
  · rw [hj]
    have mem : ∀ {x : Occurrence}, x.isPlain = false →
        (x ∈ es ++ w.bridge.journal ↔ x ∈ w.bridge.journal) := fun hx =>
      mem_append_of_other hes (by simp [hx])
    rw [Alive, mem rfl, mem rfl]
    exact ha
  · rw [hj, hqueue]
    refine h.queued.later _ fun x hx => ?_
    have hplain := hes x hx
    cases x <;> first | exact ⟨rfl, rfl⟩ | cases hplain

/-- The world after a note that changes nothing else. -/
theorem drawn (h : w.Life P) (hfew : (draws w.bridge.journal).length + 1 < 2 ^ 53) :
    World.Life { w with bridge :=
      { w.bridge with lastToken := w.bridge.lastToken + 1 }.note (.drawn (w.bridge.lastToken + 1)) }
      ((w.bridge.lastToken + 1) :: P) where
  lawful := ⟨h.records.fresh hfew, h.lawful⟩
  turn := h.turn
  records := h.records.drawn h.lawful hfew
  heap := h.heap.cons nofun
  queued := h.queued.cons rfl rfl

theorem refused (h : w.Life (t :: P)) :
    World.Life { w with bridge := w.bridge.note (.refused t) } P where
  lawful := ⟨h.records.awaited t List.mem_cons_self, h.lawful⟩
  turn := h.turn
  records := h.records.ended (.inr rfl)
  heap := h.heap.cons nofun
  queued := h.queued.cons rfl rfl

/-- The object of a token under construction is made. -/
theorem made (h : w.Life (t :: P)) {o : Obj} (ho : o.token? = some t) (hm : o.Marked) :
    World.Life { w with engine := (w.engine.allocateObj o).2, bridge := w.bridge.note (.made t) } P where
  lawful := ⟨h.records.awaited t List.mem_cons_self, h.lawful⟩
  turn := h.turn
  records := h.records.ended (.inl rfl)
  heap := by
    obtain ⟨-, hunmade, -⟩ := h.records.awaited t List.mem_cons_self
    exact h.heap.made ho hm (fun ha => hunmade ha.1) fun hdied => hunmade (h.lawful.made_of_died hdied)
  queued := h.queued.cons rfl rfl

/-- The host is entered for a callback that is no notice of death. -/
theorem entered (h : w.Life P) (hb : w.busy = false) {c : Callback} (hc : c ≠ .delete)
    {slots : List Slot} (hslots : ∀ t, .rawPointer t ∈ slots → c.MayCarry w.bridge.journal t) :
    (Runner.entering c slots w).Life P where
  lawful := ⟨(mayFollow_entered hc).mpr ⟨h.turn.trans hb, hslots⟩, h.lawful⟩
  turn := rfl
  records := h.records.later [.entered c slots] fun x hx => by
    cases List.mem_singleton.mp hx
    rfl
  heap := h.heap.cons nofun
  queued := h.queued.cons rfl (by cases c <;> first | rfl | exact absurd rfl hc)

theorem left (h : w.Life P) (hb : w.busy = true) : (Runner.leaving w).Life P where
  lawful := ⟨h.turn.trans hb, h.lawful⟩
  turn := rfl
  records := h.records.later [.left] fun x hx => by
    cases List.mem_singleton.mp hx
    rfl
  heap := h.heap.cons nofun
  queued := h.queued.cons rfl rfl

/-- The first notice leaves the queue when the host is entered for it. -/
theorem noticed (h : w.Life P) (hb : w.busy = false) {rest : List UInt64}
    (hq : w.bridge.finalized = t :: rest) :
    (Runner.entering .delete [.rawPointer t]
      { w with bridge := { w.bridge with finalized := rest } }).Life P := by
  have hqueued : Queued w.bridge.journal (t :: rest) := hq ▸ h.queued
  obtain ⟨hdied, hnew⟩ := hqueued.due h.lawful
  exact {
    lawful := ⟨⟨h.turn.trans hb, t, rfl, hdied, hnew⟩, h.lawful⟩
    turn := rfl
    records := h.records.later [.entered .delete [.rawPointer t]] (List.forall_mem_singleton.mpr rfl)
    heap := h.heap.cons nofun
    queued := hqueued.noticed }

/-- Objects die, and their tokens are put in the queue. -/
theorem buried (h : w.Life P) {e : Engine} {ts us : List UInt64} (hb : Engine.Buried w.engine e ts)
    (hus : us.Perm ts) :
    World.Life { w with engine := e, bridge := Context.queueDeaths w.bridge us } P := by
  have other : ∀ x ∈ (us.map Occurrence.died).reverse, x.turns = false ∧ x.constructs = false := by
    intro x hx
    obtain ⟨t, -, rfl⟩ := mem_dying.mp hx
    exact ⟨rfl, rfl⟩
  rw [Context.queueDeaths_eq]
  exact {
    lawful := h.lawful.died (hus.nodup_iff.mpr hb.nodup) fun t ht => by
      obtain ⟨r, hr⟩ := hb.carried t (hus.mem_iff.mp ht)
      exact h.heap.alive hr
    turn := (answering_of_other fun x hx => (other x hx).1).trans h.turn
    records := h.records.later _ fun x hx => (other x hx).2
    heap := h.heap.buried hb hus
    queued := h.queued.died us }

theorem sweep (h : w.Life P) : (Context.sweep w).Life P :=
  h.buried (Engine.buried_release h.heap.unique _) (Context.sortTokens_perm _)

theorem collect (h : w.Life P) : (Context.collect w).Life P :=
  h.buried (Engine.buried_collect h.heap.unique _) (Context.sortTokens_perm _)

/-- Nothing has happened yet. -/
theorem start (s : Setup) (memory : σ) : (Context.emptyWorld s memory).Life [] where
  lawful := trivial
  turn := rfl
  records := .start
  heap := by
    have none : ∀ r, (Engine.fresh.obj r).token? = none := by
      intro r
      cases r with
      | builtin b => exact token?_initial b
      | made n => rfl
    refine ⟨fun {r t} hc => ?_, fun {r s t} hc => ?_, fun r => Obj.marked_of_none (none r)⟩
    · cases (none r).symm.trans hc
    · cases (none r).symm.trans hc
  queued := rfl

end World.Life

end ScriptBridge
