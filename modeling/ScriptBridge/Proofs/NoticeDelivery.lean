import ScriptBridge.Proofs.BarrenTurns
import ScriptBridge.Proofs.LiveTokens
import ScriptBridge.Proofs.Teardown

/-!
The delivery of the notices of death comes to an end.

    due  =  notices in the queue  +  objects that carry tokens

    a sweep       due does not grow, and no notice goes out
    a delivery    due is less by one, and one notice goes out

What a delivery frees is found by the next sweep, so the queue fills again while it is emptied.  But each
token that comes into the queue is that of an object that was there when the first notice went out: the
host is busy while it is told, so nothing is made.

Design.  `Round` are the worlds that the loop comes to, with the number of notices still to go out before
the next sweep.  What the host and the scripts have to do with it is asked of those worlds only; the loop
itself is two inductions, over the notices of a round and over the rounds.
-/
namespace ScriptBridge

open Data Script Runner Context

variable {σ α β : Type} {host : Host σ} {run : Runner σ} {w w' w'' : World σ} {k m : Nat}

/-! ### What is due -/

/-- No more notices than these can go out before something is made. -/
def World.due (w : World σ) : Nat := w.bridge.finalized.length + w.engine.liveTokens.length

/-- From one world to the next `k` notices go out, and nothing is made. -/
structure Delivers (k : Nat) (w w' : World σ) : Prop where
  heap : Engine.Harmless w.engine w'.engine
  journal : ∃ es, w'.bridge.journal = es ++ w.bridge.journal ∧ (∀ t, .made t ∉ es) ∧ (notices es).length = k
  due : w'.due + k ≤ w.due

namespace Delivers

theorem refl (w : World σ) : Delivers 0 w w :=
  ⟨.refl _, ⟨[], rfl, fun _ => List.not_mem_nil, rfl⟩, Nat.le_refl _⟩

theorem trans (h : Delivers k w w') (h' : Delivers m w' w'') : Delivers (k + m) w w'' := by
  obtain ⟨es, hes, hmade, hk⟩ := h.journal
  obtain ⟨fs, hfs, hmade', hm⟩ := h'.journal
  refine ⟨h.heap.trans h'.heap, ⟨fs ++ es, by rw [hfs, hes, List.append_assoc], fun t ht => ?_, ?_⟩, ?_⟩
  · exact (List.mem_append.mp ht).elim (hmade' t) (hmade t)
  · rw [notices, findings_append, List.length_append]
    exact congrArg₂ _ hk hm
  · have hdue := h.due
    have hdue' := h'.due
    omega

/-! ### A sweep and a delivery -/

theorem not_made_barren {es : List Occurrence} (h : ∀ x ∈ es, x.isBarren = true) (t : UInt64) : .made t ∉ es :=
  fun ht => nomatch h _ ht

theorem notices_barren {es : List Occurrence} (h : ∀ x ∈ es, x.isBarren = true) : notices es = [] := by
  refine List.eq_nil_iff_forall_not_mem.mpr fun t ht => ?_
  obtain ⟨x, hx, hnotice⟩ := mem_findings.mp ht
  cases notice?_eq.mp hnotice
  cases h _ hx

/-- What a sweep finds was there before. -/
theorem swept (w : World σ) : Delivers 0 w (sweep w) := by
  have hlive := Engine.liveTokens_release w.engine w.bridge.heldNodes
  have hsorted := (sortTokens_perm (w.engine.release w.bridge.heldNodes).2).length_eq
  have hbridge : (sweep w).bridge = queueDeaths w.bridge (sortTokens (w.engine.release w.bridge.heldNodes).2) := rfl
  rw [queueDeaths_eq] at hbridge
  have hdying : ∀ x ∈ ((sortTokens (w.engine.release w.bridge.heldNodes).2).map Occurrence.died).reverse,
      x.isBarren = true := by
    intro x hx
    obtain ⟨t, -, rfl⟩ := mem_dying.mp hx
    rfl
  refine ⟨.of_endures (Engine.endures_release _ _), ⟨_, congrArg Bridge.journal hbridge, not_made_barren hdying,
    congrArg List.length (notices_barren hdying)⟩, ?_⟩
  rw [World.due, hbridge, List.length_append, hsorted, World.due]
  show _ + (w.engine.release w.bridge.heldNodes).1.liveTokens.length + 0 ≤ _
  omega

/-- What a notice leaves behind that misses the sentinel: the host's turn was barren. -/
theorem noticed (hr : run.Obeys Barren) (hb : w.busy = false) {t : UInt64} {rest : List UInt64}
    (hq : w.bridge.finalized = t :: rest) (hmisses : (deliverNext run host).MissesSentinel w) :
    let w' := (deliverNext run host).after w
    w'.bridge.finalized = rest ∧ Engine.Harmless w.engine w'.engine ∧
      ∃ es : List Occurrence, (∀ x ∈ es, x.isBarren = true) ∧
        w'.bridge.journal = .left :: es ++ [.entered .delete [.rawPointer t]] ++ w.bridge.journal := by
  intro w'
  let w₀ : World σ := { w.withoutSentinel with bridge := { w.withoutSentinel.bridge with finalized := rest } }
  -- the host's turn, as it goes without the sentinel
  have hafter : w'.withoutSentinel = closeFrame (leaving ((run.takeTurn (host.act w₀.memory .delete
      [.rawPointer t])).after (entering .delete [.rawPointer t] (openFrame [] w₀).2))) := by
    rw [← hmisses, Act.after, deliverNext_cons run host (w := w.withoutSentinel) hq]
    exact Lives.deliver_turn run host t (w := w₀) hb
  have hturn := Barren.upkeep.takeTurn hr (host.act w₀.memory .delete [.rawPointer t])
    (entering .delete [.rawPointer t] (openFrame [] w₀).2) rfl rfl
  generalize (run.takeTurn (host.act w₀.memory .delete [.rawPointer t])).after _ = w₁ at hafter hturn
  obtain ⟨-, -, hqueue, hheap, es, hes, hbarren⟩ := hturn
  refine ⟨?_, ?_, es, hbarren, ?_⟩
  · show w'.withoutSentinel.bridge.finalized = rest
    rw [hafter]
    exact hqueue
  · show Engine.Harmless w.engine w'.withoutSentinel.engine
    rw [hafter]
    exact hheap
  · show w'.withoutSentinel.bridge.journal = _
    rw [hafter]
    show Occurrence.left :: w₁.bridge.journal = _
    rw [hes, List.cons_append, List.cons_append, List.append_assoc]
    rfl

/-- **One delivery**, whatever the host does and whatever scripts run in it. -/
theorem delivered (hr : run.Obeys Barren) (hb : w.busy = false) {t : UInt64} {rest : List UInt64}
    (hq : w.bridge.finalized = t :: rest) (hmisses : (deliverNext run host).MissesSentinel w) :
    Delivers 1 w ((deliverNext run host).after w) := by
  obtain ⟨hfinalized, hharmless, es, hbarren, hjournal⟩ := noticed hr hb hq hmisses
  refine ⟨hharmless, ⟨_, hjournal, fun u hu => ?_, ?_⟩, ?_⟩
  · exact not_made_barren hbarren u (by simpa using hu)
  · rw [notices, findings_append, findings_cons _ .left es]
    show ([t] ++ (notices es ++ [])).length = 1
    rw [notices_barren hbarren]
    rfl
  · have hlive := hharmless.liveTokens_le
    rw [World.due, World.due, hfinalized, hq, List.length_cons]
    omega

end Delivers

/-! ### The loop -/

/-- The worlds that the delivery of notices comes to in a context, each with the number of notices that have
still to go out before the next sweep. -/
inductive Context.Round (d : Context σ) : Nat → World σ → Prop where
  | start : Round d 0 d.world
  | swept {w : World σ} {t : UInt64} {rest : List UInt64} :
      Round d 0 w → (sweep w).bridge.finalized = t :: rest → Round d (rest.length + 1) (sweep w)
  | sent {k : Nat} {w w' : World σ} :
      Round d (k + 1) w → deliverNext d.runner d.host w = .ok () w' → Round d k w'

namespace Context.Round

variable {d : Context σ}

theorem idle (hidle : d.world.busy = false) (h : d.Round k w) : w.busy = false := by
  induction h with
  | start => exact hidle
  | swept _ _ ih => exact ih
  | @sent k w w' _ hsent ih =>
    have hlives : Lives [] w ((deliverNext d.runner d.host).after w) :=
      Lives.deliverNext ((Lives.conduct d.host).runner _ _) ih
    rw [← Act.after_ok hsent]
    exact hlives.grows.busy.trans ih

section Loop

variable (hidle : d.world.busy = false)
  (hreturns : ∀ k w, d.Round (k + 1) w → ∃ w', deliverNext d.runner d.host w = .ok () w')
  (hmisses : ∀ k w, d.Round (k + 1) w → (deliverNext d.runner d.host).MissesSentinel w)

include hidle hmisses

theorem sends (hround : d.Round (k + 1) w) (hq : w.bridge.finalized.length = k + 1)
    (hsent : deliverNext d.runner d.host w = .ok () w') :
    Delivers 1 w w' ∧ w'.bridge.finalized.length = k := by
  obtain ⟨t, rest, hrest⟩ := List.exists_cons_of_length_eq_add_one hq
  have hr : d.runner.Obeys Barren := (Barren.conduct d.host).runner _ _
  have hdelivers := Delivers.delivered hr (hround.idle hidle) hrest (hmisses k w hround)
  obtain ⟨hfinalized, -⟩ := Delivers.noticed hr (hround.idle hidle) hrest (hmisses k w hround)
  rw [Act.after_ok hsent] at hdelivers hfinalized
  refine ⟨hdelivers, ?_⟩
  rw [hrest, List.length_cons] at hq
  rw [hfinalized]
  omega

include hreturns

/-- The notices of a round go out. -/
theorem deliverAll (hround : d.Round k w) (hq : w.bridge.finalized.length = k) :
    ∃ w', Context.deliverAll d.runner d.host k w = .ok () w' ∧ d.Round 0 w' ∧ Delivers k w w' := by
  induction k generalizing w with
  | zero => exact ⟨w, rfl, hround, .refl w⟩
  | succ k ih =>
    obtain ⟨w₁, hsent⟩ := hreturns k w hround
    obtain ⟨hdelivers, hq₁⟩ := sends hidle hmisses hround hq hsent
    obtain ⟨w', hall, hround', hdelivers'⟩ := ih (hround.sent hsent) hq₁
    refine ⟨w', (Act.bind_ok hsent).trans hall, hround', ?_⟩
    rw [Nat.add_comm]
    exact hdelivers.trans hdelivers'

/-- **The rounds come to an end**, since each makes less what is due. -/
theorem deliverDue {n : Nat} (hround : d.Round 0 w) (hn : w.due < n) :
    ∃ w' k, Context.deliverDue d.runner d.host n w = .ok () w' ∧ w'.bridge.finalized = [] ∧
      Delivers k w w' := by
  induction n generalizing w with
  | zero => exact absurd hn (Nat.not_lt_zero _)
  | succ n ih =>
    have hswept : Delivers 0 w (sweep w) := .swept w
    have hstep : Context.deliverDue d.runner d.host (n + 1) w
        = (if (sweep w).bridge.finalized.isEmpty then pure () else do
            Context.deliverAll d.runner d.host (sweep w).bridge.finalized.length
            Context.deliverDue d.runner d.host n : Act σ Unit) (sweep w) := rfl
    rcases hq : (sweep w).bridge.finalized with - | ⟨t, rest⟩
    · refine ⟨sweep w, 0, ?_, hq, hswept⟩
      rw [hstep, hq]
      rfl
    · obtain ⟨w₁, hall, hround₁, hdelivers⟩ := deliverAll hidle hreturns hmisses (hround.swept hq)
        (congrArg List.length hq)
      have hless : w₁.due < n := by
        have hdue := (hswept.trans hdelivers).due
        omega
      obtain ⟨w', k, hdone, hempty, hdelivers'⟩ := ih hround₁ hless
      refine ⟨w', _, ?_, hempty, (hswept.trans hdelivers).trans hdelivers'⟩
      rw [hstep, hq]
      exact (Act.bind_ok hall).trans hdone

end Loop

end Context.Round

/-! ### Where notices begin to go out -/

/-- Notices begin to go out in `d`: in the context as it is, when one of its operations has done all else, or when
it has been given up.  A dispatch by number is that of an action. -/
inductive Context.Flushes (c : Context σ) : Context σ → Prop where
  | here : Flushes c c
  | begun {op : HostOp} {d : Context σ} : c.begun op = some d → Flushes c d
  | emptied : Flushes c c.emptied

/-- What a relation bears step by step, it bears for what an operation does before notices go out. -/
theorem Service.begun {R : World σ → World σ → Prop} {c d : Context σ} (hR : Service c.host R) {op : HostOp}
    (h : c.begun op = some d) : R c.world d.world := by
  have hr : c.runner.Obeys R := hR.runner
  cases op with
  | tryDispatch a args =>
    cases h
    exact Attendance.performed (m := fun run => run.settle (Dispatch.perform run c.host a args))
      (hR.settle hr (hR.perform hr c.calm a args))
  | release s =>
    cases h
    exact Attendance.performed (m := fun _ => Runner.release s) (hR.release s)
  | clearCache =>
    cases h
    exact Attendance.performed (m := fun _ => modify fun w =>
      { w with bridge := { w.bridge with ledger := w.bridge.ledger.clearCache.2 } })
      (Act.keeps_modify hR.cacheCleared)
  | runOneJob =>
    cases h
    exact Attendance.performed (m := fun run => run.settle (takeJob run)) (hR.settle hr (hR.takeJob hr))
  | runGc =>
    cases h
    exact Attendance.performed (m := fun _ => modify collect) (Act.keeps_modify hR.collected)
  | _ => cases h

theorem Context.begun_host {c d : Context σ} {op : HostOp} (h : c.begun op = some d) : d.host = c.host := by
  cases op <;> cases h <;> exact perform_host c _

/-- No callback is under way when notices begin to go out. -/
theorem Context.Flushes.idle {c d : Context σ} (hc : c.Reachable) (hd : c.Flushes d) : d.world.busy = false := by
  cases hd with
  | here => exact hc.idle
  | begun h => exact ((Lasts.service c.host).begun h).grows.busy.trans hc.idle
  | emptied => exact (Lasts.service c.host).emptied.grows.busy.trans hc.idle

/-! ### The whole -/

/-- **The delivery of notices comes to an end.**  Let notices begin to go out, in any context that a host can come
to and with whatever host, when each delivery that the loop comes to returns and none comes by the sentinel.  Then
the loop ends with an empty queue, in fewer rounds than anything above what is due; nothing that carries a token
was made meanwhile, and the notices that went out and the objects left that carry tokens are together no more
than what was in the queue and the objects that carried tokens to begin with. -/
theorem Context.Reachable.notices_end {c d : Context σ} (hc : c.Reachable) (hd : c.Flushes d)
    (hreturns : ∀ k w, d.Round (k + 1) w → ∃ w', deliverNext d.runner d.host w = .ok () w')
    (hmisses : ∀ k w, d.Round (k + 1) w → (deliverNext d.runner d.host).MissesSentinel w)
    {n : Nat} (hn : d.world.due < n) :
    ∃ w' es, deliverDue d.runner d.host n d.world = .ok () w' ∧ w'.bridge.finalized = [] ∧
      w'.bridge.journal = es ++ d.world.bridge.journal ∧ (∀ t, .made t ∉ es) ∧
      (∀ r t, w'.engine.Carries r t → d.world.engine.Carries r t) ∧
      (notices es).length + w'.engine.liveTokens.length
        ≤ d.world.bridge.finalized.length + d.world.engine.liveTokens.length := by
  obtain ⟨w', k, hdone, hempty, hdelivers⟩ := Round.deliverDue (hd.idle hc) hreturns hmisses .start hn
  obtain ⟨es, hes, hmade, hk⟩ := hdelivers.journal
  refine ⟨w', es, hdone, hempty, hes, hmade, fun r t h => hdelivers.heap.carries h, ?_⟩
  have hdue := hdelivers.due
  simp only [World.due, hempty, List.length_nil] at hdue
  omega

/-! ### Turns that heed no sentinel -/

/-- The operation returns, in the same way with the sentinel and without it. -/
def Act.Heedless (m : Act σ α) : Prop :=
  ∀ w, ∃ a w', m w = .ok a w' ∧ m w.withoutSentinel = .ok a w'.withoutSentinel

namespace Act.Heedless

theorem bind {m : Act σ α} {f : α → Act σ β} (hm : m.Heedless) (hf : ∀ a, (f a).Heedless) :
    (m >>= f).Heedless := by
  intro w
  obtain ⟨a, w₁, h, h'⟩ := hm w
  obtain ⟨b, w₂, hb, hb'⟩ := hf a w₁
  exact ⟨b, w₂, (Act.bind_ok h).trans hb, (Act.bind_ok h').trans hb'⟩

/-- Giving a reference back is a matter of the ledger. -/
theorem release (s : Slot) : (answered (Runner.release s) : Act σ (Except BridgeFault Unit)).Heedless := by
  intro w
  have hb : ∀ w : World σ, (Act.bridge : Act σ Bridge) w = .ok w.bridge w := fun _ => rfl
  have hledger : w.withoutSentinel.bridge.ledger = w.bridge.ledger := rfl
  rcases hs : s.handle? with - | h
  · refine ⟨.error .wrongArguments, w, ?_, ?_⟩ <;>
      · rw [answered, Runner.release, Act.bind_ok (hb _), hs]
        rfl
  · rcases hl : w.bridge.ledger.release h with f | ⟨v, l⟩
    · refine ⟨.error f, w, ?_, ?_⟩ <;>
      · simp only [answered, Runner.release, Act.bind_ok (hb _), hs, hledger, hl]
        rfl
    · refine ⟨.ok (), { w with bridge := { w.bridge with ledger := l }.note (.released h) }, ?_, ?_⟩ <;>
      · simp only [answered, Runner.release, Act.bind_ok (hb _), hs, hledger, hl]
        rfl

/-- A notice returns and misses the sentinel when the host's turn heeds none. -/
theorem deliver {t : UInt64} (hb : w.busy = false)
    (hturn : (run.takeTurn (host.act w.memory .delete [.rawPointer t])).Heedless) :
    (∃ w', Context.deliver run host t w = .ok () w') ∧ (Context.deliver run host t).MissesSentinel w := by
  obtain ⟨r, w', h, h'⟩ := hturn (entering .delete [.rawPointer t] (openFrame [] w).2)
  have hopened : run.takeTurn (host.act (openFrame [] w).2.memory .delete [.rawPointer t])
      (entering .delete [.rawPointer t] (openFrame [] w).2) = .ok r w' := h
  have henter : run.enterHost host .delete [.rawPointer t] (openFrame [] w).2 = .ok r (leaving w') := by
    rw [enterHost_eq, hopened]
  have hbody : run.callBody host .delete ([.rawPointer t] ++ (openFrame [] w).1) (fun _ => pure ()) w.busy
      (openFrame [] w).2 = .ok () (leaving w') := by
    rw [hb]
    exact Act.bind_ok henter
  have hcall : run.callHost host .delete [.rawPointer t] [] (fun _ => pure ()) w
      = .ok () (closeFrame (leaving w')) := by
    rw [callHost_eq, hbody]
  refine ⟨⟨closeFrame (leaving w'), by rw [Context.deliver, hcall]⟩, ?_⟩
  rw [Act.MissesSentinel, Lives.deliver_turn run host t hb,
    Lives.deliver_turn run host t (w := w.withoutSentinel) hb, Act.after_ok h]
  exact congrArg (fun w => closeFrame (leaving w)) (Act.after_ok h')

theorem deliverNext (hb : w.busy = false)
    (hturn : ∀ t, (run.takeTurn (host.act w.memory .delete [.rawPointer t])).Heedless) :
    (∃ w', Context.deliverNext run host w = .ok () w') ∧ (Context.deliverNext run host).MissesSentinel w := by
  rcases hq : w.bridge.finalized with - | ⟨t, rest⟩
  · have hnil := deliverNext_nil run host hq
    have hnil' := deliverNext_nil run host (w := w.withoutSentinel) hq
    exact ⟨⟨w, hnil⟩, by rw [Act.MissesSentinel, Act.after_ok hnil, Act.after_ok hnil']⟩
  · obtain ⟨hreturns, hmisses⟩ := deliver (w := { w with bridge := { w.bridge with finalized := rest } }) hb
      (hturn t)
    have hcons := deliverNext_cons run host hq
    have hcons' := deliverNext_cons run host (w := w.withoutSentinel) hq
    refine ⟨hcons ▸ hreturns, ?_⟩
    rw [Act.MissesSentinel, Act.after, Act.after, hcons, hcons']
    exact hmisses

end Act.Heedless

/-- At each death the host gives back a reference, has something worded and makes a promise. -/
def Host.mourning : Host Unit where
  act m c _ :=
    match c with
    | .delete => .ask (.release (.managed ⟨2⟩)) fun _ => .ask (.stringify (.text "gone")) fun _ =>
        .ask .newPromise fun _ => .reply .done m
    | _ => .reply .done m
  print m _ _ := m

namespace Context

theorem mourning_turn (slots : List Slot) :
    ((Machine.runner .mourning 60 8).takeTurn (Host.mourning.act () .delete slots)).Heedless := by
  have worded : ((Machine.runner .mourning 60 8).answerScope (.stringify (.text "gone"))).Heedless :=
    fun w => ⟨_, w, rfl, rfl⟩
  have promised : ((Machine.runner .mourning 60 8).answerScope .newPromise).Heedless :=
    fun _ => ⟨_, _, rfl, rfl⟩
  exact .bind (.release _) fun _ => .bind worded fun _ => .bind promised fun _ _ => ⟨_, _, rfl, rfl⟩

/-- A fresh context with this host. -/
def mourning : Context Unit := ((blank .mourning ⟨60, 8⟩ ⟨8, false, none⟩ ()).perform install).2

/-- The host has wrapped two functions, and holds the second by a reference that it gives back at the first
death. -/
def bereft : Context Unit :=
  ((mourning.apply (.tryDispatch .wrapFunction [])).apply (.tryDispatch .wrapFunction [])).apply
    (.retain (.managed ⟨2⟩))

theorem bereft_reachable : bereft.Reachable :=
  .step _ (.step _ (.step _ (.created (create_of_ok .mourning ⟨60, 8⟩ rfl (by decide +kernel)))))

theorem bereft_host : bereft.host = .mourning := by
  rw [bereft, apply_host, apply_host, apply_host, mourning, perform_host, blank]

/-- When the cache is cleared, one function dies, and at the notice of its death the other. -/
theorem Reachable.notices_end_bereft : ∃ d, bereft.Reachable ∧ bereft.begun .clearCache = some d ∧
    d.world.due = 2 ∧ (sweep d.world).bridge.finalized = [1] ∧
    ∃ w' es, deliverDue d.runner d.host 3 d.world = .ok () w' ∧ w'.bridge.finalized = [] ∧
      w'.bridge.journal = es ++ d.world.bridge.journal ∧ (∀ t, .made t ∉ es) ∧ notices es = [1, 2] := by
  have hbegun : (bereft.begun .clearCache).map (fun d => ((d.limits.steps, d.limits.depth), d.world.due,
      (sweep d.world).bridge.finalized, notices d.world.bridge.journal,
      notices ((deliverDue d.runner d.host 3).after d.world).bridge.journal))
      = some ((60, 8), 2, [1], [], [1, 2]) := by decide +kernel
  obtain ⟨d, hd, hfacts⟩ := Option.map_eq_some_iff.mp hbegun
  simp only [Prod.mk.injEq] at hfacts
  obtain ⟨⟨hsteps, hdepth⟩, hdue, hswept, hbefore, hafter⟩ := hfacts
  have hflushes : bereft.Flushes d := .begun hd
  have hrunner : d.runner = Machine.runner d.host 60 8 := by rw [← hsteps, ← hdepth]; rfl
  have hsends : ∀ k w, d.Round (k + 1) w → (∃ w', deliverNext d.runner d.host w = .ok () w') ∧
      (deliverNext d.runner d.host).MissesSentinel w := by
    intro k w hround
    rw [hrunner, begun_host hd, bereft_host]
    exact Act.Heedless.deliverNext (hround.idle (hflushes.idle bereft_reachable)) fun t => mourning_turn [.rawPointer t]
  obtain ⟨w', es, hdone, hempty, hes, hmade, -, -⟩ := bereft_reachable.notices_end hflushes
    (fun k w h => (hsends k w h).1) (fun k w h => (hsends k w h).2) (n := 3) (by rw [hdue]; decide)
  refine ⟨d, bereft_reachable, hd, hdue, hswept, w', es, hdone, hempty, hes, hmade, ?_⟩
  rw [Act.after_ok hdone, hes, notices, findings_append, ← notices, hbefore] at hafter
  exact hafter

end Context

end ScriptBridge
