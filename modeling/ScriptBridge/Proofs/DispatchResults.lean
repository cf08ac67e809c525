import ScriptBridge.Proofs.CallbackFrames
import ScriptBridge.Proofs.LifeCycle
import ScriptBridge.Proofs.WithheldRejections

/-!
The cache lists the results of dispatches.

    cache after `ops`  =  the handles of the slots that dispatches gave out since the last clearing

Design.  Everything that a context does apart from staging a result is `Tidy`, so it leaves the cache
alone; an action `Yields` its slot with at most one value staged.  Between operations no callback is
under way, so that value is listed in the cache.  `Context.resultsSince` reads the handles off the answers
alone, and the cache is compared with it one operation after the other.

An operation that runs out of steps may have staged a value whose slot is never given out; no script
ends that way when the steps suffice, and `Uninterrupted` says that they do.
-/
namespace ScriptBridge

open Data Text Script Script.Script

variable {σ α : Type}

/-! ### Tidiness of everything but staging -/

namespace Tidy

theorem held (w : World σ) (v : Value) : Tidy w (w.holding v) where
  frames := rfl
  cache := rfl
  busy := rfl
  grown := by
    refine ⟨[.issued ⟨w.bridge.ledger.next⟩], rfl, ?_, ?_⟩
    · intro _ x hx
      rw [List.mem_singleton.mp hx]
      rfl
    · intro h h0
      have hne : h ≠ ⟨w.bridge.ledger.next⟩ := by
        rintro rfl
        simp [issues, Occurrence.isIssued] at h0
      show Passes h _ _ (Ledger.entry? (w.bridge.ledger.insert v 1).2 h)
      rw [Ledger.entry?_insert, if_neg hne]
      refine .single ?_ _
      simpa [Occurrence.concerns, Occurrence.isIssued, Occurrence.isRetained,
        Occurrence.isReleased] using fun heq => hne heq.symm

theorem onlooker (host : Host σ) : Onlooker host Tidy where
  toBystander := bystander host
  retained := upkeep.retained
  released := upkeep.released
  promised := upkeep.promised
  busy h := h.busy
  withholding _ hr _ _ hm := upkeep.withholding hr reporting host hm
  valueHeld w v _ := held w v
  promiseTaken _ _ _ _ _ := of_note rfl rfl rfl rfl fun _ => rfl
  intrinsicsSet _ _ := of_same rfl rfl rfl
  deathQueued _ _ := of_note rfl rfl rfl rfl fun _ => rfl
  dequeued _ _ := of_same rfl rfl rfl
  notice _ hr t w _ := callback hr .delete [.rawPointer t] [] (fun _ => steady.pure ()) w

theorem attendance (host : Host σ) : Registrar host Tidy where
  toAttendance := (onlooker host).attendance
  classAdded _ _ := of_same rfl rfl rfl

end Tidy

/-! ### Running a module -/

/-- Rejections are withheld before a value is staged and released after it. -/
theorem Act.Yields.withholding {put : World σ → Value → World σ} {R : World σ → World σ → Prop}
    {f : α → Option Slot} (hR : Background R) (hd : Reporting R) {run : Runner σ} (hr : run.Obeys R)
    {host : Host σ} (hrelease : ∀ handled, (run.releaseRejections host handled).Finishes) {m : Act σ α}
    (hm : m.Yields put R f) : (Dispatch.withholding run host m).Yields put R f := by
  have hbegin : ∀ w : World σ, R w w.withholding := fun w => hd.deferred w (some [])
  have hend := fun handled => hR.releaseRejections hr hd host handled
  refine ⟨?_, ?_, ?_⟩
  · intro w a w' h
    rw [Dispatch.withholding_eq] at h
    rcases hrel : run.releaseRejections host (m.thrown? w.withholding) (m.after w.withholding)
      with ⟨u, w₂⟩ | ⟨g, w₂⟩ <;> rw [hrel] at h
    · rcases e : m w.withholding with ⟨b, w₁⟩ | ⟨g, w₁⟩ <;> rw [e] at h <;> cases h
      rw [Act.after_ok e] at hrel
      exact ((hm.ok e).before hR.toSteady (hbegin w)).after hR.toSteady ((hend _).of_ok hrel)
    · cases h
  · intro w g w' h hg
    rw [Dispatch.withholding_eq] at h
    rcases hrel : run.releaseRejections host (m.thrown? w.withholding) (m.after w.withholding)
      with ⟨u, w₂⟩ | ⟨g', w₂⟩ <;> rw [hrel] at h
    · rcases e : m w.withholding with ⟨b, w₁⟩ | ⟨g', w₁⟩ <;> rw [e] at h <;> cases h
      rw [Act.after_error e] at hrel
      exact hR.trans (hbegin w) (hR.trans (hm.failed e hg) ((hend _).of_ok hrel))
    · cases h
      exact absurd (hrelease _ _ _ _ hrel) hg
  · intro w w' h
    rw [Dispatch.withholding_eq] at h
    have hbefore : ∃ o, Hands put R w o (m.after w.withholding) := by
      rcases e : m w.withholding with ⟨b, w₁⟩ | ⟨g', w₁⟩
      · rw [Act.after_ok e]
        exact ⟨_, (hm.ok e).before hR.toSteady (hbegin w)⟩
      · rw [Act.after_error e]
        by_cases hg : g' = .interrupted
        · obtain ⟨o, ho⟩ := hm.interrupted (hg ▸ e)
          exact ⟨o, ho.before hR.toSteady (hbegin w)⟩
        · exact ⟨none, .nothing rfl (hR.trans (hbegin w) (hm.failed e hg))⟩
    obtain ⟨o, ho⟩ := hbefore
    rcases hrel : run.releaseRejections host (m.thrown? w.withholding) (m.after w.withholding)
      with ⟨u, w₂⟩ | ⟨g', w₂⟩ <;> rw [hrel] at h
    · rcases e : m w.withholding with ⟨b, w₁⟩ | ⟨g', w₁⟩ <;> rw [e] at h <;> cases h
      exact ⟨o, ho.after hR.toSteady ((hend _).of_ok hrel)⟩
    · cases h
      exact ⟨o, ho.after hR.toSteady ((hend _).of_error hrel)⟩

namespace Context

variable {c c' : Context σ}

/-- Every action stages its result and nothing else. -/
theorem perform_yields {R : World σ → World σ → Prop} (hR : Attendance c.host R) (hd : Reporting R)
    (a : Action) (args : List Slot) :
    (Dispatch.perform c.runner c.host a args).Yields World.staging R id := by
  have hr : c.runner.Obeys R := hR.runner
  by_cases ha : a = .run
  · rw [ha]
    refine .map (.bind hR.toSteady (hR.sourcePair args) fun _ => ?_)
    exact .withholding hR.toBackground hd hr
      (Runner.releaseRejections_finishes c.host c.limits.steps c.limits.depth)
      (hR.evaluateModuleText hr _ _)
  · exact hR.perform hr c.calm ha args

/-! ### Operations that deliver notices -/

/-- The answer to an operation that ran out of steps. -/
def cutShort : BridgeFault := faultOf .interrupted

/-- No thrown value is worded like that answer, so a dispatch that fails by a script's doing is none that
ran out of steps. -/
theorem wording_not_cutShort {R : World σ → World σ → Prop} {run : Runner σ} (hr : run.Obeys R) {v : Value}
    {w w' : World σ} {t : String} (h : run.script (renderThrown v) w = .ok t w') :
    BridgeFault.exception t ≠ cutShort := by
  obtain ⟨text, rfl⟩ := hr.result (Ends.worded v).ensures h
  intro heq
  have htext : text ++ "\n" = "interrupted" := BridgeFault.exception.inj heq
  have hlast := congrArg (fun s : String => s.toList.getLast?) htext
  simp at hlast

section Flushed

variable {m : Runner σ → Act σ α}

/-- The delivery of notices takes an answer away only when it is cut short. -/
theorem performFlushed_answer (c : Context σ) (m : Runner σ → Act σ α) :
    (c.performFlushed m).1 = (c.perform m).1 ∨ (c.performFlushed m).1 = .error cutShort := by
  rw [performFlushed]
  rcases c.perform m with ⟨a, d⟩
  rcases deliverDue_ends d.runner d.host d.limits.steps d.world with ⟨w, he, -⟩ | ⟨w, he⟩
  · have hflush : d.flush = (.ok (), { d with world := w }) := by rw [flush, perform, he]
    refine .inl ?_
    simp only [hflush]
  · have hflush : d.flush = (.error cutShort, { d with world := w }) := by
      rw [flush, perform, he]
      rfl
    refine .inr ?_
    simp only [hflush]

theorem of_performFlushed_ok {a : α} (h : c.performFlushed m = (.ok a, c')) :
    ∃ w, m c.runner c.world = .ok a w ∧
      c'.world = (deliverDue c.runner c.host c.limits.steps).after w := by
  have hworld := congrArg Context.world (performFlushed_world c m)
  rw [h] at hworld
  rcases performFlushed_answer c m with ha | ha <;> rw [h] at ha
  · rcases e : m c.runner c.world with ⟨b, w⟩ | ⟨g, w⟩
    · rw [perform, e] at ha
      cases ha
      rw [Act.after_ok e] at hworld
      exact ⟨w, rfl, hworld⟩
    · rw [perform, e] at ha
      cases ha
  · cases ha

theorem of_performFlushed_error {f : BridgeFault} (h : c.performFlushed m = (.error f, c'))
    (hf : f ≠ cutShort) : ∃ e w, m c.runner c.world = .error e w ∧ e ≠ .interrupted ∧
      c'.world = (deliverDue c.runner c.host c.limits.steps).after w := by
  have hworld := congrArg Context.world (performFlushed_world c m)
  rw [h] at hworld
  rcases performFlushed_answer c m with ha | ha <;> rw [h] at ha
  · rcases e : m c.runner c.world with ⟨b, w⟩ | ⟨g, w⟩
    · rw [perform, e] at ha
      cases ha
    · rw [perform, e] at ha
      cases ha
      rw [Act.after_error e] at hworld
      refine ⟨g, w, rfl, ?_, hworld⟩
      rintro rfl
      exact hf rfl
  · cases ha
    exact absurd rfl hf

end Flushed

/-! ### Answers to dispatches -/

/-- What the answer to a dispatch tells of the two worlds. -/
def Dispatched (R : World σ → World σ → Prop) (w : World σ) (answer : Answer (Option Slot))
    (w' : World σ) : Prop :=
  match answer with
  | .ok o => Hands World.staging R w o w'
  | .error f => f ≠ cutShort → R w w'

/-- The answer to a dispatch; other operations have none. -/
def answer? (c : Context σ) : HostOp → Option (Answer (Option Slot))
  | .dispatch code argc => some (c.runCode code argc).1
  | .dispatchWith code args =>
    if args.length > c.arguments.length then some (.error (.tooManyArguments args.length))
    else some (({ c with arguments := args ++ c.arguments.drop args.length } : Context σ).runCode code
      args.length).1
  | .tryDispatch a args => some (c.tryDispatch a args).1
  | _ => none

section Dispatched

variable {R : World σ → World σ → Prop} (hR : Attendance c.host R) (hd : Reporting R)
  (hb : c.world.busy = false)

include hR hd hb

theorem tryDispatch_dispatched (a : Action) (args : List Slot) :
    Dispatched R c.world (c.tryDispatch a args).1 (c.tryDispatch a args).2.world := by
  have hyields : (c.runner.settle (Dispatch.perform c.runner c.host a args)).Yields World.staging R id :=
    .settle hR.toSteady hR.runner (perform_yields hR hd a args)
  have delivered : ∀ {w : World σ}, w.busy = false →
      R w ((deliverDue c.runner c.host c.limits.steps).after w) :=
    fun hb => hR.noticesDelivered _ hR.runner _ _ hb
  rcases h : c.tryDispatch a args with ⟨f | o, c'⟩
  · intro hf
    obtain ⟨e, w, he, hint, hw⟩ := of_performFlushed_error h hf
    have hfailed := hyields.failed he hint
    show R c.world c'.world
    rw [hw]
    exact hR.trans hfailed (delivered ((hR.busy hfailed).trans hb))
  · obtain ⟨w, he, hw⟩ := of_performFlushed_ok h
    have hok := hyields.ok he
    have hbusy : w.busy = false := by
      cases hok with
      | nothing _ hw => exact (hR.busy hw).trans hb
      | one hw _ _ _ hw' =>
        have hbefore := hR.busy hw
        have hafter := hR.busy hw'
        exact (hafter.trans hbefore).trans hb
    show Hands World.staging R c.world o c'.world
    rw [hw]
    exact hok.after hR.toSteady (delivered hbusy)

theorem runCode_dispatched (code : Int32) (argc : Nat) :
    Dispatched R c.world (c.runCode code argc).1 (c.runCode code argc).2.world := by
  unfold runCode
  split
  · exact fun _ => hR.refl _
  · split
    · exact tryDispatch_dispatched hR hd hb _ _
    · exact fun _ => hR.refl _

omit hR hd hb in
theorem dispatch_world (c : Context σ) (code : Int32) (argc : Nat) :
    (c.dispatch code argc).2.world = (c.runCode code argc).2.world := by
  rw [dispatch]
  rcases c.runCode code argc with ⟨f | o | s, d⟩ <;> rfl

/-- **A dispatch stages the value of the slot that it gives out**, and nothing when there is none. -/
theorem apply_dispatched {op : HostOp} {answer : Answer (Option Slot)} (h : c.answer? op = some answer) :
    Dispatched R c.world answer (c.apply op).world := by
  cases op with
  | dispatch code argc =>
    cases h
    show Dispatched _ _ _ (c.dispatch code argc).2.world
    rw [dispatch_world]
    exact runCode_dispatched hR hd hb code argc
  | dispatchWith code args =>
    show Dispatched _ _ _ (c.dispatchWith code args).2.world
    rw [answer?] at h
    rw [dispatchWith]
    split at h
    · rename_i hmany
      cases h
      rw [if_pos hmany]
      exact fun _ => hR.refl _
    · rename_i hfit
      cases h
      rw [if_neg hfit, dispatch_world]
      exact runCode_dispatched
        (c := { c with arguments := args ++ c.arguments.drop args.length }) hR hd hb code args.length
  | tryDispatch a args =>
    cases h
    exact tryDispatch_dispatched hR hd hb a args
  | _ => cases h

end Dispatched

end Context

/-! ### Between operations -/

/-- No callback is under way. -/
structure World.Idle (w : World σ) : Prop where
  frames : w.bridge.ledger.frames = []
  busy : w.busy = false

namespace World.Idle

variable {w w' : World σ}

theorem tidy (hw : w.Idle) (h : Tidy w w') : w'.Idle :=
  ⟨h.frames.trans hw.frames, h.busy.trans hw.busy⟩

theorem staging (hw : w.Idle) (v : Value) : (w.staging v).Idle where
  frames := by
    show (w.bridge.ledger.stage v).2.frames = []
    rw [Ledger.stage_frames, hw.frames]
  busy := hw.busy

/-- Where no callback is under way, the value of a slot is listed in the cache. -/
theorem lists (hw : w.Idle) {o : Option Slot} (h : Hands World.staging Tidy w o w') :
    w'.Idle ∧ w'.bridge.ledger.cache = w.bridge.ledger.cache ++ (o.bind Slot.handle?).toList := by
  cases h with
  | nothing ho h =>
    refine ⟨hw.tidy h, ?_⟩
    rw [h.cache, ho, Option.toList_none, List.append_nil]
  | @one w₁ _ v s h hv hs ht h' =>
    have hw₁ := hw.tidy h
    refine ⟨(hw₁.staging v).tidy h', ?_⟩
    have hcache : (w₁.staging v).bridge.ledger.cache
        = w₁.bridge.ledger.cache ++ [⟨w₁.bridge.ledger.next⟩] := by
      show (w₁.bridge.ledger.stage v).2.cache = _
      rw [Ledger.stage_cache, if_pos hw₁.frames]
    rw [h'.cache, hcache, h.cache, Option.bind_some, hs, Option.toList_some]

end World.Idle

namespace Context

variable {c : Context σ}

/-- The handle of the slot that an operation gives out as the result of a dispatch. -/
def result? (c : Context σ) (op : HostOp) : Option Handle :=
  match c.answer? op with
  | some (.ok o) => o.bind Slot.handle?
  | _ => none

/-- The results since the last clearing, when those before the operation are known. -/
def resultsAfter (c : Context σ) (op : HostOp) (earlier : List Handle) : List Handle :=
  match op with
  | .clearCache | .close => []
  | op => earlier ++ (c.result? op).toList

/-- An operation is aside, empties the cache, or is a dispatch. -/
theorem answer?_cases (c : Context σ) (op : HostOp) (hs : List Handle) :
    (op.aside = true ∧ c.answer? op = none ∧ c.resultsAfter op hs = hs) ∨
    ((op = .clearCache ∨ op = .close) ∧ c.resultsAfter op hs = []) ∨
    ∃ answer, c.answer? op = some answer ∧ c.resultsAfter op hs = hs ++ (c.result? op).toList := by
  cases op with
  | dispatch code argc => exact .inr (.inr ⟨_, rfl, rfl⟩)
  | tryDispatch a args => exact .inr (.inr ⟨_, rfl, rfl⟩)
  | dispatchWith code args =>
    refine .inr (.inr ?_)
    by_cases hmany : args.length > c.arguments.length
    · exact ⟨_, if_pos hmany, rfl⟩
    · exact ⟨_, if_neg hmany, rfl⟩
  | clearCache => exact .inr (.inl ⟨.inl rfl, rfl⟩)
  | close => exact .inr (.inl ⟨.inr rfl, rfl⟩)
  | _ => exact .inl ⟨rfl, rfl, List.append_nil hs⟩

/-- Clearing, or ending, leaves an empty cache, and the notices that follow leave it so. -/
theorem apply_empties (hc : c.world.Idle) {op : HostOp} (hop : op = .clearCache ∨ op = .close) :
    (c.apply op).world.Idle ∧ (c.apply op).world.bridge.ledger.cache = [] := by
  have delivered : ∀ {d : Context σ} {m : Runner σ → Act σ Unit},
      ((m d.runner).after d.world).Idle → ((m d.runner).after d.world).bridge.ledger.cache = [] →
        (d.performFlushed m).2.world.Idle ∧ (d.performFlushed m).2.world.bridge.ledger.cache = [] := by
    intro d m hidle hcache
    have hd := Tidy.attendance d.host
    have hrest := hd.noticesDelivered _ hd.runner d.limits.steps _ hidle.busy
    rw [performFlushed_world]
    exact ⟨hidle.tidy hrest, hrest.cache.trans hcache⟩
  obtain rfl | rfl := hop
  · have hrest := Ledger.releaseAll_rest { c.world.bridge.ledger with cache := [] }
      c.world.bridge.ledger.cache
    exact delivered ⟨hrest.2.2.trans hc.frames, hc.busy⟩ hrest.2.1
  · have hR := Tidy.attendance c.host
    have hlog : Tidy c.world c.flushLog.world := Attendance.performed (hR.flushLog c.host)
    have hcollected := hR.collected (releaseTables c.flushLog.world)
    have hempty : (releaseTables c.flushLog.world).Idle := ⟨rfl, hlog.busy.trans hc.busy⟩
    have hcache : (collect (releaseTables c.flushLog.world)).bridge.ledger.cache = [] := hcollected.cache
    exact delivered (hempty.tidy hcollected) hcache

/-- **One operation.**  Where no callback is under way, none is afterwards, and the cache has grown by the
result of a dispatch, or is empty. -/
theorem apply_lists (hc : c.world.Idle) {op : HostOp} (hop : c.answer? op ≠ some (.error cutShort)) :
    (c.apply op).world.Idle ∧ (c.apply op).world.bridge.ledger.cache
      = c.resultsAfter op c.world.bridge.ledger.cache := by
  obtain ⟨haside, -, hafter⟩ | ⟨hempties, hafter⟩ | ⟨answer, ha, hafter⟩ :=
    c.answer?_cases op c.world.bridge.ledger.cache
  · have htidy := (Tidy.attendance c.host).aside hc.busy haside
    exact ⟨hc.tidy htidy, htidy.cache.trans hafter.symm⟩
  · rw [hafter]
    exact apply_empties hc hempties
  · have hdispatched := apply_dispatched (Tidy.attendance c.host).toAttendance Tidy.reporting hc.busy ha
    rw [hafter, result?, ha]
    cases answer with
    | error f =>
      have htidy : Tidy c.world (c.apply op).world := hdispatched (by rintro rfl; exact hop ha)
      exact ⟨hc.tidy htidy, htidy.cache.trans (List.append_nil _).symm⟩
    | ok o => exact hc.lists hdispatched

/-! ### Runs -/

/-- The context after a run of operations. -/
def applyAll (c : Context σ) (ops : List HostOp) : Context σ := ops.foldl apply c

/-- The results of a run since its last clearing, in order. -/
def resultsSince (c : Context σ) (earlier : List Handle) : List HostOp → List Handle
  | [] => earlier
  | op :: ops => (c.apply op).resultsSince (c.resultsAfter op earlier) ops

/-- No dispatch of the run ran out of steps. -/
def Uninterrupted (c : Context σ) : List HostOp → Prop
  | [] => True
  | op :: ops => c.answer? op ≠ some (.error cutShort) ∧ (c.apply op).Uninterrupted ops

theorem applyAll_lists {ops : List HostOp} (hc : c.world.Idle) (hops : c.Uninterrupted ops) :
    (c.applyAll ops).world.Idle ∧ (c.applyAll ops).world.bridge.ledger.cache
      = c.resultsSince c.world.bridge.ledger.cache ops := by
  induction ops generalizing c with
  | nil => exact ⟨hc, rfl⟩
  | cons op ops ih =>
    obtain ⟨hidle, hcache⟩ := apply_lists hc hops.1
    obtain ⟨hend, hall⟩ := ih hidle hops.2
    refine ⟨hend, hall.trans ?_⟩
    rw [resultsSince, hcache]

theorem create_idle {host : Host σ} {limits : Limits} {s : Setup} {memory : σ}
    (h : create host limits s memory = .ok c) : c.world.Idle ∧ c.world.bridge.ledger.cache = [] := by
  have hR : Attendance (blank host limits s memory).host Tidy := (Tidy.attendance host).toAttendance
  have hinstalled : Tidy (emptyWorld s memory) ((blank host limits s memory).perform install).2.world :=
    Attendance.performed (hR.install _ hR.runner)
  rw [create_ok h]
  exact ⟨World.Idle.tidy ⟨rfl, rfl⟩ hinstalled, hinstalled.cache⟩

/-- **The cache holds exactly the results of dispatches.**  For every host, every run of operations on a
context from its creation on, in which no dispatch runs out of steps:

1. the cache lists the handles of the slots that dispatches have given out as their results since the last
   clearing, in order, and has as many members;
2. a further operation that is no dispatch and does not clear the cache leaves it alone, and so does a
   dispatch that fails;
3. so does every callback, however it is used and however it ends, and every request of a host that is
   answering one, in whatever world. -/
theorem cache_lists_results {host : Host σ} {limits : Limits} {s : Setup} {memory : σ} {c₀ : Context σ}
    (hc : create host limits s memory = .ok c₀) {ops : List HostOp} (hops : c₀.Uninterrupted ops) :
    let c := c₀.applyAll ops
    (c.world.bridge.ledger.cache = c₀.resultsSince [] ops ∧
      c.world.bridge.ledger.cacheSize = (c₀.resultsSince [] ops).length) ∧
    (∀ op, (op.aside = true ∨ ∃ f, c.answer? op = some (.error f) ∧ f ≠ cutShort) →
      (c.apply op).world.bridge.ledger.cache = c.world.bridge.ledger.cache) ∧
    ∀ (steps depth : Nat) (w : World σ),
      let run := Machine.runner host steps depth
      (∀ (p : Purpose) cb slots args,
        ((run.callHost host cb slots args (p.finish run)).after w).bridge.ledger.cache
          = w.bridge.ledger.cache) ∧
      ∀ q, ((run.answerScope q).after w).bridge.ledger.cache = w.bridge.ledger.cache := by
  intro c
  obtain ⟨hidle, hempty⟩ := create_idle hc
  obtain ⟨hend, hcache⟩ := applyAll_lists hidle hops
  rw [hempty] at hcache
  refine ⟨⟨hcache, congrArg List.length hcache⟩, ?_, ?_⟩
  · rintro op (haside | ⟨f, ha, hf⟩)
    · exact ((Tidy.attendance c.host).aside hend.busy haside).cache
    · have htidy : Tidy c.world (c.apply op).world :=
        apply_dispatched (Tidy.attendance c.host).toAttendance Tidy.reporting hend.busy ha hf
      exact htidy.cache
  · intro steps depth w run
    have hr : run.Obeys Tidy := Tidy.runner host steps depth
    constructor
    · intro p cb slots args
      exact (Tidy.callback hr cb slots args (p.finish_keeps Tidy.upkeep hr) w).cache
    · exact fun q => (Tidy.upkeep.answerScope hr q w).cache

/-- Is a script's exception the answer? -/
def excepts (c : Context σ) (op : HostOp) : Bool :=
  match c.answer? op with
  | some (.error (.exception _)) => true
  | _ => false

theorem not_cutShort {op : HostOp} (h : c.excepts op = false) : c.answer? op ≠ some (.error cutShort) := by
  intro hcut
  rw [excepts, hcut] at h
  cases h

/-- Is a script's exception the answer of one of these operations, one after another? -/
def exceptsAmong (c : Context σ) : List HostOp → Bool
  | [] => false
  | op :: ops => c.excepts op || (c.apply op).exceptsAmong ops

theorem uninterrupted_of_exceptsAmong {ops : List HostOp} (h : c.exceptsAmong ops = false) : c.Uninterrupted ops := by
  induction ops generalizing c with
  | nil => trivial
  | cons op ops ih =>
    obtain ⟨hop, hops⟩ := Bool.or_eq_false_iff.mp h
    exact ⟨not_cutShort hop, ih hops⟩

/-- Two dispatches that give out an object each, with a refusal, a reference and a clearing between. -/
def mixedOperations : List HostOp :=
  [.tryDispatch .newObject [], .tryDispatch .get [.null, .int32 0], .retain (.managed ⟨1⟩), .clearCache,
    .tryDispatch .newObject []]

theorem cache_lists_results_mixed :
    create .agreeing ⟨40, 5⟩ ⟨8, false, none⟩ () = .ok smallest ∧ smallest.Uninterrupted mixedOperations ∧
      (smallest.applyAll mixedOperations).world.bridge.ledger.cache = [⟨2⟩] := by
  obtain ⟨hgoes, hresults⟩ : smallest.exceptsAmong mixedOperations = false ∧
      smallest.resultsSince [] mixedOperations = [⟨2⟩] := by decide +kernel
  have hops := uninterrupted_of_exceptsAmong hgoes
  exact ⟨smallest_created, hops, (cache_lists_results smallest_created hops).1.1.trans hresults⟩

end Context

end ScriptBridge
