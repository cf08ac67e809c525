import ScriptBridge.Proofs.Classification
import ScriptBridge.Proofs.LifeCycle

/-!
Where instances come from.

Every object of a projected class was built, and right before it was built its token was drawn and, unless
the construction was given the sentinel, the host was asked about that token and said yes:

    .built r k t   after   .made t   after   .left .. .entered .constructor (k, t, ..) .. .drawn t
    .built r k t   after   .made t   after   .drawn t                        (with the sentinel)

The sentinel is an argument like any other, so a script class that is bound gets hold of it, and from then
on a script constructs without the host (`leaking_constructs`).  A projected constructor that is bound itself
keeps it: such a construction runs no script and leaves nothing behind but the instance
(`Machine.construct_sentinel`).

Design.  `Warrants` is kept by every step that builds nothing because of its journal alone.  So only a
construction has to be looked into, and there what matters is that nothing is noted between the host's reply
and the making of the object.
-/
namespace ScriptBridge

open Data Text Script Script.Script Runner

variable {σ α : Type}

/-! ### Replies -/

/-- The turn ends with this reply, for some answers to what the host asks. -/
inductive Turn.Ends : Turn σ → Reply → Prop where
  | reply (r : Reply) (memory : σ) : Ends (.reply r memory) r
  | ask {q : ScopeRequest} {k : q.Answer → Turn σ} (a : q.Answer) {r : Reply} : Ends (k a) r → Ends (.ask q k) r

namespace Runner

variable {run : Runner σ} {host : Host σ} {c : Callback} {slots : List Slot} {w w' : World σ}

theorem takeTurn_ends {t : Turn σ} {r : Reply} (h : run.takeTurn t w = .ok r w') : t.Ends r := by
  induction t generalizing w with
  | reply =>
    cases h
    exact .reply _ _
  | ask q k ih =>
    obtain ⟨a, w₁, -, h⟩ := Act.of_bind_ok h
    exact .ask a (ih a h)

theorem enterHost_eq (run : Runner σ) (host : Host σ) (c : Callback) (slots : List Slot) (w : World σ) :
    run.enterHost host c slots w
      = match run.takeTurn (host.act w.memory c slots) (entering c slots w) with
        | .ok r w' => .ok r (leaving w')
        | .error e w' => .error e (leaving w') := rfl

theorem enterHost_ends {r : Reply} (h : run.enterHost host c slots w = .ok r w') :
    (host.act w.memory c slots).Ends r := by
  rw [enterHost_eq] at h
  rcases e : run.takeTurn (host.act w.memory c slots) (entering c slots w) with ⟨r', w₁⟩ | ⟨f, w₁⟩
  · rw [e] at h
    cases h
    exact takeTurn_ends e
  · rw [e] at h
    cases h

/-- **An approval is a reply that does not refuse**, from a host that was not busy, and reading it takes nothing
more. -/
theorem approve_ok {classId : Int32} {t : UInt64} {args : List Value} {u : Unit}
    (h : run.approve host classId t args w = .ok u w') :
    w.busy = false ∧ args.length ≤ w.bridge.maxArguments - 2 ∧ ∃ r w₁, ¬ r.Refuses ∧
      run.enterHost host .constructor (.int32 classId :: .rawPointer t :: (openFrame args w).1)
        (openFrame args w).2 = .ok r w₁ ∧ w' = closeFrame w₁ := by
  rw [approve, Act.bind_bridge] at h
  have hfits : args.length ≤ w.bridge.maxArguments - 2 := by
    refine Nat.not_lt.mp fun hmany => ?_
    rw [checkArity_exceeded run hmany] at h
    obtain ⟨e, w₁, hthrow⟩ := run.throwNew_fails (α := Unit) .internalError
      (BridgeFault.tooManyArguments args.length).message w
    cases hthrow.symm.trans h
  rw [Act.bind_ok (checkArity_fits run hfits w), callHost_eq] at h
  rcases e : run.callBody host .constructor ([.int32 classId, .rawPointer t] ++ (openFrame args w).1)
      run.approval w.busy (openFrame args w).2 with ⟨u', w₂⟩ | ⟨f, w₂⟩
  · rw [e] at h
    cases h
    rcases hbusy : w.busy with - | -
    · rw [callBody, hbusy, if_neg Bool.false_ne_true] at e
      obtain ⟨r, w₁, henter, happroval⟩ := Act.of_bind_ok e
      have hyes : ¬ r.Refuses := by
        intro hno
        obtain ⟨f, w₃, hfails⟩ := @approval_fails σ run r hno w₁
        cases hfails.symm.trans happroval
      refine ⟨rfl, hfits, r, w₁, hyes, henter, ?_⟩
      cases r with
      | done => cases happroval; rfl
      | value s => cases happroval; rfl
      | throw s => exact absurd trivial hyes
      | failure n => exact absurd trivial hyes
    · rw [callBody, hbusy, if_pos rfl] at e
      obtain ⟨f, w₃, hfails⟩ := run.throwFault_fails (α := Unit) .hostBusy (openFrame args w).2
      cases hfails.symm.trans e
  · rw [e] at h
    cases h

end Runner

/-- The sentinel stays what it is, and the host is as busy as before. -/
structure SameSentinel (w w' : World σ) : Prop where
  busy : w'.busy = w.busy
  intrinsics : w'.bridge.intrinsics = w.bridge.intrinsics

namespace SameSentinel

variable {w w' : World σ}

theorem isSentinel (h : SameSentinel w w') (args : List Value) :
    Runner.isSentinel w'.bridge args = Runner.isSentinel w.bridge args := by
  unfold Runner.isSentinel
  rw [h.intrinsics]

theorem encodeAll_intrinsics (args : List Value) (b : Bridge) : (b.encodeAll args).2.intrinsics = b.intrinsics := by
  induction args generalizing b with
  | nil => rfl
  | cons v rest ih =>
    refine (ih (b.encode v).2).trans ?_
    cases v <;> rfl

theorem upkeep : Upkeep (σ := σ) SameSentinel where
  refl _ := ⟨rfl, rfl⟩
  trans h h' := ⟨h'.busy.trans h.busy, h'.intrinsics.trans h.intrinsics⟩
  memory _ _ := ⟨rfl, rfl⟩
  log _ _ := ⟨rfl, rfl⟩
  retained _ _ _ _ := ⟨rfl, rfl⟩
  released _ _ _ _ _ := ⟨rfl, rfl⟩
  promised _ _ _ := ⟨rfl, rfl⟩

theorem reporting : Reporting (σ := σ) SameSentinel where
  deferred _ _ := ⟨rfl, rfl⟩
  rejected _ _ _ := ⟨rfl, rfl⟩
  logged _ _ := ⟨rfl, rfl⟩

/-- No script changes the sentinel. -/
theorem bystander (host : Host σ) : Bystander host (SameSentinel (σ := σ)) where
  toBackground := upkeep.toBackground
  engineChange _ _ := ⟨rfl, rfl⟩
  rejection _ hr := upkeep.rejection hr reporting host
  instanceBuilt _ _ _ _ := ⟨rfl, rfl⟩
  memberAsked _ _ _ _ _ := ⟨rfl, rfl⟩
  tokenDrawn _ _ := ⟨rfl, rfl⟩
  tokenMade _ _ := ⟨rfl, rfl⟩
  tokenRefused _ _ := ⟨rfl, rfl⟩
  callback _ hr _ _ _ args _ _ _ hf w :=
    upkeep.callHost hr hf ⟨rfl, encodeAll_intrinsics args { w.bridge with ledger := w.bridge.ledger.pushFrame }⟩
      (fun hb _ h => ⟨hb.symm, h.intrinsics⟩) fun _ => ⟨rfl, rfl⟩

end SameSentinel

/-! ### Warrants -/

/-- The host has just approved this token for an instance of the class; it was asked right after the token was
drawn, and for nothing else in between. -/
def Approved (host : Host σ) (classId : Int32) (t : UInt64) (earlier : List Occurrence) : Prop :=
  ∃ (memory : σ) (slots : List Slot) (r : Reply) (during : List Occurrence) (handles : List Handle)
    (first : List Occurrence),
    (host.act memory .constructor (.int32 classId :: .rawPointer t :: slots)).Ends r ∧ ¬ r.Refuses ∧
    (∀ x ∈ during, x.enters = false) ∧
    earlier = .left :: during ++ .entered .constructor (.int32 classId :: .rawPointer t :: slots)
      :: (handles.map Occurrence.issued ++ .drawn t :: first)

/-- What an instance is built on: an approval of the host, or nothing but the drawing of its token. -/
def Warranted (host : Host σ) (classId : Int32) (t : UInt64) (earlier : List Occurrence) : Prop :=
  ∃ before, earlier = .made t :: before ∧ (Approved host classId t before ∨ ∃ first, before = .drawn t :: first)

/-- Every instance in the journal was built on a warrant. -/
def AllWarranted (host : Host σ) (j : List Occurrence) : Prop :=
  ∀ later r k t earlier, j = later ++ .built r k t :: earlier → Warranted host k t earlier

def Occurrence.builds : Occurrence → Bool
  | built .. => true
  | _ => false

namespace AllWarranted

variable {host : Host σ} {j : List Occurrence}

theorem start : AllWarranted host [] := fun later r k t earlier h => by simp at h

theorem cons (h : AllWarranted host j) {x : Occurrence}
    (hx : ∀ r k t, x = .built r k t → Warranted host k t j) : AllWarranted host (x :: j) := by
  intro later r k t earlier heq
  cases later with
  | nil =>
    cases heq
    exact hx r k t rfl
  | cons y later =>
    cases heq
    exact h later r k t earlier rfl

theorem keep (h : AllWarranted host j) {x : Occurrence} (hx : x.builds = false) : AllWarranted host (x :: j) := by
  refine h.cons ?_
  rintro r k t rfl
  cases hx

theorem later (h : AllWarranted host j) {es : List Occurrence} (hes : ∀ x ∈ es, x.builds = false) :
    AllWarranted host (es ++ j) := by
  induction es with
  | nil => exact h
  | cons x es ih => exact (ih fun y hy => hes y (List.mem_cons_of_mem _ hy)).keep (hes x List.mem_cons_self)

end AllWarranted

/-- From one world to the other instances come by being built, and on a warrant. -/
structure Warrants (host : Host σ) (w w' : World σ) : Prop where
  busy : w'.busy = w.busy
  grown : ∃ es, w'.bridge.journal = es ++ w.bridge.journal ∧ (w.busy = true → ∀ x ∈ es, x.enters = false)
  instances : ∀ {r k t}, (w'.engine.obj r).kind = .host (.instance k t) →
    (w.engine.obj r).kind = .host (.instance k t) ∨ .built r k t ∈ w'.bridge.journal
  warranted : AllWarranted host w.bridge.journal → AllWarranted host w'.bridge.journal

namespace Warrants

variable {host : Host σ} {w w' : World σ}

theorem of_harmless {e e' : Engine} (h : Engine.Harmless e e') {r : Ref} {k : Int32} {t : UInt64}
    (hr : (e'.obj r).kind = .host (.instance k t)) : (e.obj r).kind = .host (.instance k t) := by
  rcases h r with hnone | ⟨hkind, -⟩
  · rw [Obj.token?, hr] at hnone
    cases hnone
  · exact hkind.symm.trans hr

/-- The instances of a heap with a new object. -/
theorem of_allocateObj {e : Engine} {o : Obj} {r : Ref} {k : Int32} {t : UInt64}
    (hr : ((e.allocateObj o).2.obj r).kind = .host (.instance k t)) :
    (e.obj r).kind = .host (.instance k t) ∨ r = .made e.next ∧ o.kind = .host (.instance k t) := by
  rcases Engine.obj_allocateObj e o r with ⟨hnew, hobj⟩ | hobj <;> rw [hobj] at hr
  · exact .inr ⟨hnew, hr⟩
  · exact .inl hr

/-- A step that calls no host and builds no instance. -/
theorem aside (es : List Occurrence) (hes : ∀ x ∈ es, x.enters = false ∧ x.builds = false)
    (hj : w'.bridge.journal = es ++ w.bridge.journal) (hb : w'.busy = w.busy)
    (he : Engine.Harmless w.engine w'.engine) : Warrants host w w' :=
  ⟨hb, ⟨es, hj, fun _ x hx => (hes x hx).1⟩, fun hr => .inl (of_harmless he hr), fun h =>
    hj ▸ h.later fun x hx => (hes x hx).2⟩

theorem silent (hj : w'.bridge.journal = w.bridge.journal) (hb : w'.busy = w.busy)
    (he : Engine.Harmless w.engine w'.engine) : Warrants host w w' :=
  aside [] (fun _ h => absurd h List.not_mem_nil) hj hb he

theorem noted {x : Occurrence} (hx : x.enters = false ∧ x.builds = false)
    (hj : w'.bridge.journal = x :: w.bridge.journal) (hb : w'.busy = w.busy)
    (he : Engine.Harmless w.engine w'.engine) : Warrants host w w' :=
  aside [x] (List.forall_mem_singleton.mpr hx) hj hb he

theorem steady : Steady (σ := σ) (Warrants host) where
  refl _ := silent rfl rfl (.refl _)
  trans := by
    rintro a b c ⟨hb, ⟨es, hes, hquiet⟩, hi, hw⟩ ⟨hb', ⟨fs, hfs, hquiet'⟩, hi', hw'⟩
    refine ⟨hb'.trans hb, ⟨fs ++ es, by rw [hfs, hes, List.append_assoc], fun hbusy x hx => ?_⟩, fun hr => ?_,
      fun h => hw' (hw h)⟩
    · exact (List.mem_append.mp hx).elim (hquiet' (hb.trans hbusy) x) (hquiet hbusy x)
    · rcases hi' hr with hr | hbuilt
      · exact (hi hr).imp_right fun hbuilt => hfs ▸ List.mem_append_right _ hbuilt
      · exact .inr hbuilt

theorem upkeep : Upkeep (σ := σ) (Warrants host) where
  toSteady := steady
  memory _ _ := silent rfl rfl (.refl _)
  log _ _ := silent rfl rfl (.refl _)
  retained _ _ _ _ := noted ⟨rfl, rfl⟩ rfl rfl (.refl _)
  released _ _ _ _ _ := noted ⟨rfl, rfl⟩ rfl rfl (.refl _)
  promised _ _ _ := noted ⟨rfl, rfl⟩ rfl rfl (.refl _)

theorem reporting : Reporting (σ := σ) (Warrants host) where
  deferred _ _ := silent rfl rfl (.refl _)
  rejected _ _ _ := noted ⟨rfl, rfl⟩ rfl rfl (.refl _)
  logged _ _ := noted ⟨rfl, rfl⟩ rfl rfl (.refl _)

/-! ### Callbacks -/

theorem opened (args : List Value) (w : World σ) : Warrants host w (openFrame args w).2 := by
  obtain ⟨es, hes, hissued⟩ := openFrame_issues args w
  refine aside es (fun x hx => ?_) hes rfl (.refl _)
  obtain ⟨h, rfl⟩ := hissued x hx
  exact ⟨rfl, rfl⟩

/-- The host's turn, from its beginning to its end. -/
theorem turn {c : Callback} {slots : List Slot} (hb : w.busy = false)
    (h : Warrants host (entering c slots w) w') : Warrants host w (leaving w') := by
  obtain ⟨es, hes, -⟩ := h.grown
  have hj : (leaving w').bridge.journal = (.left :: es ++ [.entered c slots]) ++ w.bridge.journal := by
    show Occurrence.left :: w'.bridge.journal = _
    rw [hes, List.append_assoc]
    rfl
  refine ⟨hb.symm, ⟨_, hj, fun hbusy => nomatch hb.symm.trans hbusy⟩, fun hr => ?_, fun hall => ?_⟩
  · exact (h.instances hr).imp_right fun hbuilt => List.mem_cons_of_mem _ hbuilt
  · have hentered : AllWarranted host (entering c slots w).bridge.journal := hall.keep rfl
    exact (h.warranted hentered).keep rfl

variable {run : Runner σ} (hr : run.Obeys (Warrants host))

include hr

theorem callback (c : Callback) (slots : List Slot) (args : List Value) {finish : Reply → Act σ α}
    (hf : ∀ r, (finish r).Keeps (Warrants host)) :
    Act.Keeps (Warrants host) (run.callHost host c slots args finish) :=
  fun w => upkeep.callHost hr hf (opened args w) (fun hb _ h => turn hb h) fun _ => silent rfl rfl (.refl _)

/-- While the host answers, it is not entered again. -/
theorem enterHost_journal {c : Callback} {slots : List Slot} {r : Reply}
    (h : run.enterHost host c slots w = .ok r w') :
    ∃ during : List Occurrence, (∀ x ∈ during, x.enters = false) ∧
      w'.bridge.journal = .left :: during ++ .entered c slots :: w.bridge.journal := by
  have hturn := upkeep.takeTurn hr (host.act w.memory c slots) (entering c slots w)
  have hleft := after_enterHost run host c slots w
  rw [Act.after_ok h] at hleft
  obtain ⟨es, hes, hquiet⟩ := hturn.grown
  refine ⟨es, hquiet rfl, ?_⟩
  rw [hleft]
  show Occurrence.left :: _ = _
  rw [hes]
  rfl

/-! ### Constructions -/

/-- An approval that is given is an approval in the journal. -/
theorem approved {classId : Int32} {t : UInt64} {args : List Value} {u : Unit} {first : List Occurrence}
    (hdrawn : w.bridge.journal = .drawn t :: first) (h : run.approve host classId t args w = .ok u w') :
    Approved host classId t w'.bridge.journal := by
  obtain ⟨-, -, r, w₁, hyes, henter, rfl⟩ := approve_ok h
  obtain ⟨during, hquiet, hjournal⟩ := enterHost_journal hr henter
  refine ⟨_, (openFrame args w).1, r, during, ((stagedArguments args w).map Prod.fst).reverse, first,
    enterHost_ends henter, hyes, hquiet, hjournal.trans ?_⟩
  rw [(openFrame_encodes args w).journal, hdrawn, List.map_reverse, List.map_map]
  rfl

omit hr in
/-- An instance is made on a warrant. -/
theorem makeInstance {classId : Int32} {t : UInt64} (proto : Ref)
    (hwarrant : Warranted host classId t (.made t :: w.bridge.journal)) :
    Warrants host w ((Runner.makeInstance classId t proto : Act σ Value).after w) := by
  refine ⟨rfl, ⟨[.built (.made w.engine.next) classId t, .made t], rfl, by simp [Occurrence.enters]⟩,
    fun {r k u} hkind => ?_, fun hall => ?_⟩
  · rcases of_allocateObj hkind with hold | ⟨rfl, hnew⟩
    · exact .inl hold
    · rw [Lasts.kind_hostObject] at hnew
      cases hnew
      exact .inr List.mem_cons_self
  · have hmade : AllWarranted host (.made t :: w.bridge.journal) := hall.keep rfl
    refine hmade.cons ?_
    rintro r k u ⟨⟩
    exact hwarrant

omit hr in
theorem makeWrapped : Act.Keeps (Warrants host) (Runner.makeWrapped : Act σ Ref) := by
  intro w
  refine ⟨rfl, ⟨[.made (w.bridge.lastToken + 1), .drawn (w.bridge.lastToken + 1)], rfl,
    by simp [Occurrence.enters]⟩, fun {r k t} hkind => ?_, fun hall => ?_⟩
  · rcases of_allocateObj hkind with hold | ⟨-, hnew⟩
    · exact .inl hold
    · rw [Lasts.kind_hostObject] at hnew
      cases hnew
  · exact (hall.keep (x := .drawn _) rfl).keep rfl

/-- A construction from the drawing of its token on. -/
theorem construction (classId : Int32) (sentinel : Bool) (proto : Ref) (args : List Value) :
    Act.Keeps (Warrants host) (do
      let token ← Runner.drawToken
      if !sentinel then Runner.approving token (run.approve host classId token args)
      Runner.makeInstance classId token proto) := by
  intro w
  have hdrawn : Warrants host w ((Runner.drawToken : Act σ UInt64).after w) :=
    noted (x := .drawn (w.bridge.lastToken + 1)) ⟨rfl, rfl⟩ rfl rfl (.refl _)
  refine steady.trans hdrawn ?_
  cases sentinel with
  | true => exact makeInstance proto ⟨_, rfl, .inr ⟨_, rfl⟩⟩
  | false =>
    have happroving : Act.Keeps (Warrants host) (Runner.approving (w.bridge.lastToken + 1)
        (run.approve host classId (w.bridge.lastToken + 1) args)) := by
      refine steady.approving (fun _ => noted ⟨rfl, rfl⟩ rfl rfl (.refl _)) ?_
      refine upkeep.bind upkeep.bridge fun b => upkeep.bind (upkeep.checkArity hr _ _) fun _ => ?_
      exact callback hr _ _ _ (upkeep.approval hr)
    -- what the host said is what the instance is made on
    refine steady.bindAt (happroving _) fun u w₁ e => makeInstance proto ?_
    exact ⟨_, rfl, .inl (approved hr rfl (approving_ok e))⟩

theorem callMember (classId : Int32) (position : Nat) (this : Value) (args : List Value) :
    Act.Keeps (Warrants host) (run.callMember host classId position this args) := by
  refine Act.keeps_bridge fun w => ?_
  rcases w.bridge.classes.route? classId position with - | route
  · exact upkeep.throwFault hr _ w
  · have hasked : Warrants host w { w with bridge := w.bridge.note (.asked classId position route this) } :=
      noted (x := .asked classId position route this) ⟨rfl, rfl⟩ rfl rfl (.refl _)
    exact steady.trans hasked (upkeep.sendMember hr fun fixed w₁ _ _ =>
      callback hr .call fixed _ (fun r => upkeep.replyValue hr r) w₁)

theorem callWrapped (t : UInt64) (args : List Value) :
    Act.Keeps (Warrants host) (run.callWrapped host t args) :=
  upkeep.bind upkeep.bridge fun _ => upkeep.bind (upkeep.checkArity hr _ _) fun _ =>
    callback hr _ _ _ fun r => upkeep.replyValue hr r

omit hr

/-- Objects die, and their tokens are queued. -/
theorem swept {e : Engine} {ts : List UInt64} (he : Engine.Harmless w.engine e) :
    Warrants host w { w with engine := e, bridge := Context.queueDeaths w.bridge ts } := by
  rw [Context.queueDeaths_eq]
  refine aside _ (fun x hx => ?_) rfl rfl he
  obtain ⟨t, -, rfl⟩ := mem_dying.mp hx
  exact ⟨rfl, rfl⟩

/-- **Every operation of a context builds on warrants.** -/
theorem service (host : Host σ) : Service host (Warrants host) where
  toBackground := upkeep.toBackground
  engineAnswer w q := silent rfl rfl (Engine.harmless_answer w.engine q)
  taskWritten w id t := silent rfl rfl (Engine.harmless_writeTask w.engine id t)
  taskKept _ _ := silent rfl rfl (.of_same rfl rfl)
  rejection _ hr := upkeep.rejection hr reporting host
  construction _ hr classId target args := upkeep.toBackground.constructInstance hr
    (fun sentinel proto => construction hr classId sentinel proto args) target
  memberCall _ hr := callMember hr
  wrappedCall _ hr w _ t args _ := callWrapped hr t args w
  moduleName run hr base name := upkeep.resolveName hr base name
    (callback hr _ _ _ (upkeep.namedModule _ _))
  moduleText run hr name := upkeep.loadSource hr name (callback hr _ _ _ upkeep.moduleSource)
  retained := upkeep.retained
  released := upkeep.released
  promised := upkeep.promised
  busy h := h.busy
  withholding _ hr _ _ := upkeep.withholding hr reporting host
  valueStaged _ _ _ := noted ⟨rfl, rfl⟩ rfl rfl (.refl _)
  valueHeld _ _ _ := noted ⟨rfl, rfl⟩ rfl rfl (.refl _)
  promiseTaken _ _ _ _ _ := noted ⟨rfl, rfl⟩ rfl rfl (.refl _)
  hostMade w h proto members hh := silent rfl rfl
    (Engine.harmless_allocateObj w.engine ((token?_hostObject h proto members).trans hh))
  functionWrapped := makeWrapped
  classAdded _ _ := silent rfl rfl (.refl _)
  intrinsicsSet _ _ := silent rfl rfl (.refl _)
  jobTaken _ _ := silent rfl rfl (.of_same rfl rfl)
  cacheCleared _ := silent rfl rfl (.refl _)
  collected _ := swept (.of_endures (Engine.endures_collect _ _))
  tablesReleased _ := noted ⟨rfl, rfl⟩ rfl rfl (.refl _)
  noticesDelivered run hr n _ hb := by
    have notice : ∀ t (w : World σ), w.busy = false → Warrants host w
        (Act.after (run.callHost host .delete [.rawPointer t] [] fun _ => pure ()) w) :=
      fun t w _ => callback hr .delete [.rawPointer t] [] (fun _ => steady.pure ()) w
    exact steady.deliverDue (fun h => h.busy)
      (fun _ hb => steady.deliverNext (fun h => h.busy) (fun _ _ => silent rfl rfl (.refl _)) notice hb)
      (fun _ => swept (.of_endures (Engine.endures_release _ _))) n hb

end Warrants

/-! ### Constructions with the sentinel -/

/-- **A construction with the sentinel runs no script** where the prototype of its target is known, and leaves
nothing behind but the instance. -/
theorem Machine.construct_sentinel (host : Host σ) (steps depth : Nat) {f target proto : Ref} {classId : Int32}
    {n : Nat} {args : List Value} {w : World σ} (hf : (w.engine.obj f).kind = .host (.constructor classId))
    (hcallable : (w.engine.obj target).kind.callable = true)
    (hproto : w.engine.Finds (Key.ofString "prototype") n target (some (.object proto))) (hn : n ≤ chainLimit)
    (hsentinel : isSentinel w.bridge args = true) :
    let done := Machine.constructObject (Machine.runner host steps depth) host f args target w
    let t := w.bridge.lastToken + 1
    let o := hostObject (.instance classId t) proto [(targetKey, .fixed (tokenValue t))]
    done = .error .interrupted w ∨ done = .ok (.object (.made w.engine.next)) { w with
      engine := (w.engine.allocateObj o).2
      bridge := ((({ w.bridge with lastToken := t }.note (.drawn t)).note (.made t)).note
        (.built (.made w.engine.next) classId t)) } := by
  intro done t o
  have hr : (Machine.runner host steps depth).Obeys (Warrants host) := (Warrants.service host).toConduct.runner _ _
  have hdone : done = (Machine.runner host steps depth).constructInstance host classId (.object target) args w :=
    Machine.constructObject_constructor _ host args hf target
  have hcalls : Sees (isCallable (.object target) : Script Bool Bool) w.engine true :=
    .bind (.look target w.engine) (by rw [hcallable]; exact .pure true _)
  have hshown : Sees (target.getNamed "prototype" : Script Value Value) w.engine (.object proto) :=
    sees_get hproto hn (.object target)
  rw [hdone]
  rcases hr.script_sees hcalls with e | e
  · exact .inl (Act.bind_error e)
  rcases hr.script_sees hshown with e' | e'
  · left
    rw [constructInstance, Act.bind_ok e]
    show ((Machine.runner host steps depth).thrownFaults _ >>= _) w = _
    refine Act.bind_error ?_
    rw [thrownFaults, Act.bind_error e']
  · right
    have hconverted : (Machine.runner host steps depth).thrownFaults (do
        asObject (Machine.runner host steps depth)
          (← (Machine.runner host steps depth).script (target.getNamed "prototype"))) w = .ok proto w := by
      rw [thrownFaults, Act.bind_ok e']
      rfl
    rw [constructInstance, Act.bind_ok e]
    show ((Machine.runner host steps depth).thrownFaults _ >>= _) w = _
    rw [Act.bind_ok hconverted, Act.bind_bridge, hsentinel]
    rfl

/-- **What a construction that succeeds rests on**: without the sentinel, on an approval of the host. -/
theorem Machine.construction_warranted (host : Host σ) (steps depth : Nat) {classId : Int32} {target v : Value}
    {args : List Value} {w w' : World σ}
    (h : (Machine.runner host steps depth).constructInstance host classId target args w = .ok v w') :
    ∃ r t before, v = .object r ∧ w'.bridge.journal = .built r classId t :: .made t :: before ∧
      (isSentinel w.bridge args = false → Approved host classId t before) ∧
      (isSentinel w.bridge args = true → ∃ first, before = .drawn t :: first) := by
  have hrun : (Machine.runner host steps depth).Obeys SameSentinel :=
    (SameSentinel.bystander host).conduct.runner steps depth
  obtain ⟨proto, w₀, hsame, hmade⟩ := constructInstance_ok SameSentinel.upkeep.toBackground hrun h
  rw [hsame.isSentinel] at hmade
  rcases hmade with ⟨hs, hmade⟩ | ⟨hs, w₁, happrove, hmade⟩ <;>
    obtain ⟨r, rfl, -, hj⟩ := makeInstance_builds hmade
  · refine ⟨r, _, _, rfl, hj, fun hno => ?_, fun _ => ⟨_, rfl⟩⟩
    cases hs.symm.trans hno
  · have hr : (Machine.runner host steps depth).Obeys (Warrants host) :=
      (Warrants.service host).toConduct.runner _ _
    refine ⟨r, _, _, rfl, hj, fun _ => Warrants.approved hr rfl happrove, fun hyes => ?_⟩
    cases hs.symm.trans hyes

/-! ### The whole -/

/-- **Where instances come from.**  In every context, after whatever operations, scripts and callbacks:

1. an object that is an instance was built as one;
2. whenever an instance was built, its token had been drawn right before, and the host had been asked about it and
   had said yes, or nothing had happened in between;
3. a construction that succeeds rests on the host's word, unless its only argument is the sentinel;
4. a construction with the sentinel, whose target shows its prototype, runs no script, and leaves nothing behind
   but the instance. -/
theorem Context.Reachable.instance_origins {c : Context σ} (hc : c.Reachable) :
    (∀ r k t, (c.world.engine.obj r).kind = .host (.instance k t) → .built r k t ∈ c.world.bridge.journal) ∧
    (∀ later r k t earlier, c.world.bridge.journal = later ++ .built r k t :: earlier →
      Warranted c.host k t earlier) ∧
    (∀ steps depth k target args (w w' : World σ) v,
      (Machine.runner c.host steps depth).constructInstance c.host k target args w = .ok v w' →
      ∃ r t before, v = .object r ∧ w'.bridge.journal = .built r k t :: .made t :: before ∧
        (isSentinel w.bridge args = false → Approved c.host k t before) ∧
        (isSentinel w.bridge args = true → ∃ first, before = .drawn t :: first)) ∧
    (∀ steps depth f target proto k n args (w : World σ), (w.engine.obj f).kind = .host (.constructor k) →
      (w.engine.obj target).kind.callable = true →
      w.engine.Finds (Key.ofString "prototype") n target (some (.object proto)) → n ≤ chainLimit →
      isSentinel w.bridge args = true →
      let done := Machine.constructObject (Machine.runner c.host steps depth) c.host f args target w
      let t := w.bridge.lastToken + 1
      let o := hostObject (.instance k t) proto [(targetKey, .fixed (tokenValue t))]
      done = .error .interrupted w ∨ done = .ok (.object (.made w.engine.next)) { w with
        engine := (w.engine.allocateObj o).2
        bridge := ((({ w.bridge with lastToken := t }.note (.drawn t)).note (.made t)).note
          (.built (.made w.engine.next) k t)) }) := by
  obtain ⟨s, memory, hwarrants⟩ := hc.kept (Warrants.service c.host)
  refine ⟨fun r k t hkind => ?_, hwarrants.warranted .start, ?_, ?_⟩
  · refine (hwarrants.instances hkind).resolve_left fun hfirst => ?_
    cases r with
    | builtin b =>
      have hnone := token?_initial b
      rw [Obj.token?, show b.initial.kind = _ from hfirst] at hnone
      cases hnone
    | made n => cases hfirst
  · intro steps depth k target args w w' v h
    exact Machine.construction_warranted c.host steps depth h
  · intro steps depth f target proto k n args w hf hcallable hproto hn hsentinel
    exact Machine.construct_sentinel c.host steps depth hf hcallable hproto hn hsentinel

/-- What is told of a construction. -/
def Occurrence.built? : Occurrence → Option (Ref × Int32 × UInt64)
  | built r k t => some (r, k, t)
  | _ => none

theorem Occurrence.of_built? {x : Occurrence} {r : Ref} {k : Int32} {t : UInt64} (h : x.built? = some (r, k, t)) :
    x = .built r k t := by
  unfold Occurrence.built? at h
  split at h <;> cases h
  rfl

namespace Context

/-- A script constructs an instance after the host has bound one. -/
def constructing : Context Unit := binding.apply (.tryDispatch .eval [.text "new Counter()", .text "a"])

theorem constructing_reachable : constructing.Reachable :=
  .step _ (.step _ (.step _ spacious_reachable))

/-- Two instances were built, each on a warrant. -/
theorem Reachable.instance_origins_constructing :
    constructing.Reachable ∧ (findings Occurrence.built? constructing.world.bridge.journal).map Prod.snd
      = [(7, 1), (7, 2)] ∧
    ∃ later r earlier, constructing.world.bridge.journal = later ++ .built r 7 2 :: earlier ∧
      Warranted constructing.host 7 2 earlier := by
  have hbuilt : (findings Occurrence.built? constructing.world.bridge.journal).map Prod.snd = [(7, 1), (7, 2)] := by
    decide +kernel
  have hmem : (7, 2) ∈ (findings Occurrence.built? constructing.world.bridge.journal).map Prod.snd := by
    rw [hbuilt]
    exact List.mem_cons_of_mem _ List.mem_cons_self
  obtain ⟨⟨r, k, t⟩, hfound, heq⟩ := List.mem_map.mp hmem
  cases heq
  obtain ⟨x, hx, hsome⟩ := mem_findings.mp hfound
  cases Occurrence.of_built? hsome
  obtain ⟨later, earlier, hj⟩ := List.append_of_mem hx
  have hwarranted := (instance_origins constructing_reachable).2.1
  exact ⟨constructing_reachable, hbuilt, later, r, earlier, hj, hwarranted _ _ _ _ _ hj⟩

end Context

/-! ### The sentinel in the hands of a script -/

/-- A host that turns every construction down. -/
def Host.refusing : Host Unit where
  act m c _ :=
    match c with
    | .constructor => .reply (.throw (.text "no")) m
    | _ => .reply .done m
  print m _ _ := m

namespace Context

/-- The host has registered a class, and has bound a function of a script, which keeps what it is given. -/
def leaking : Context Unit :=
  (((blank .refusing ⟨400, 5⟩ ⟨8, false, none⟩ ()).perform install).2.apply (.registerClass ⟨"P", []⟩ 1)).apply
    (.tryDispatch .eval [.text "var t; (function(s){t=s})", .text "a"]) |>.apply
    (.tryDispatch .bind [.scriptValue ⟨2⟩])

/-- Then a script constructs, with what was kept. -/
def leaked : Context Unit := leaking.apply (.tryDispatch .eval [.text "new P(t)", .text "a"])

/-- The host is asked for its approval. -/
def asksApproval : Occurrence → Bool
  | .entered .constructor _ => true
  | _ => false

/-- The class and the token of an instance. -/
def instance? : Kind → Option (Int32 × UInt64)
  | .host (.instance k t) => some (k, t)
  | _ => none

theorem of_instance? {kind : Kind} {k : Int32} {t : UInt64} (h : instance? kind = some (k, t)) :
    kind = .host (.instance k t) := by
  unfold instance? at h
  split at h <;> cases h
  rfl

/-- **A script constructs without the host.**  The host turns every construction down and was never even asked;
what it had asked to be bound has brought forth no instance; and yet a script gets one afterwards. -/
theorem leaking_constructs : leaked.Reachable ∧
    (∀ m slots r, Turn.Ends (leaked.host.act m .constructor slots) r → r.Refuses) ∧
    (∀ slots, .entered .constructor slots ∉ leaked.world.bridge.journal) ∧
    (∀ r k t, .built r k t ∉ leaking.world.bridge.journal) ∧
    ∃ r, .built r 1 1 ∈ leaked.world.bridge.journal ∧
      (leaked.world.engine.obj r).kind = .host (.instance 1 1) := by
  have hcreated : Reachable ((blank .refusing ⟨400, 5⟩ ⟨8, false, none⟩ ()).perform install).2 :=
    .created (create_of_ok .refusing ⟨400, 5⟩ rfl (by decide +kernel))
  have hhost : leaked.host = .refusing := by
    rw [leaked, apply_host, leaking, apply_host, apply_host, apply_host, perform_host]
    rfl
  obtain ⟨hunasked, hunbuilt, hbuilt, hkind⟩ : leaked.world.bridge.journal.any asksApproval = false ∧
      findings Occurrence.built? leaking.world.bridge.journal = [] ∧
      findings Occurrence.built? leaked.world.bridge.journal = [(.made 14, 1, 1)] ∧
      instance? (leaked.world.engine.obj (.made 14)).kind = some (1, 1) := by decide +kernel
  refine ⟨.step _ (.step _ (.step _ (.step _ hcreated))), fun m slots r h => ?_, fun slots hx => ?_,
    fun r k t hx => ?_, .made 14, ?_, of_instance? hkind⟩
  · rw [hhost] at h
    cases h
    trivial
  · exact absurd (List.any_eq_true.mpr ⟨_, hx, rfl⟩) (ne_true_of_eq_false hunasked)
  · have hmem : (r, k, t) ∈ findings Occurrence.built? leaking.world.bridge.journal := mem_findings.mpr ⟨_, hx, rfl⟩
    rw [hunbuilt] at hmem
    cases hmem
  · have hmem : (.made 14, 1, 1) ∈ findings Occurrence.built? leaked.world.bridge.journal := by
      rw [hbuilt]
      exact List.mem_singleton_self _
    obtain ⟨x, hx, hsome⟩ := mem_findings.mp hmem
    cases Occurrence.of_built? hsome
    exact hx

end Context

end ScriptBridge
