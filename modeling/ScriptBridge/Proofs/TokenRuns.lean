import ScriptBridge.Proofs.Receivers
import ScriptBridge.Proofs.TokenLife

/-!
Tokens along every run.
-/
namespace ScriptBridge

open Data Text Script Script.Script Runner

variable {σ α : Type}

/-! ### Growing journals -/

/-- The journal grows by occurrences that satisfy `Q`, and the host is as busy as before. -/
structure Adds (Q : Occurrence → Prop) (w w' : World σ) : Prop where
  busy : w'.busy = w.busy
  journal : ∃ es, w'.bridge.journal = es ++ w.bridge.journal ∧ ∀ x ∈ es, Q x

/-- It is neither a death nor a notice of one. -/
def Occurrence.Scripted : Occurrence → Prop
  | .died _ | .entered .delete _ => False
  | _ => True

namespace Adds

variable {Q : Occurrence → Prop} {w w' : World σ}

theorem nothing (hj : w'.bridge.journal = w.bridge.journal) (hb : w'.busy = w.busy) : Adds Q w w' :=
  ⟨hb, [], hj, fun _ h => absurd h List.not_mem_nil⟩

theorem one {x : Occurrence} (hj : w'.bridge.journal = x :: w.bridge.journal)
    (hb : w'.busy = w.busy) (hx : Q x) : Adds Q w w' :=
  ⟨hb, [x], hj, List.forall_mem_singleton.mpr hx⟩

theorem steady : Steady (σ := σ) (Adds Q) where
  refl _ := nothing rfl rfl
  trans := by
    rintro a b c ⟨hb, es, hes, hqe⟩ ⟨hb', fs, hfs, hqf⟩
    refine ⟨hb'.trans hb, fs ++ es, ?_, fun x hx => ?_⟩
    · rw [hfs, hes, List.append_assoc]
    · exact (List.mem_append.mp hx).elim (hqf x) (hqe x)

variable (hQ : ∀ x : Occurrence, x.Scripted → Q x)

include hQ

theorem upkeep : Upkeep (σ := σ) (Adds Q) where
  toSteady := steady
  memory _ _ := nothing rfl rfl
  log _ _ := nothing rfl rfl
  retained _ _ _ _ := one rfl rfl (hQ _ trivial)
  released _ _ _ _ _ := one rfl rfl (hQ _ trivial)
  promised _ _ _ := one rfl rfl (hQ _ trivial)

theorem reporting : Reporting (σ := σ) (Adds Q) where
  deferred _ _ := nothing rfl rfl
  rejected _ _ _ := one rfl rfl (hQ _ trivial)
  logged _ _ := one rfl rfl (hQ _ trivial)

theorem opened (args : List Value) (w : World σ) : Adds Q w (openFrame args w).2 := by
  obtain ⟨es, hes, hissued⟩ := openFrame_issues args w
  refine ⟨rfl, es, hes, fun x hx => ?_⟩
  obtain ⟨h, rfl⟩ := hissued x hx
  exact hQ _ trivial

/-- The host's turn, from its beginning to its end. -/
theorem turn {c : Callback} {slots : List Slot} (hc : Q (.entered c slots)) (hb : w.busy = false)
    (h : Adds Q (entering c slots w) w') : Adds Q w (leaving w') := by
  obtain ⟨es, hes, hqe⟩ := h.journal
  refine ⟨hb.symm, .left :: (es ++ [.entered c slots]), ?_, fun x hx => ?_⟩
  · show Occurrence.left :: w'.bridge.journal = _
    rw [hes, List.cons_append, List.append_assoc]
    rfl
  · rcases List.mem_cons.mp hx with rfl | hx
    · exact hQ _ trivial
    · rcases List.mem_append.mp hx with hx | hx
      · exact hqe x hx
      · exact List.mem_singleton.mp hx ▸ hc

/-- Scripts add neither a death nor a notice of one. -/
theorem bystander (host : Host σ) : Bystander host (Adds Q) where
  toBackground := (upkeep hQ).toBackground
  engineChange _ _ := nothing rfl rfl
  rejection _ hr := (upkeep hQ).rejection hr (reporting hQ) host
  instanceBuilt _ _ _ _ := one rfl rfl (hQ _ trivial)
  memberAsked _ _ _ _ _ := one rfl rfl (hQ _ trivial)
  tokenDrawn _ _ := one rfl rfl (hQ _ trivial)
  tokenMade _ _ := one rfl rfl (hQ _ trivial)
  tokenRefused _ _ := one rfl rfl (hQ _ trivial)
  callback run hr {α} c slots args finish hc _ hf w := by
    refine (upkeep hQ).callHost hr hf (opened hQ args w) (fun hb w' h => ?_) fun _ => nothing rfl rfl
    refine turn hQ (hQ _ ?_) hb h
    cases c with
    | delete => exact absurd rfl hc
    | _ => trivial

end Adds

/-- The journal grows. -/
abbrev Grows : World σ → World σ → Prop := Adds fun _ => True

theorem World.Few.earlier {w w' : World σ} (h : w'.Few) {es : List Occurrence}
    (hes : w'.bridge.journal = es ++ w.bridge.journal) : w.Few := by
  have hlength : (draws w'.bridge.journal).length < 2 ^ 53 := h
  rw [hes, draws, findings_append, List.length_append] at hlength
  exact Nat.lt_of_le_of_lt (Nat.le_add_right _ _) hlength

theorem World.Few.of_grows {w w' : World σ} (h : w'.Few) (hg : Grows w w') : w.Few := by
  obtain ⟨es, hes, -⟩ := hg.journal
  exact h.earlier hes

/-! ### Lives -/

/-- From one world to another, while the constructions under way change from `P` to `P'`. -/
structure Brings (w : World σ) (P : List UInt64) (w' : World σ) (P' : List UInt64) : Prop where
  grows : Grows w w'
  life : w'.Few → w.Life P → w'.Life P'

theorem Brings.trans {w₁ w₂ w₃ : World σ} {P₁ P₂ P₃ : List UInt64} (h : Brings w₁ P₁ w₂ P₂)
    (h' : Brings w₂ P₂ w₃ P₃) : Brings w₁ P₁ w₃ P₃ :=
  ⟨Adds.steady.trans h.grows h'.grows,
    fun hfew hlife => h'.life hfew (h.life (hfew.of_grows h'.grows) hlife)⟩

/-- The constructions that were under way still are, whatever they are, if those in `A` are among
them. -/
def Lives (A : List UInt64) (w w' : World σ) : Prop := ∀ P, A ⊆ P → Brings w P w' P

namespace Lives

variable {A : List UInt64} {w w' : World σ}

theorem grows (h : Lives A w w') : Grows w w' := (h A fun _ h => h).grows

theorem weaken (h : Lives [] w w') : Lives A w w' := fun P _ => h P (List.nil_subset P)

theorem steady : Steady (σ := σ) (Lives A) where
  refl w _ _ := ⟨Adds.steady.refl w, fun _ h => h⟩
  trans h h' P hP := (h P hP).trans (h' P hP)

theorem obeys {run : Runner σ} (hr : run.Obeys (Lives [])) : run.Obeys (Lives A) :=
  ⟨fun p w => weaken (hr.keeps p w), hr.sound, hr.reads⟩

theorem obeys_grows {run : Runner σ} (hr : run.Obeys (Lives [])) : run.Obeys Grows :=
  ⟨fun p w => (hr.keeps p w).grows, hr.sound, hr.reads⟩

/-- A step that is not about tokens. -/
theorem aside (es : List Occurrence) (hes : ∀ x ∈ es, x.isPlain = true)
    (hj : w'.bridge.journal = es ++ w.bridge.journal) (hlast : w'.bridge.lastToken = w.bridge.lastToken)
    (hqueue : w'.bridge.finalized = w.bridge.finalized) (hb : w'.busy = w.busy)
    (he : Engine.Harmless w.engine w'.engine) : Lives A w w' :=
  fun _ _ => ⟨⟨hb, es, hj, fun _ _ => trivial⟩, fun _ h => h.aside es hes hj hlast hqueue hb he⟩

/-- The same without a note. -/
theorem silent (hj : w'.bridge.journal = w.bridge.journal)
    (hlast : w'.bridge.lastToken = w.bridge.lastToken)
    (hqueue : w'.bridge.finalized = w.bridge.finalized) (hb : w'.busy = w.busy)
    (he : Engine.Harmless w.engine w'.engine) : Lives A w w' :=
  aside [] (fun _ h => absurd h List.not_mem_nil) hj hlast hqueue hb he

/-- The same with one note. -/
theorem noted {x : Occurrence} (hx : x.isPlain = true)
    (hj : w'.bridge.journal = x :: w.bridge.journal) (hlast : w'.bridge.lastToken = w.bridge.lastToken)
    (hqueue : w'.bridge.finalized = w.bridge.finalized) (hb : w'.busy = w.busy)
    (he : Engine.Harmless w.engine w'.engine) : Lives A w w' :=
  aside [x] (List.forall_mem_singleton.mpr hx) hj hlast hqueue hb he

theorem upkeep : Upkeep (σ := σ) (Lives A) where
  toSteady := steady
  memory _ _ := silent rfl rfl rfl rfl (.refl _)
  log _ _ := silent rfl rfl rfl rfl (.refl _)
  retained _ _ _ _ := noted rfl rfl rfl rfl rfl (.refl _)
  released _ _ _ _ _ := noted rfl rfl rfl rfl rfl (.refl _)
  promised _ _ _ := noted rfl rfl rfl rfl rfl (.refl _)

theorem reporting : Reporting (σ := σ) (Lives A) where
  deferred _ _ := silent rfl rfl rfl rfl (.refl _)
  rejected _ _ _ := noted rfl rfl rfl rfl rfl (.refl _)
  logged _ _ := noted rfl rfl rfl rfl rfl (.refl _)

/-! ### Callbacks -/

theorem encodeAll_rest (args : List Value) (b : Bridge) :
    (b.encodeAll args).2.lastToken = b.lastToken ∧ (b.encodeAll args).2.finalized = b.finalized
      ∧ ∀ t, .rawPointer t ∉ (b.encodeAll args).1 := by
  induction args generalizing b with
  | nil => exact ⟨rfl, rfl, fun _ => List.not_mem_nil⟩
  | cons v rest ih =>
    obtain ⟨hlast, hqueue, hslots⟩ := ih (b.encode v).2
    have hv : (b.encode v).2.lastToken = b.lastToken ∧ (b.encode v).2.finalized = b.finalized
        ∧ ∀ t, (b.encode v).1 ≠ .rawPointer t := by
      cases v <;> exact ⟨rfl, rfl, nofun⟩
    refine ⟨hlast.trans hv.1, hqueue.trans hv.2.1, fun t ht => ?_⟩
    rcases List.mem_cons.mp ht with heq | ht
    · exact hv.2.2 t heq.symm
    · exact hslots t ht

theorem opened (args : List Value) (w : World σ) : Lives A w (openFrame args w).2 := by
  obtain ⟨hlast, hqueue, -⟩ :=
    encodeAll_rest args { w.bridge with ledger := w.bridge.ledger.pushFrame }
  obtain ⟨es, hes, hissued⟩ := openFrame_issues args w
  refine aside es (fun x hx => ?_) hes hlast hqueue rfl (.refl _)
  obtain ⟨h, rfl⟩ := hissued x hx
  rfl

/-- A callback that carries only what it may. -/
theorem callback {host : Host σ} {run : Runner σ} (hr : run.Obeys (Lives [])) {c : Callback}
    (hc : c ≠ .delete) {slots : List Slot} {args : List Value} {finish : Reply → Act σ α}
    (hf : ∀ r, (finish r).Keeps (Lives A)) {w : World σ}
    (hslots : ∀ P, A ⊆ P → World.Life (openFrame args w).2 P → ∀ t, .rawPointer t ∈ slots →
      c.MayCarry (openFrame args w).2.bridge.journal t) :
    Lives A w ((run.callHost host c slots args finish).after w) := by
  refine upkeep.callHost (obeys hr) hf (opened args w) (fun hb w' h => ?_) fun w' =>
    silent rfl rfl rfl rfl (.refl _)
  refine fun P hP => ⟨Adds.turn (fun _ _ => trivial) trivial hb h.grows, fun hfew hlife => ?_⟩
  have hmay : ∀ t, .rawPointer t ∈ slots ++ (openFrame args w).1 →
      c.MayCarry (openFrame args w).2.bridge.journal t := by
    intro t ht
    rcases List.mem_append.mp ht with ht | ht
    · exact hslots P hP hlife t ht
    · exact absurd ht ((encodeAll_rest args _).2.2 t)
  have hbefore : w'.Few := hfew.earlier (show _ = [.left] ++ _ from rfl)
  exact ((h P hP).life hbefore (hlife.entered hb hc hmay)).left h.grows.busy

end Lives

/-! ### Constructions -/

namespace Brings

variable {w : World σ} {P : List UInt64}

theorem drawn : Brings w P ((Runner.drawToken : Act σ UInt64).after w)
    ((w.bridge.lastToken + 1) :: P) := by
  refine ⟨Adds.one rfl rfl trivial, fun hfew h => h.drawn ?_⟩
  have hlength : (draws (.drawn (w.bridge.lastToken + 1) :: w.bridge.journal)).length < 2 ^ 53 := hfew
  rw [draws, findings_cons, List.length_append] at hlength
  exact hlength

theorem made {h : HostData} {t : UInt64} (ht : h.token? = some t) (proto : Ref)
    (members : List (Key × Property)) :
    Brings w (t :: P) ((Runner.makeCarrier h t proto members : Act σ Ref).after w) P :=
  ⟨Adds.one rfl rfl trivial, fun _ hlife =>
    hlife.made ((token?_hostObject h proto _).trans ht) (marked_hostObject h t proto members ht)⟩

theorem refused {t : UInt64} :
    Brings w (t :: P) { w with bridge := w.bridge.note (.refused t) } P :=
  ⟨Adds.one rfl rfl trivial, fun _ hlife => hlife.refused⟩

end Brings

namespace Lives

variable {host : Host σ} {run : Runner σ} (hr : run.Obeys (Lives []))

theorem makeWrapped : Act.Keeps (Lives []) (Runner.makeWrapped : Act σ Ref) :=
  fun _ _ _ => Brings.drawn.trans (Brings.made rfl _ _)

include hr

/-- While approval is asked for, the token is under construction. -/
theorem approve (classId : Int32) (t : UInt64) (args : List Value) :
    Act.Keeps (Lives [t]) (run.approve host classId t args) := by
  have hR : Upkeep (σ := σ) (Lives [t]) := upkeep
  refine hR.bind hR.bridge fun b => hR.bind (hR.checkArity (obeys hr) _ _) fun _ w => ?_
  refine callback (c := .constructor) hr nofun (hR.approval (obeys hr)) fun P hP hlife u hu => ?_
  have heq : u = t := by simpa using hu
  exact hlife.records.awaited u (hP (heq ▸ List.mem_cons_self))

omit hr in
theorem makeInstance (w : World σ) (P : List UInt64) (classId : Int32) (t : UInt64) (proto : Ref) :
    Brings w (t :: P) ((Runner.makeInstance classId t proto : Act σ Value).after w) P := by
  have hcarrier : Brings w (t :: P)
      ((Runner.makeCarrier (.instance classId t) t proto [] : Act σ Ref).after w) P :=
    Brings.made rfl proto []
  have hbuilt : Lives [] ((Runner.makeCarrier (.instance classId t) t proto [] : Act σ Ref).after w)
      ((Runner.makeInstance classId t proto : Act σ Value).after w) :=
    noted (x := .built (.made w.engine.next) classId t) rfl rfl rfl rfl rfl (.refl _)
  exact hcarrier.trans (hbuilt P (List.nil_subset P))

/-- A construction from the drawing of its token on. -/
theorem construction (classId : Int32) (sentinel : Bool) (proto : Ref) (args : List Value) :
    Act.Keeps (Lives []) (do
      let token ← Runner.drawToken
      if !sentinel then Runner.approving token (run.approve host classId token args)
      Runner.makeInstance classId token proto) := by
  intro w P _
  -- from its drawing on the token is awaited, and either end of the construction settles it
  have hmade : ∀ w', Brings w' ((w.bridge.lastToken + 1) :: P)
      ((Runner.makeInstance classId (w.bridge.lastToken + 1) proto : Act σ Value).after w') P :=
    fun w' => makeInstance w' P classId (w.bridge.lastToken + 1) proto
  cases sentinel with
  | true => exact Brings.drawn.trans (hmade _)
  | false =>
    have hdrawn : Brings w P ((Runner.drawToken : Act σ UInt64).after w)
      ((w.bridge.lastToken + 1) :: P) := Brings.drawn
    show Brings w P (Act.after (do
      Runner.approving (w.bridge.lastToken + 1)
        (run.approve host classId (w.bridge.lastToken + 1) args)
      Runner.makeInstance classId (w.bridge.lastToken + 1) proto)
      ((Runner.drawToken : Act σ UInt64).after w)) P
    -- which token it is does not matter from here on
    generalize w.bridge.lastToken + 1 = t at hmade hdrawn ⊢
    generalize (Runner.drawToken : Act σ UInt64).after w = w₁ at hdrawn ⊢
    have happrove : Brings w₁ (t :: P) ((run.approve host classId t args).after w₁) (t :: P) :=
      approve hr classId t args w₁ (t :: P) (by simp)
    rcases e : run.approve host classId t args w₁ with ⟨a, w₂⟩ | ⟨f, w₂⟩
    · have hok : Runner.approving t (run.approve host classId t args) w₁ = .ok a w₂ := by
        rw [Runner.approving, e]
      rw [Act.after_ok e] at happrove
      rw [Act.after_bind_ok hok]
      exact (hdrawn.trans happrove).trans (hmade w₂)
    · have herror : Runner.approving t (run.approve host classId t args) w₁
          = .error f { w₂ with bridge := w₂.bridge.note (.refused t) } := by
        rw [Runner.approving, e]
      rw [Act.after_error e] at happrove
      rw [Act.after_bind_error herror]
      exact (hdrawn.trans happrove).trans Brings.refused

theorem constructInstance (classId : Int32) (target : Value) (args : List Value) :
    Act.Keeps (Lives []) (run.constructInstance host classId target args) :=
  (upkeep (A := [])).toBackground.constructInstance hr
    (fun sentinel proto => construction hr classId sentinel proto args) target

/-! ### Calls -/

theorem callWrapped {w : World σ} {f : Ref} {t : UInt64} (args : List Value)
    (hf : (w.engine.obj f).kind = .host (.wrapped t)) :
    Lives [] w ((run.callWrapped host t args).after w) := by
  have hR : Upkeep (σ := σ) (Lives []) := upkeep
  have hcarries : w.engine.Carries f t := by
    rw [Engine.Carries, Obj.token?, hf]
    rfl
  refine hR.checked hr fun _ => callback (c := .callFunction) hr (by rintro ⟨⟩)
    (fun r => hR.replyValue hr r) fun P _ hlife u hu => ?_
  cases List.mem_singleton.mp hu
  exact hlife.heap.alive hcarries

/-- A member call carries no token but that of its instance. -/
theorem memberSlots {classId : Int32} {position : Nat} {route : MemberRoute} {this : Value}
    {P : List UInt64} {w w' : World σ} {fixed : List Slot} (hfew : w.Few) (hlife : w.Life P)
    (h : run.memberSlots classId position route this w = .ok fixed w') :
    w' = w ∧ ∀ t, .rawPointer t ∈ fixed → ∃ r, w.engine.Carries r t := by
  have carries : ∀ {r t}, (w.engine.obj r).kind = .host (.instance classId t) →
      w.engine.Carries r t := by
    intro r t hkind
    rw [Engine.Carries, Obj.token?, hkind]
    rfl
  obtain ⟨rfl, hfixed⟩ := memberSlots_ok hr (fun {r t} hkind => by
    -- the token was drawn, so it has a double of its own
    have hdrawn := hlife.lawful.drawn_of_made (hlife.heap.alive (carries hkind)).1
    exact ⟨hlife.heap.marked r, hlife.records.small hfew hdrawn⟩) h
  refine ⟨rfl, fun u hu => ?_⟩
  rcases hfixed with ⟨-, rfl⟩ | ⟨t, ⟨r, -, hkind⟩, rfl⟩
  · simp at hu
  · have heq : u = t := by simpa using hu
    exact ⟨r, heq ▸ carries hkind⟩

/-- What a member function does once its call is noted. -/
theorem sendMember (classId : Int32) (position : Nat) (route : MemberRoute) (this : Value)
    (args : List Value) {P : List UInt64} {w : World σ} (hfew : w.Few) (hlife : w.Life P) :
    Brings w P ((run.sendMember host classId position route this args).after w) P := by
  have hR : Upkeep (σ := σ) (Lives []) := upkeep
  have hP : [] ⊆ P := List.nil_subset P
  have sent : Lives [] w ((run.sendMember host classId position route this args).after w) := by
    refine hR.sendMember hr fun fixed w₁ e _ => ?_
    obtain ⟨rfl, hcarried⟩ := memberSlots hr hfew hlife e
    refine callback (c := .call) hr nofun (fun r => hR.replyValue hr r) fun P' _ hlife' t ht => ?_
    obtain ⟨r, hr⟩ := hcarried t ht
    exact hlife'.heap.alive hr
  exact sent P hP

theorem callMember (classId : Int32) (position : Nat) (this : Value) (args : List Value) :
    Act.Keeps (Lives []) (run.callMember host classId position this args) := by
  have hR : Upkeep (σ := σ) (Lives []) := upkeep
  intro w P hP
  have hgrows := (Adds.bystander (fun _ _ => trivial) host).callMember (obeys_grows hr) classId
    position this args w
  refine ⟨hgrows, fun hfew hlife => ?_⟩
  have hbefore : w.Few := hfew.of_grows hgrows
  suffices h : Brings w P ((run.callMember host classId position this args).after w) P from
    h.life hfew hlife
  rcases hroute : w.bridge.classes.route? classId position with - | route
  · rw [Act.after, callMember_unknown run host args hroute]
    exact hR.throwFault hr _ w P hP
  · have hasked : Lives [] w { w with bridge := w.bridge.note (.asked classId position route this) } :=
      noted (x := .asked classId position route this) rfl rfl rfl rfl rfl (.refl _)
    have hfew' : World.Few { w with bridge := w.bridge.note (.asked classId position route this) } := by
      have hlength : (draws w.bridge.journal).length < 2 ^ 53 := hbefore
      rw [draws, ← findings_of_other [.asked classId position route this]
        fun x hx => List.mem_singleton.mp hx ▸ rfl] at hlength
      exact hlength
    rw [Act.after, callMember_known run host args hroute]
    exact (hasked P hP).trans
      (sendMember hr classId position route this args hfew' ((hasked P hP).life hfew' hlife))

omit hr in
theorem conduct (host : Host σ) : Conduct host (Lives (σ := σ) []) where
  toBackground := upkeep.toBackground
  engineAnswer w q := silent rfl rfl rfl rfl (Engine.harmless_answer w.engine q)
  taskWritten w id t := silent rfl rfl rfl rfl (Engine.harmless_writeTask w.engine id t)
  taskKept _ _ := silent rfl rfl rfl rfl (.of_same rfl rfl)
  rejection _ hr := upkeep.rejection hr reporting host
  construction _ hr := constructInstance hr
  memberCall _ hr := callMember hr
  wrappedCall _ hr _ _ _ args hf := callWrapped hr args hf
  moduleName run hr base name := upkeep.resolveName hr base name fun _ =>
    callback (c := .moduleName) hr nofun (upkeep.namedModule _ _) fun _ _ _ _ ht => by simp at ht
  moduleText run hr name := upkeep.loadSource hr name fun _ =>
    callback (c := .loadModule) hr nofun upkeep.moduleSource fun _ _ _ _ ht => by simp at ht

/-! ### Notices of death -/

omit hr in
/-- The host's turn at a notice is all that there is to its delivery. -/
theorem deliver_turn (run : Runner σ) (host : Host σ) (t : UInt64) {w : World σ} (hb : w.busy = false) :
    (Context.deliver run host t).after w = closeFrame (leaving
      ((run.takeTurn (host.act w.memory .delete [.rawPointer t])).after
        (entering .delete [.rawPointer t] (openFrame [] w).2))) := by
  have hbody : ∀ w', (run.callBody host .delete [.rawPointer t] (fun _ => pure ()) false).after w'
      = (run.enterHost host .delete [.rawPointer t]).after w' := by
    intro w'
    show Act.after (run.enterHost host .delete [.rawPointer t] >>= fun _ => pure ()) w' = _
    rcases e : run.enterHost host .delete [.rawPointer t] w' with ⟨r, w''⟩ | ⟨f, w''⟩
    · rw [Act.after_bind_ok e, Act.after, Act.after, e]
      rfl
    · rw [Act.after_bind_error e, Act.after, e]
  rw [Context.deliver_after, after_callHost, hb]
  refine congrArg closeFrame ((hbody _).trans ?_)
  rw [after_enterHost]
  rfl

/-- The first notice leaves the queue, and the host is told of that death and no other. -/
theorem deliverNext {w : World σ} (hb : w.busy = false) :
    Lives [] w ((Context.deliverNext run host).after w) := by
  have hR : Upkeep (σ := σ) (Lives []) := upkeep
  intro P hP
  rcases hq : w.bridge.finalized with - | ⟨t, rest⟩
  · rw [Act.after_ok (Context.deliverNext_nil run host hq)]
    exact hR.refl w P hP
  · rw [Act.after, Context.deliverNext_cons run host hq]
    show Brings w P ((Context.deliver run host t).after
      { w with bridge := { w.bridge with finalized := rest } }) P
    rw [deliver_turn run host t (w := { w with bridge := { w.bridge with finalized := rest } }) hb]
    -- the frame of a callback without arguments may as well be opened first
    have hopen : Lives [] w (openFrame [] w).2 := opened [] w
    have hturn := hR.takeTurn hr (host.act w.memory .delete [.rawPointer t])
      (entering .delete [.rawPointer t]
        (openFrame [] { w with bridge := { w.bridge with finalized := rest } }).2)
    generalize (run.takeTurn (host.act w.memory .delete [.rawPointer t])).after _ = w' at hturn ⊢
    have hclose : Lives [] (leaving w') (closeFrame (leaving w')) := silent rfl rfl rfl rfl (.refl _)
    refine Brings.trans ⟨?_, fun hfew hlife => ?_⟩ (hclose P hP)
    · have hstart : Grows w (openFrame [] { w with bridge := { w.bridge with finalized := rest } }).2 :=
        Adds.nothing rfl rfl
      exact Adds.steady.trans hstart (Adds.turn (fun _ _ => trivial) trivial hb hturn.grows)
    · have hbefore : w'.Few := hfew.earlier (show _ = [.left] ++ _ from rfl)
      have hopened : (openFrame [] w).2.Few := (hbefore.of_grows hturn.grows).earlier
        (show _ = [.entered .delete [.rawPointer t]] ++ _ from rfl)
      have hentered := ((hopen P hP).life hopened hlife).noticed hb hq
      exact ((hturn P hP).life hbefore hentered).left hturn.grows.busy

omit hr in
theorem buried {w w' : World σ} {ts : List UInt64} {e : Engine}
    (hw : w' = { w with engine := e, bridge := Context.queueDeaths w.bridge ts })
    (h : ∀ P, w.Life P → w'.Life P) : Lives [] w w' := by
  subst hw
  refine fun P _ => ⟨⟨rfl, (ts.map Occurrence.died).reverse, ?_, fun _ _ => trivial⟩, fun _ => h P⟩
  rw [Context.queueDeaths_eq]

omit hr in
/-- **Tokens live on through every operation of a context.** -/
theorem service (host : Host σ) : Service host (Lives (σ := σ) []) where
  toConduct := conduct host
  retained := upkeep.retained
  released := upkeep.released
  promised := upkeep.promised
  busy h := h.grows.busy
  withholding _ hr _ _ := upkeep.withholding hr reporting host
  valueStaged _ _ _ := noted rfl rfl rfl rfl rfl (.refl _)
  valueHeld _ _ _ := noted rfl rfl rfl rfl rfl (.refl _)
  promiseTaken _ _ _ _ _ := noted rfl rfl rfl rfl rfl (.refl _)
  hostMade w h proto members hh := silent rfl rfl rfl rfl
    (Engine.harmless_allocateObj w.engine ((token?_hostObject h proto members).trans hh))
  functionWrapped := makeWrapped
  classAdded _ _ := silent rfl rfl rfl rfl (.refl _)
  intrinsicsSet _ _ := silent rfl rfl rfl rfl (.refl _)
  jobTaken _ _ := silent rfl rfl rfl rfl (.of_same rfl rfl)
  cacheCleared _ := silent rfl rfl rfl rfl (.refl _)
  collected _ := buried rfl fun _ h => h.collect
  tablesReleased _ := noted rfl rfl rfl rfl rfl (.refl _)
  noticesDelivered _ hr n _ hb := steady.deliverDue (fun h => h.grows.busy)
    (fun _ hb => deliverNext hr hb) (fun _ => buried rfl fun _ h => h.sweep) n hb

end Lives

/-- Between operations no construction is under way. -/
theorem Context.Reachable.life {c : Context σ} (hc : c.Reachable) (hfew : c.world.Few) :
    c.world.busy = false ∧ c.world.Life [] := by
  obtain ⟨s, memory, hlives⟩ := hc.kept (Lives.service c.host)
  have h := hlives [] (List.nil_subset _)
  exact ⟨h.grows.busy, h.life hfew (World.Life.start s memory)⟩

end ScriptBridge
