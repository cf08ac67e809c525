import ScriptBridge.Proofs.Keeping

/-!
What every request keeps, every run keeps.

`Conduct` lists what a relation has to bear for a given host: the answers of the engine, the
bookkeeping of suspended activations, and the five places where a script reaches the host's side.
Each of these places may assume that runners obey the relation; the runners that it meets are the
machine's own with fewer steps, so the induction is on the number of steps.
-/
namespace ScriptBridge

open Data Text Script Script.Script

variable {σ : Type}

/-- The machine as a runner. -/
def Machine.runner (host : Host σ) (steps depth : Nat) : Runner σ :=
  ⟨fun p w => Machine.run host steps depth p w⟩

structure Conduct (host : Host σ) (R : World σ → World σ → Prop) : Prop extends Background R where
  engineAnswer : ∀ w q, R w { w with engine := (w.engine.answer q).2 }
  taskWritten : ∀ w id t, R w { w with engine := w.engine.writeTask id t }
  taskKept : ∀ w s, R w { w with engine := { w.engine with suspended := s } }
  rejection : ∀ run : Runner σ, run.Obeys R → ∀ promise reason, Act.Keeps R (do
    Act.note (.rejected promise reason)
    run.reportRejection host reason)
  construction : ∀ run : Runner σ, run.Obeys R → ∀ classId target args,
    Act.Keeps R (run.constructInstance host classId target args)
  memberCall : ∀ run : Runner σ, run.Obeys R → ∀ classId position this args,
    Act.Keeps R (run.callMember host classId position this args)
  wrappedCall : ∀ run : Runner σ, run.Obeys R → ∀ w f token args,
    (w.engine.obj f).kind = .host (.wrapped token) →
      R w ((run.callWrapped host token args).after w)
  moduleName : ∀ run : Runner σ, run.Obeys R → ∀ base name,
    Act.Keeps R (Machine.resolveName run host base name)
  moduleText : ∀ run : Runner σ, run.Obeys R → ∀ name,
    Act.Keeps R (Machine.loadSource run host name)

namespace Conduct

variable {host : Host σ} {R : World σ → World σ → Prop} (hR : Conduct host R) {run : Runner σ}
  (hr : run.Obeys R)

include hR hr

theorem callHostSide {w : World σ} {f : Ref} {h : HostData} (hf : (w.engine.obj f).kind = .host h)
    (this : Value) (args : List Value) :
    R w ((Machine.callHostSide run host h this args).after w) := by
  rcases h with ⟨c, t⟩ | c | ⟨c, n⟩ | t | level | -
  · exact hR.throwNew hr _ _ w
  · exact hR.construction run hr c this args w
  · exact hR.memberCall run hr c n this args w
  · exact hR.wrappedCall run hr w f t args hf
  · exact hR.printArguments hr host level args w
  · exact hR.pure _ w

theorem callObject (f : Ref) (this : Value) (args : List Value) :
    Act.Keeps R (Machine.callObject run host f this args) := by
  refine Act.keeps_engine fun w => ?_
  rcases hk : (w.engine.obj f).kind with p | h
  · exact hr.script _ w
  · exact hR.callHostSide hr hk this args

theorem constructObject (f : Ref) (args : List Value) (newTarget : Ref) :
    Act.Keeps R (Machine.constructObject run host f args newTarget) := by
  refine Act.keeps_engine fun w => ?_
  rcases (w.engine.obj f).kind with p | h
  · exact hr.script _ w
  · cases h with
    | constructor c => exact hR.construction run hr c _ args w
    | _ => exact hR.throwNew hr _ _ w

omit hr in
theorem endTask (id : NodeId) (w : World σ) : R w (Machine.endTask id w) := by
  unfold Machine.endTask
  split
  · exact hR.taskWritten w id _
  · exact hR.refl w

theorem resumeTask (id : NodeId) (input : Resumption) :
    Act.Keeps R (Machine.resumeTask run id input) := by
  intro w
  rcases e : w.engine.readTask id with - | t
  · simpa [Act.after, Machine.resumeTask, e] using hR.refl w
  · have hbegin : R w (Machine.beginTask id t w) := hR.trans (hR.taskWritten w id _) (hR.taskKept _ _)
    have hrun := hR.trans hbegin
      (hr.keeps (Machine.taskProgram w.engine id t input) (Machine.beginTask id t w))
    rcases h : run.run (Machine.taskProgram w.engine id t input) (Machine.beginTask id t w)
      with ⟨f, w'⟩
    rw [h] at hrun
    have hend := hR.trans hrun (hR.endTask id w')
    cases f with
    | done v => simpa [Act.after, Machine.resumeTask, e, h] using hend
    | threw v => simpa [Act.after, Machine.resumeTask, e, h] using hend
    | suspended v p k =>
      simpa [Act.after, Machine.resumeTask, e, h] using hR.trans hend (hR.taskKept _ _)
    | interrupted => simpa [Act.after, Machine.resumeTask, e, h] using hrun

theorem reported (promise : Ref) (reason : Value) (handled deep : Bool) :
    Act.Keeps R (Machine.serve host run deep (.rejection promise reason handled)) := by
  refine Act.keeps_bridge fun w => ?_
  split
  · exact hR.rejection run hr promise reason w
  · exact hR.refl w

/-- One request. -/
theorem serve (deep : Bool) (q : Request) : Act.Keeps R (Machine.serve host run deep q) := by
  have hengine := fun w => hR.engineAnswer w q
  cases q with
  | call f this args =>
    cases deep with
    | true => exact hR.outcome hr (hr.script _)
    | false => exact hR.outcome hr (hR.callObject hr f this args)
  | construct f args newTarget =>
    cases deep with
    | true => exact hR.outcome hr (hr.script _)
    | false => exact hR.outcome hr (hR.constructObject hr f args newTarget)
  | resume id input => exact hR.resumeTask hr id input
  | rejection p reason handled => exact hR.reported hr p reason handled deep
  | resolveName base name => exact hR.outcome hr (hR.moduleName run hr base name)
  | loadSource name => exact hR.outcome hr (hR.moduleText run hr name)
  | _ => exact hengine

end Conduct

/-! ### Whole runs -/

/-- A run comes to a result of its program only. -/
theorem Machine.run_sound (host : Host σ) (steps depth : Nat) {ρ : Type} {p : Prog ρ}
    {Q : ρ → Prop} (hp : p.Ensures Q) {w w' : World σ} {a : ρ}
    (h : Machine.run host steps depth p w = (.done a, w')) : Q a := by
  induction steps generalizing depth p w with
  | zero => simp [Machine.run] at h
  | succ n ih =>
    cases p with
    | done r =>
      simp only [Machine.run, Prod.mk.injEq, Finish.done.injEq] at h
      exact h.1 ▸ hp
    | fail v => simp [Machine.run] at h
    | ask q k =>
      unfold Machine.run at h
      split at h
      · simp_all
      · simp_all
      · simp_all
      · rename_i hq
        cases hq
        split at h
        · exact ih depth (hp _) h
        · simp at h

/-- A run that only reads comes to what it reads, unless the steps do not suffice. -/
theorem Machine.run_reads (host : Host σ) (steps depth : Nat) {ρ : Type} {p : Prog ρ} {a : ρ}
    {w : World σ} (hp : p.Reads w.engine a) :
    Machine.run host steps depth p w = (.interrupted, w)
      ∨ Machine.run host steps depth p w = (.done a, w) := by
  induction steps generalizing p with
  | zero => exact .inl rfl
  | succ n ih =>
    rcases hp with - | hp | ⟨hsame, hp⟩
    · exact .inr rfl
    · exact ih hp
    · rename_i r key k
      show Machine.run host n depth (k (w.engine.own r key).1)
          { w with engine := (w.engine.own r key).2 } = _
        ∨ Machine.run host n depth (k (w.engine.own r key).1)
          { w with engine := (w.engine.own r key).2 } = _
      rw [hsame]
      exact ih hp

/-- **What every request keeps, every run keeps**, by induction on the number of steps. -/
theorem Conduct.runner {host : Host σ} {R : World σ → World σ → Prop} (hR : Conduct host R)
    (steps depth : Nat) : (Machine.runner host steps depth).Obeys R := by
  refine ⟨?_, fun hp => Machine.run_sound host steps depth hp,
    fun hp => Machine.run_reads host steps depth hp⟩
  induction steps generalizing depth with
  | zero => exact fun p w => hR.refl w
  | succ n ih =>
    intro ρ p w
    show R w (Machine.run host (n + 1) depth p w).2
    unfold Machine.run
    split
    · exact hR.refl w
    · exact hR.refl w
    · exact hR.refl w
    · rename_i q k hq
      -- a request is served by a runner with fewer steps, which the induction covers
      have hfewer : (Machine.runner host n (depth - 1)).Obeys R :=
        ⟨ih (depth - 1), fun hp => Machine.run_sound host n (depth - 1) hp,
          fun hp => Machine.run_reads host n (depth - 1) hp⟩
      have hs := hR.serve hfewer (depth == 0) q w
      rcases e : Machine.serve host (Machine.runner host n (depth - 1)) (depth == 0) q w
        with ⟨a, w'⟩ | ⟨f, w'⟩
      · rw [Act.after_ok e] at hs
        have hnext := hR.trans hs (ih depth (k a) w')
        unfold Machine.runner at e
        rw [e]
        exact hnext
      · rw [Act.after_error e] at hs
        unfold Machine.runner at e
        rw [e]
        exact hs

/-! ### Relations that bear callbacks -/

/-- What comes before the script's arguments in a member call: the class, the member's position, and a token
when it is a member of instances. -/
theorem Runner.memberSlots_form {run : Runner σ} {classId : Int32} {position : Nat}
    {route : MemberRoute} {this : Value} {w w' : World σ} {fixed : List Slot}
    (h : run.memberSlots classId position route this w = .ok fixed w') :
    (route.isStatic = true ∧ fixed = [.int32 classId, .int32 (Int32.ofNat position)]) ∨
      (route.isStatic = false ∧
        ∃ t, fixed = [.int32 classId, .int32 (Int32.ofNat position), .rawPointer t]) := by
  unfold Runner.memberSlots at h
  split at h
  · rename_i hstatic
    cases h
    exact .inl ⟨hstatic, rfl⟩
  · rename_i hmember
    obtain ⟨t, w₁, -, h⟩ := Act.of_bind_ok h
    cases t with
    | none =>
      obtain ⟨e, w₂, he⟩ := run.throwNew_fails .typeError "Illegal invocation" w₁
      cases he.symm.trans h
    | some token =>
      cases h
      exact .inr ⟨Bool.eq_false_iff.mpr hmember, token, rfl⟩

/-- It carries no handle. -/
theorem Runner.memberSlots_plain {run : Runner σ} {classId : Int32} {position : Nat}
    {route : MemberRoute} {this : Value} {w w' : World σ} {fixed : List Slot}
    (h : run.memberSlots classId position route this w = .ok fixed w') : ∀ s ∈ fixed, s.handle? = none := by
  obtain ⟨-, rfl⟩ | ⟨-, t, rfl⟩ := memberSlots_form h <;> simp [Slot.handle?]

/-- A step of a construction, when its failure may be noted. -/
theorem Steady.approving {α : Type} {R : World σ → World σ → Prop} (hR : Steady R) {t : UInt64}
    (hrefused : ∀ w, R w { w with bridge := w.bridge.note (.refused t) }) {m : Act σ α} (hm : m.Keeps R) :
    Act.Keeps R (Runner.approving t m) := by
  intro w
  have hmw := hm w
  rcases e : m w with ⟨a, w'⟩ | ⟨f, w'⟩
  · simpa [Act.after, Runner.approving, e] using hmw
  · rw [Act.after_error e] at hmw
    simpa [Act.after, Runner.approving, e] using hR.trans hmw (hrefused w')

/-- A construction, when it is borne from the drawing of its token on. -/
theorem Background.constructInstance {host : Host σ} {R : World σ → World σ → Prop} (hR : Background R)
    {run : Runner σ} (hr : run.Obeys R) {classId : Int32} {args : List Value}
    (hbuild : ∀ (sentinel : Bool) proto, Act.Keeps R (do
      let token ← Runner.drawToken
      if !sentinel then Runner.approving token (run.approve host classId token args)
      Runner.makeInstance classId token proto)) (target : Value) :
    Act.Keeps R (run.constructInstance host classId target args) := by
  refine hR.bind (hr.script _) fun callable => ?_
  have refused : Act.Keeps R (run.throwNew .typeError
      "Class constructor cannot be invoked without 'new'" : Act σ Value) := hR.throwNew hr _ _
  cases target with
  | object r =>
    cases callable with
    | false => exact refused
    | true =>
      exact hR.bind (hR.thrownFaults hr (hR.bind (hr.script _) fun v => hR.asObject hr v))
        fun proto => hR.bind hR.bridge fun b => hbuild _ proto
  | _ => exact refused

/-- A relation that bears a construction from the drawing of its token to the making of its object, the
report of a rejection, a member call, and every other callback, each as a whole.  Notices of death are
not sent by scripts, and no callback begins with a slot that carries a handle. -/
structure Observer (host : Host σ) (R : World σ → World σ → Prop) : Prop extends Background R where
  engineAnswer : ∀ w q, R w { w with engine := (w.engine.answer q).2 }
  taskWritten : ∀ w id t, R w { w with engine := w.engine.writeTask id t }
  taskKept : ∀ w s, R w { w with engine := { w.engine with suspended := s } }
  rejection : ∀ run : Runner σ, run.Obeys R → ∀ promise reason, Act.Keeps R (do
    Act.note (.rejected promise reason)
    run.reportRejection host reason)
  tokenRefused : ∀ w t, R w { w with bridge := w.bridge.note (.refused t) }
  constructed : ∀ classId proto (m : UInt64 → Act σ Unit), (∀ t, (m t).Keeps R) → Act.Keeps R (do
    let t ← Runner.drawToken
    m t
    Runner.makeInstance classId t proto)
  memberCall : ∀ run : Runner σ, run.Obeys R → ∀ classId position this args,
    Act.Keeps R (run.callMember host classId position this args)
  callback : ∀ run : Runner σ, run.Obeys R → ∀ {α : Type} c slots args (finish : Reply → Act σ α),
    c ≠ .delete → c ≠ .call → (∀ s ∈ slots, s.handle? = none) → (∀ r, (finish r).Keeps R) →
      Act.Keeps R (run.callHost host c slots args finish)

namespace Observer

variable {host : Host σ} {R : World σ → World σ → Prop} (hR : Observer host R) {run : Runner σ}
  (hr : run.Obeys R)

include hR

theorem approving {α : Type} (t : UInt64) {m : Act σ α} (hm : m.Keeps R) :
    Act.Keeps R (Runner.approving t m) :=
  hR.toSteady.approving (fun w => hR.tokenRefused w t) hm

include hr

theorem approve (classId : Int32) (t : UInt64) (args : List Value) :
    Act.Keeps R (run.approve host classId t args) := by
  refine hR.bind hR.bridge fun b => hR.bind (hR.checkArity hr _ _) fun _ => ?_
  exact hR.callback run hr _ _ _ _ nofun nofun (by simp [Slot.handle?]) (hR.approval hr)

theorem constructInstance (classId : Int32) (target : Value) (args : List Value) :
    Act.Keeps R (run.constructInstance host classId target args) := by
  refine hR.toBackground.constructInstance hr (fun sentinel proto => ?_) target
  cases sentinel with
  | true => exact hR.constructed classId proto (fun _ => pure ()) fun _ => hR.pure ()
  | false =>
    exact hR.constructed classId proto
      (fun t => Runner.approving t (run.approve host classId t args))
      fun t => hR.approving t (hR.approve hr classId t args)

theorem callWrapped (t : UInt64) (args : List Value) :
    Act.Keeps R (run.callWrapped host t args) :=
  hR.bind hR.bridge fun _ => hR.bind (hR.checkArity hr _ _) fun _ =>
    hR.callback run hr _ _ _ _ nofun nofun (by simp [Slot.handle?]) fun r => hR.replyValue hr r

theorem resolveName (base name : String) :
    Act.Keeps R (Machine.resolveName run host base name) :=
  hR.toBackground.resolveName hr base name
    (hR.callback run hr _ _ _ _ nofun nofun (by simp [Slot.handle?]) (hR.namedModule _ _))

theorem loadSource (name : String) : Act.Keeps R (Machine.loadSource run host name) :=
  hR.toBackground.loadSource hr name
    (hR.callback run hr _ _ _ _ nofun nofun (by simp [Slot.handle?]) hR.moduleSource)

omit hr in
theorem conduct : Conduct host R where
  toBackground := hR.toBackground
  engineAnswer := hR.engineAnswer
  taskWritten := hR.taskWritten
  taskKept := hR.taskKept
  rejection := hR.rejection
  construction _ hr := hR.constructInstance hr
  memberCall := hR.memberCall
  wrappedCall _ hr w _ t args _ := hR.callWrapped hr t args w
  moduleName _ hr := hR.resolveName hr
  moduleText _ hr := hR.loadSource hr

end Observer

/-! ### Relations that do not look at the heap -/

/-- A relation that minds neither the heap nor the tokens, and bears a callback as a whole; the slots that a
callback begins with carry no handle. -/
structure Bystander (host : Host σ) (R : World σ → World σ → Prop) : Prop extends Background R where
  engineChange : ∀ w e, R w { w with engine := e }
  rejection : ∀ run : Runner σ, run.Obeys R → ∀ promise reason, Act.Keeps R (do
    Act.note (.rejected promise reason)
    run.reportRejection host reason)
  tokenDrawn : ∀ w t, R w { w with bridge := { w.bridge with lastToken := t }.note (.drawn t) }
  tokenMade : ∀ w t, R w { w with bridge := w.bridge.note (.made t) }
  tokenRefused : ∀ w t, R w { w with bridge := w.bridge.note (.refused t) }
  instanceBuilt : ∀ w r c t, R w { w with bridge := w.bridge.note (.built r c t) }
  memberAsked : ∀ w c n route this, R w { w with bridge := w.bridge.note (.asked c n route this) }
  callback : ∀ run : Runner σ, run.Obeys R → ∀ {α : Type} c slots args (finish : Reply → Act σ α),
    c ≠ .delete → (∀ s ∈ slots, s.handle? = none) → (∀ r, (finish r).Keeps R) →
      Act.Keeps R (run.callHost host c slots args finish)

namespace Bystander

variable {host : Host σ} {R : World σ → World σ → Prop} (hR : Bystander host R)

include hR

theorem drawToken : Act.Keeps R (Runner.drawToken : Act σ UInt64) :=
  Act.keeps_bridge fun w => hR.tokenDrawn w _

theorem makeHost (h : HostData) (proto : Ref) (members : List (Key × Property)) :
    Act.Keeps R (Runner.makeHost h proto members : Act σ Ref) :=
  Act.keeps_engine fun w => hR.engineChange w _

theorem makeCarrier (h : HostData) (t : UInt64) (proto : Ref) (members : List (Key × Property)) :
    Act.Keeps R (Runner.makeCarrier h t proto members : Act σ Ref) :=
  hR.bind (hR.makeHost h proto _) fun _ =>
    hR.bind (Act.keeps_modify fun w => hR.tokenMade w t) fun _ => hR.pure _

theorem makeInstance (classId : Int32) (t : UInt64) (proto : Ref) :
    Act.Keeps R (Runner.makeInstance classId t proto : Act σ Value) :=
  hR.bind (hR.makeCarrier (.instance classId t) t proto []) fun r =>
    hR.bind (Act.keeps_modify fun w => hR.instanceBuilt w r classId t) fun _ => hR.pure _

theorem sendMember {run : Runner σ} (hr : run.Obeys R) (classId : Int32) (position : Nat)
    (route : MemberRoute) (this : Value) (args : List Value) :
    Act.Keeps R (run.sendMember host classId position route this args) := by
  refine fun w => hR.toBackground.sendMember hr fun fixed w' hfixed _ => ?_
  exact hR.callback run hr .call fixed _ run.replyValue nofun (Runner.memberSlots_plain hfixed)
    (fun r => hR.replyValue hr r) w'

theorem callMember {run : Runner σ} (hr : run.Obeys R) (classId : Int32) (position : Nat)
    (this : Value) (args : List Value) :
    Act.Keeps R (run.callMember host classId position this args) := by
  refine hR.bind hR.bridge fun b => ?_
  rcases b.classes.route? classId position with - | route
  · exact hR.throwFault hr _
  · exact hR.bind (Act.keeps_modify fun w => hR.memberAsked w classId position route this) fun _ =>
      hR.sendMember hr classId position route this args

theorem observer : Observer host R where
  toBackground := hR.toBackground
  engineAnswer w _ := hR.engineChange w _
  taskWritten w _ _ := hR.engineChange w _
  taskKept w _ := hR.engineChange w _
  rejection := hR.rejection
  tokenRefused := hR.tokenRefused
  constructed classId proto _ hm := hR.bind hR.drawToken fun t =>
    hR.bind (hm t) fun _ => hR.makeInstance classId t proto
  memberCall _ hr := hR.callMember hr
  callback run hr _ c slots args finish hd _ hs hf := hR.callback run hr c slots args finish hd hs hf

theorem conduct : Conduct host R := hR.observer.conduct

end Bystander

end ScriptBridge
