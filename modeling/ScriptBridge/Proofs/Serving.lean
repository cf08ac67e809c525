import ScriptBridge.Proofs.Attending

/-!
What every operation of a context keeps.

    hR.operation   :   R c.world (c.apply op).world

Design.  `HostOp` lists what a host can do with a context, and `Service` what a relation has to bear
on top of `Attendance` so that all of it keeps the relation.  `Reachable` contexts are those that a
host comes to from a fresh one, so a relation that every operation keeps leads from the empty world
to the world of every reachable context.
-/
namespace ScriptBridge

open Data Text Script Script.Script

variable {σ α : Type}

/-! ### Services -/

/-- What a relation has to bear of everything that a context does without staging anything. -/
structure Registrar (host : Host σ) (R : World σ → World σ → Prop) : Prop
    extends Attendance host R where
  classAdded : ∀ w e, R w (w.enrolling e)

/-- What a relation has to bear of everything that a context does until it ends, registrations apart. -/
structure Usage (host : Host σ) (R : World σ → World σ → Prop) : Prop
    extends Attendance host R where
  valueStaged : ∀ w v, v.kept = true → R w (w.staging v)
  cacheCleared : ∀ w,
    R w { w with bridge := { w.bridge with ledger := w.bridge.ledger.clearCache.2 } }

/-- What a relation has to bear of everything that a context does, registrations and its end included. -/
structure Service (host : Host σ) (R : World σ → World σ → Prop) : Prop extends Usage host R where
  classAdded : ∀ w e, R w (w.enrolling e)
  tablesReleased : ∀ w, R w (Context.releaseTables w)

namespace Usage

variable {host : Host σ} {R : World σ → World σ → Prop} (hR : Usage host R) {run : Runner σ}
  (hr : run.Obeys R)

include hR hr

theorem runModule (args : List Slot) : Act.Keeps R (Dispatch.runModule run host args) :=
  hR.bind (hR.sourcePair args) fun _ => hR.withholding run hr
    ((hR.toAttendance.evaluateModuleText hr _ _).keeps hR.toSteady hR.valueStaged)

variable (hcalm : run.Calm)

include hcalm

/-- Every action. -/
theorem perform (a : Action) (args : List Slot) : Act.Keeps R (Dispatch.perform run host a args) := by
  by_cases ha : a = .run
  · rw [ha]
    exact hR.bind (hR.runModule hr args) fun _ => hR.pure _
  · exact (hR.toAttendance.perform hr hcalm ha args).keeps hR.toSteady hR.valueStaged

end Usage

/-! ### Relations that do not look at the heap -/

/-- A bystander that bears what a context does to the tables of the bridge when it stages nothing. -/
structure Onlooker (host : Host σ) (R : World σ → World σ → Prop) : Prop
    extends Bystander host R, Upkeep R where
  busy : ∀ {w w'}, R w w' → w'.busy = w.busy
  withholding : ∀ run : Runner σ, run.Obeys R → ∀ {α : Type} {m : Act σ α}, m.Keeps R →
    Act.Keeps R (Dispatch.withholding run host m)
  valueHeld : ∀ w v, v.kept = true → R w (w.holding v)
  promiseTaken : ∀ w id p t, w.bridge.promises.take id = .ok (p, t) →
    R w { w with bridge := { w.bridge with promises := t }.note (.completed id) }
  intrinsicsSet : ∀ w i, R w { w with bridge := { w.bridge with intrinsics := i } }
  deathQueued : ∀ w t, R w { w with bridge :=
    { w.bridge with finalized := w.bridge.finalized ++ [t] }.note (.died t) }
  dequeued : ∀ w ts, R w { w with bridge := { w.bridge with finalized := ts } }
  notice : ∀ run : Runner σ, run.Obeys R → ∀ t w, w.busy = false →
    R w (Act.after (run.callHost host .delete [.rawPointer t] [] fun _ => pure ()) w)

/-- An onlooker that bears the rest as well. -/
structure TableBystander (host : Host σ) (R : World σ → World σ → Prop) : Prop
    extends Onlooker host R where
  classAdded : ∀ w e, R w (w.enrolling e)
  valueStaged : ∀ w v, v.kept = true → R w (w.staging v)
  cacheCleared : ∀ w,
    R w { w with bridge := { w.bridge with ledger := w.bridge.ledger.clearCache.2 } }
  tablesReleased : ∀ w, R w (Context.releaseTables w)

namespace Context

theorem deliver_after (run : Runner σ) (host : Host σ) (t : UInt64) (w : World σ) :
    (deliver run host t).after w
      = Act.after (run.callHost host .delete [.rawPointer t] [] fun _ => pure ()) w := by
  rw [Act.after, Act.after, deliver]
  rcases (run.callHost host .delete [.rawPointer t] [] fun _ => pure () : Act σ Unit) w
    with ⟨a, w'⟩ | ⟨f, w'⟩
  · rfl
  · cases f <;> rfl

end Context

/-- A step that is taken by hosts that are not answering; the rest goes on with such a host. -/
theorem Steady.bindIdle {β : Type} {R : World σ → World σ → Prop} (hR : Steady R)
    (busy : ∀ {w w'}, R w w' → w'.busy = w.busy) {m : Act σ α} {k : α → Act σ β} {w : World σ}
    (hb : w.busy = false) (hm : R w (m.after w))
    (hk : ∀ a w', w'.busy = false → R w' ((k a).after w')) : R w ((m >>= k).after w) := by
  refine hR.bindAt hm fun a w' e => hk a w' ?_
  rw [Act.after_ok e] at hm
  exact (busy hm).trans hb

/-! ### One notice -/

namespace Context

variable (run : Runner σ) (host : Host σ) {w : World σ}

theorem deliverNext_nil (hq : w.bridge.finalized = []) : deliverNext run host w = .ok () w := by
  rw [deliverNext, Act.bind_bridge, hq]
  rfl

theorem deliverNext_cons {t : UInt64} {rest : List UInt64} (hq : w.bridge.finalized = t :: rest) :
    deliverNext run host w = (do
      Act.setBridge { w.bridge with finalized := rest }
      deliver run host t) w := by
  rw [deliverNext, Act.bind_bridge, hq]

end Context

/-- The delivery of one notice, when its coming off the queue is borne by itself. -/
theorem Steady.deliverNext {R : World σ → World σ → Prop} (hR : Steady R)
    (busy : ∀ {w w'}, R w w' → w'.busy = w.busy) {run : Runner σ} {host : Host σ}
    (dequeued : ∀ w ts, R w { w with bridge := { w.bridge with finalized := ts } })
    (notice : ∀ t w, w.busy = false →
      R w (Act.after (run.callHost host .delete [.rawPointer t] [] fun _ => Pure.pure ()) w))
    {w : World σ} (hb : w.busy = false) : R w ((Context.deliverNext run host).after w) := by
  rcases hq : w.bridge.finalized with - | ⟨t, rest⟩
  · rw [Act.after_ok (Context.deliverNext_nil run host hq)]
    exact hR.refl w
  · rw [Act.after, Context.deliverNext_cons run host hq]
    refine hR.bindIdle busy hb (dequeued w rest) fun _ w' hb' => ?_
    rw [Context.deliver_after]
    exact notice t w' hb'

section Deliveries

variable {R : World σ → World σ → Prop} (hR : Steady R)
  (busy : ∀ {w w'}, R w w' → w'.busy = w.busy) {run : Runner σ} {host : Host σ}
  (hnext : ∀ w, w.busy = false → R w ((Context.deliverNext run host).after w))

include hR busy hnext

theorem Steady.deliverAll (n : Nat) {w : World σ} (hb : w.busy = false) :
    R w ((Context.deliverAll run host n).after w) := by
  induction n generalizing w with
  | zero => exact hR.refl w
  | succ n ih => exact hR.bindIdle busy hb (hnext w hb) fun _ _ hb' => ih hb'

/-- Sweeps and single deliveries in turn. -/
theorem Steady.deliverDue (hsweep : ∀ w, R w (Context.sweep w)) (n : Nat) {w : World σ}
    (hb : w.busy = false) : R w ((Context.deliverDue run host n).after w) := by
  induction n generalizing w with
  | zero => exact hR.refl w
  | succ n ih =>
    refine hR.bindIdle busy hb (hsweep w) fun _ w' hb' => ?_
    refine hR.bindIdle busy hb' (hR.bridge w') fun b w'' hb'' => ?_
    split
    · exact hR.refl w''
    · exact hR.bindIdle busy hb'' (hR.deliverAll busy hnext _ hb'') fun _ _ h => ih h

end Deliveries

namespace Onlooker

open Context

variable {host : Host σ} {R : World σ → World σ → Prop} (hR : Onlooker host R)

include hR

theorem queueDeaths (w : World σ) (e : Engine) (ts : List UInt64) :
    R w { w with engine := e, bridge := Context.queueDeaths w.bridge ts } := by
  induction ts generalizing w with
  | nil => exact hR.engineChange w e
  | cons t rest ih =>
    exact hR.trans (hR.deathQueued w t) (ih { w with bridge :=
      { w.bridge with finalized := w.bridge.finalized ++ [t] }.note (.died t) })

theorem attendance : Attendance host R where
  toConduct := hR.conduct
  retained := hR.retained
  released := hR.released
  promised := hR.promised
  busy := hR.busy
  withholding := hR.withholding
  valueHeld := hR.valueHeld
  promiseTaken := hR.promiseTaken
  hostMade w _ _ _ _ := hR.engineChange w _
  functionWrapped := hR.bind hR.drawToken fun t => hR.makeCarrier _ t _ _
  intrinsicsSet := hR.intrinsicsSet
  jobTaken w _ := hR.engineChange w _
  collected w := hR.queueDeaths w _ _
  noticesDelivered run hr n _ hb := hR.deliverDue hR.busy
    (fun _ hb => hR.deliverNext hR.busy hR.dequeued (hR.notice run hr) hb)
    (fun w => hR.queueDeaths w _ _) n hb

end Onlooker

theorem TableBystander.service {host : Host σ} {R : World σ → World σ → Prop}
    (hR : TableBystander host R) : Service host R where
  toAttendance := hR.attendance
  classAdded := hR.classAdded
  valueStaged := hR.valueStaged
  cacheCleared := hR.cacheCleared
  tablesReleased := hR.tablesReleased

/-! ### Operations of a host -/

/-- What a host can do with a context. -/
inductive HostOp where
  | setArgument (i : Nat) (s : Slot)
  | dispatch (code : Int32) (argc : Nat)
  | dispatchWith (code : Int32) (args : List Slot)
  | tryDispatch (a : Action) (args : List Slot)
  | retain (s : Slot)
  | release (s : Slot)
  | clearCache
  | stringify (s : Slot)
  | registerClass (d : ClassDescriptor) (classId : Int32)
  | newPromise
  | runOneJob
  | writeLog (fragment : String)
  | flushLog
  | runGc
  | close

namespace Context

/-- The context after an operation. -/
def apply (c : Context σ) : HostOp → Context σ
  | .setArgument i s => c.setArgument i s
  | .dispatch code argc => (c.dispatch code argc).2
  | .dispatchWith code args => (c.dispatchWith code args).2
  | .tryDispatch a args => (c.tryDispatch a args).2
  | .retain s => (c.retain s).2
  | .release s => (c.release s).2
  | .clearCache => c.clearCache
  | .stringify s => (c.stringify s).2
  | .registerClass d classId => (c.registerClass d classId).2
  | .newPromise => c.newPromise.2
  | .runOneJob => c.runOneJob.2
  | .writeLog fragment => c.writeLog fragment
  | .flushLog => c.flushLog
  | .runGc => c.runGc
  | .close => c.close

theorem perform_world (c : Context σ) (m : Runner σ → Act σ α) :
    (c.perform m).2 = { c with world := (m c.runner).after c.world } := by
  rw [perform, Act.after]
  rcases m c.runner c.world with ⟨a, w⟩ | ⟨f, w⟩ <;> rfl

theorem performFlushed_context (c : Context σ) (m : Runner σ → Act σ α) :
    (c.performFlushed m).2 = (c.perform m).2.flush.2 := by
  rw [performFlushed]
  rcases c.perform m with ⟨a, d⟩
  rcases hf : d.flush with ⟨f | u, d'⟩ <;> simp only [hf]

theorem performFlushed_world (c : Context σ) (m : Runner σ → Act σ α) :
    (c.performFlushed m).2 = { c with world :=
      (deliverDue c.runner c.host c.limits.steps).after ((m c.runner).after c.world) } := by
  rw [performFlushed_context, perform_world, flush, perform_world]
  rfl

theorem perform_host (c : Context σ) (m : Runner σ → Act σ α) : (c.perform m).2.host = c.host := by
  rw [perform_world]

theorem performFlushed_host (c : Context σ) (m : Runner σ → Act σ α) :
    (c.performFlushed m).2.host = c.host := by
  rw [performFlushed_world]

theorem tryDispatch_host (c : Context σ) (a : Action) (args : List Slot) :
    (c.tryDispatch a args).2.host = c.host := performFlushed_host c _

theorem dispatch_host (c : Context σ) (code : Int32) (argc : Nat) :
    (c.dispatch code argc).2.host = c.host := by
  have hcode : (c.runCode code argc).2.host = c.host := by
    unfold runCode
    split
    · rfl
    · split
      · exact tryDispatch_host c _ _
      · rfl
  rw [dispatch]
  rcases h : c.runCode code argc with ⟨f | - | s, d⟩ <;> rw [h] at hcode <;> exact hcode

/-- A context keeps its host. -/
theorem apply_host (c : Context σ) (op : HostOp) : (c.apply op).host = c.host := by
  cases op with
  | setArgument i s => rfl
  | dispatch code argc => exact dispatch_host c code argc
  | dispatchWith code args =>
    show (c.dispatchWith code args).2.host = c.host
    unfold dispatchWith
    split
    · rfl
    · exact dispatch_host _ code _
  | tryDispatch a args => exact tryDispatch_host c a args
  | runOneJob =>
    have hjob := performFlushed_host c fun run => run.settle (takeJob run)
    show c.runOneJob.2.host = c.host
    rw [runOneJob]
    rcases h : c.performFlushed fun run => run.settle (takeJob run) with ⟨f | - | -, d⟩ <;>
      rw [h] at hjob <;> exact hjob
  | close => exact (performFlushed_host c.flushLog _).trans (perform_host c _)
  | clearCache => exact performFlushed_host c _
  | runGc => exact performFlushed_host c _
  | release s => exact performFlushed_host c _
  | writeLog fragment => exact perform_host c _
  | flushLog => exact perform_host c _
  | retain s => exact perform_host c _
  | stringify s => exact perform_host c _
  | registerClass d classId => exact perform_host c _
  | newPromise => exact perform_host c _

theorem create_ok {host : Host σ} {limits : Limits} {s : Setup} {memory : σ} {c : Context σ}
    (h : create host limits s memory = .ok c) :
    c = ((blank host limits s memory).perform install).2 := by
  unfold create at h
  split at h
  · cases h
  · rcases e : (blank host limits s memory).perform install with ⟨f | u, d⟩
    · rw [e] at h
      cases h
    · rw [e] at h
      cases h
      rfl

theorem create_of_ok (host : Host σ) (limits : Limits) {s : Setup} {memory : σ}
    (hs : s.hasRoom = true) (h : ((blank host limits s memory).perform install).1.toBool = true) :
    create host limits s memory = .ok ((blank host limits s memory).perform install).2 := by
  unfold create
  rw [hs]
  rcases e : (blank host limits s memory).perform install with ⟨f | u, d⟩
  · rw [e] at h
    cases h
  · rfl

/-- A context that a host can come to. -/
inductive Reachable : Context σ → Prop where
  | created {host : Host σ} {limits : Limits} {s : Setup} {memory : σ} {c : Context σ} :
      create host limits s memory = .ok c → Reachable c
  | step {c : Context σ} (op : HostOp) : Reachable c → Reachable (c.apply op)

end Context

/-! ### Every operation -/

/-- Only a registration enters a class in the table. -/
def HostOp.enrols : HostOp → Bool
  | .registerClass .. => true
  | _ => false

/-- Neither a dispatch nor the clearing of the cache, nor the end. -/
def HostOp.aside : HostOp → Bool
  | .dispatch .. | .dispatchWith .. | .tryDispatch .. | .clearCache | .close => false
  | _ => true

/-- The runner of a context throws nothing into a piece that comes to a value. -/
theorem Context.calm (c : Context σ) : c.runner.Calm :=
  Machine.runner_calm c.host c.limits.steps c.limits.depth

namespace Attendance

open Context

variable {R : World σ → World σ → Prop} {c : Context σ} (hR : Attendance c.host R)

include hR

/-- The runner of a context obeys whatever its host's services keep. -/
theorem runner : c.runner.Obeys R := hR.toConduct.runner c.limits.steps c.limits.depth

omit hR in
theorem performed {m : Runner σ → Act σ α} (hm : (m c.runner).Keeps R) :
    R c.world (c.perform m).2.world := by
  rw [perform_world]
  exact hm c.world

theorem flushed {m : Runner σ → Act σ α} (hb : c.world.busy = false)
    (hm : R c.world ((m c.runner).after c.world)) : R c.world (c.performFlushed m).2.world := by
  rw [performFlushed_context, perform_world, flush, perform_world]
  exact hR.trans hm (hR.noticesDelivered _ hR.runner _ _ ((hR.busy hm).trans hb))

/-- Operations that give out nothing from the cache. -/
theorem aside (hb : c.world.busy = false) {op : HostOp} (hop : op.aside = true)
    (hadded : op.enrols = true → ∀ w e, R w (w.enrolling e)) : R c.world (c.apply op).world := by
  have hr : c.runner.Obeys R := hR.runner
  cases op with
  | setArgument i s => exact hR.refl _
  | retain s => exact performed (hR.retain hr s)
  | release s => exact hR.flushed hb (hR.release s _)
  | stringify s => exact performed (hR.settle hr (hR.stringify hr s))
  | registerClass d classId =>
    exact performed (hR.settle hr
      ((hR.registerClass hr c.calm (hadded rfl) d classId).keeps hR.toSteady hR.valueHeld))
  | newPromise => exact performed (hR.newPromise hr)
  | runOneJob =>
    have hjob : R c.world (c.performFlushed fun run => run.settle (Context.takeJob run)).2.world :=
      hR.flushed hb (hR.settle hr (hR.takeJob hr) _)
    show R c.world c.runOneJob.2.world
    rw [Context.runOneJob]
    rcases h : c.performFlushed fun run => run.settle (Context.takeJob run) with ⟨f | - | -, d⟩ <;>
      rw [h] at hjob <;> exact hjob
  | writeLog fragment => exact performed (hR.writeLog _ fragment)
  | flushLog => exact performed (hR.flushLog _)
  | runGc => exact hR.flushed hb (hR.collected _)
  | _ => cases hop

theorem install (run : Runner σ) (hr : run.Obeys R) : Act.Keeps R (Context.install run) :=
  hR.bind (hR.installIntrinsics hr) fun _ => hR.installConsole hr

end Attendance

theorem Registrar.aside {R : World σ → World σ → Prop} {c : Context σ} (hR : Registrar c.host R)
    (hb : c.world.busy = false) {op : HostOp} (hop : op.aside = true) : R c.world (c.apply op).world :=
  hR.toAttendance.aside hb hop fun _ => hR.classAdded

namespace Usage

open Context

variable {R : World σ → World σ → Prop} {c : Context σ} (hR : Usage c.host R)

include hR

theorem tryDispatch (hb : c.world.busy = false) (a : Action) (args : List Slot) :
    R c.world (c.tryDispatch a args).2.world :=
  hR.flushed hb (hR.settle hR.runner (hR.perform hR.runner c.calm a args) _)

theorem dispatch (hb : c.world.busy = false) (code : Int32) (argc : Nat) :
    R c.world (c.dispatch code argc).2.world := by
  have hcode : R c.world (c.runCode code argc).2.world := by
    unfold Context.runCode
    split
    · exact hR.refl _
    · split
      · exact hR.tryDispatch hb _ _
      · exact hR.refl _
  rw [Context.dispatch]
  rcases h : c.runCode code argc with ⟨f | - | s, d⟩ <;> rw [h] at hcode <;> exact hcode

/-- Every operation that does not end the context. -/
theorem operation (hb : c.world.busy = false) {op : HostOp} (hopen : op ≠ .close)
    (hadded : op.enrols = true → ∀ w e, R w (w.enrolling e)) : R c.world (c.apply op).world := by
  by_cases hop : op.aside = true
  · exact hR.aside hb hop hadded
  cases op with
  | dispatch code argc => exact hR.dispatch hb code argc
  | dispatchWith code args =>
    show R c.world (c.dispatchWith code args).2.world
    unfold Context.dispatchWith
    split
    · exact hR.refl _
    · exact dispatch (c := { c with arguments := args ++ c.arguments.drop args.length }) hR hb code _
  | tryDispatch a args => exact hR.tryDispatch hb a args
  | clearCache => exact hR.flushed hb (hR.cacheCleared _)
  | close => exact absurd rfl hopen
  | _ => exact absurd rfl hop

end Usage

namespace Service

open Context

variable {R : World σ → World σ → Prop} {c : Context σ} (hR : Service c.host R)

include hR

/-- **What a relation bears step by step, it bears for every operation.** -/
theorem operation (hb : c.world.busy = false) (op : HostOp) : R c.world (c.apply op).world := by
  cases op with
  | close =>
    have hlog := hR.flushLog c.host c.world
    show R c.world (Context.close c).world
    rw [Context.close, Context.flushLog, perform_world]
    refine hR.trans hlog (Attendance.flushed
      (c := { c with world := (Runner.flushLog c.host).after c.world }) hR.toAttendance
      ((hR.busy hlog).trans hb) ?_)
    exact hR.trans (hR.tablesReleased _) (hR.collected _)
  | _ => exact hR.toUsage.operation hb nofun fun _ => hR.classAdded

end Service

/-- **A relation that the services of a host bear leads from the empty world to the world of every
context that the host can come to.** -/
theorem Context.Reachable.kept {R : World σ → World σ → Prop} {c : Context σ} (hc : c.Reachable)
    (hR : Service c.host R) : ∃ s memory, R (emptyWorld s memory) c.world := by
  induction hc with
  | @created host limits s memory c h =>
    rw [create_ok h] at hR ⊢
    rw [perform_host] at hR
    exact ⟨s, memory, Attendance.performed (hR.install _ hR.runner)⟩
  | @step c op _ ih =>
    rw [apply_host] at hR
    obtain ⟨s, memory, hc⟩ := ih hR
    exact ⟨s, memory, hR.trans hc (hR.operation (hR.busy hc) op)⟩

end ScriptBridge
