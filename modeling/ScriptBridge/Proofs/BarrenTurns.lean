import ScriptBridge.Proofs.InstanceOrigins

/-!
What scripts can make while the host is answering.

    busy, no sentinel   ⟹   nothing is made, and no notice of a death goes out

A busy host cannot be asked for its approval, so every construction is refused, unless it is one with the
sentinel.  What the sentinel is for is known to the bridge alone; a world `withoutSentinel` is the same
world with a bridge that has forgotten it.

Design.  `Barren` says something of worlds only in which the host is busy and there is no sentinel.  The
host is never entered from such a world, so a callback is only the error that it throws, and every case
but the construction is one of bookkeeping.
-/
namespace ScriptBridge

open Data Text Script Script.Script Runner

variable {σ α : Type} {host : Host σ} {run : Runner σ} {w w' : World σ}

/-! ### Without the sentinel -/

/-- The same world, with a bridge that recognizes no sentinel. -/
def World.withoutSentinel (w : World σ) : World σ := { w with bridge := { w.bridge with intrinsics := none } }

/-- The operation leaves the same behind where the sentinel is not recognized.  All that sets the sentinel apart
is that a construction with it needs no approval, so this is what an operation does that cannot come by it;
one that makes an instance with it does not (`Barren.sees_sentinel`). -/
def Act.MissesSentinel (m : Act σ α) (w : World σ) : Prop :=
  m.after w.withoutSentinel = (m.after w).withoutSentinel

/-- It is neither the making of an object that carries a token, nor the entering of the host. -/
def Occurrence.isBarren : Occurrence → Bool
  | made _ | built .. | entered .. => false
  | _ => true

/-- The host goes on answering, and nothing was made. -/
structure Barely (w w' : World σ) : Prop where
  busy : w'.busy = true
  forgotten : w'.bridge.intrinsics = none
  queue : w'.bridge.finalized = w.bridge.finalized
  heap : Engine.Harmless w.engine w'.engine
  journal : ∃ es, w'.bridge.journal = es ++ w.bridge.journal ∧ ∀ x ∈ es, x.isBarren = true

/-- Nothing is made while the host is answering and no sentinel is recognized. -/
def Barren (w w' : World σ) : Prop := w.busy = true → w.bridge.intrinsics = none → Barely w w'

namespace Barren

theorem steady : Steady (σ := σ) Barren where
  refl w hb hi := ⟨hb, hi, rfl, .refl _, [], rfl, fun _ h => absurd h List.not_mem_nil⟩
  trans := by
    intro a b c h h' hb hi
    obtain ⟨hb₁, hi₁, hq, hheap, es, hes, hbarren⟩ := h hb hi
    obtain ⟨hb₂, hi₂, hq', hheap', fs, hfs, hbarren'⟩ := h' hb₁ hi₁
    refine ⟨hb₂, hi₂, hq'.trans hq, hheap.trans hheap', fs ++ es, ?_, fun x hx => ?_⟩
    · rw [hfs, hes, List.append_assoc]
    · exact (List.mem_append.mp hx).elim (hbarren' x) (hbarren x)

/-- A step that is not about tokens. -/
theorem aside (es : List Occurrence) (hes : ∀ x ∈ es, x.isBarren = true)
    (hj : w'.bridge.journal = es ++ w.bridge.journal) (hi : w'.bridge.intrinsics = w.bridge.intrinsics)
    (hq : w'.bridge.finalized = w.bridge.finalized) (hb : w'.busy = w.busy)
    (he : Engine.Harmless w.engine w'.engine) : Barren w w' :=
  fun hbusy hnone => ⟨hb.trans hbusy, hi.trans hnone, hq, he, es, hj, hes⟩

theorem silent (hj : w'.bridge.journal = w.bridge.journal) (hi : w'.bridge.intrinsics = w.bridge.intrinsics)
    (hq : w'.bridge.finalized = w.bridge.finalized) (hb : w'.busy = w.busy)
    (he : Engine.Harmless w.engine w'.engine) : Barren w w' :=
  aside [] (fun _ h => absurd h List.not_mem_nil) hj hi hq hb he

theorem noted {x : Occurrence} (hx : x.isBarren = true) (hj : w'.bridge.journal = x :: w.bridge.journal)
    (hi : w'.bridge.intrinsics = w.bridge.intrinsics) (hq : w'.bridge.finalized = w.bridge.finalized)
    (hb : w'.busy = w.busy) (he : Engine.Harmless w.engine w'.engine) : Barren w w' :=
  aside [x] (List.forall_mem_singleton.mpr hx) hj hi hq hb he

theorem upkeep : Upkeep (σ := σ) Barren where
  toSteady := steady
  memory _ _ := silent rfl rfl rfl rfl (.refl _)
  log _ _ := silent rfl rfl rfl rfl (.refl _)
  retained _ _ _ _ := noted rfl rfl rfl rfl rfl (.refl _)
  released _ _ _ _ _ := noted rfl rfl rfl rfl rfl (.refl _)
  promised _ _ _ := noted rfl rfl rfl rfl rfl (.refl _)

theorem reporting : Reporting (σ := σ) Barren where
  deferred _ _ := silent rfl rfl rfl rfl (.refl _)
  rejected _ _ _ := noted rfl rfl rfl rfl rfl (.refl _)
  logged _ _ := noted rfl rfl rfl rfl rfl (.refl _)

theorem opened (args : List Value) (w : World σ) : Barren w (openFrame args w).2 := by
  obtain ⟨-, hqueue, -⟩ := Lives.encodeAll_rest args { w.bridge with ledger := w.bridge.ledger.pushFrame }
  obtain ⟨es, hes, hissued⟩ := openFrame_issues args w
  refine aside es (fun x hx => ?_) hes (SameSentinel.encodeAll_intrinsics args _) hqueue rfl (.refl _)
  obtain ⟨h, rfl⟩ := hissued x hx
  rfl

variable (hr : run.Obeys Barren)

include hr

/-- A busy host is not called. -/
theorem callback {c : Callback} {slots : List Slot} {args : List Value} {finish : Reply → Act σ α}
    (hf : ∀ r, (finish r).Keeps Barren) : Act.Keeps Barren (run.callHost host c slots args finish) := by
  refine fun w => upkeep.callHostSince hr hf (opened args w) (fun hidle w' _ hbusy => ?_)
    fun _ => silent rfl rfl rfl rfl (.refl _)
  cases hidle.symm.trans hbusy

theorem approve (classId : Int32) (t : UInt64) (args : List Value) :
    Act.Keeps Barren (run.approve host classId t args) := by
  have hR : Upkeep (σ := σ) Barren := upkeep
  exact hR.bind hR.bridge fun b => hR.bind (hR.checkArity hr _ _) fun _ => callback hr (hR.approval hr)

/-- **A construction comes to nothing**: there is no sentinel, and a busy host does not approve. -/
theorem construction (classId : Int32) (target : Value) (args : List Value) :
    Act.Keeps Barren (run.constructInstance host classId target args) := by
  have hR : Upkeep (σ := σ) Barren := upkeep
  refine hR.bind (hr.script _) fun callable => ?_
  have refused : Act.Keeps Barren (run.throwNew .typeError
      "Class constructor cannot be invoked without 'new'" : Act σ Value) := hR.throwNew hr _ _
  cases target with
  | object r =>
    cases callable with
    | false => exact refused
    | true =>
      refine hR.bind (hR.thrownFaults hr (hR.bind (hr.script _) fun v => hR.asObject hr v)) fun proto => ?_
      refine Act.keeps_bridge fun w hbusy hnone => ?_
      have hs : isSentinel w.bridge args = false := by
        unfold isSentinel
        rw [hnone]
        rcases args with - | ⟨v, - | ⟨u, rest⟩⟩ <;> rfl
      rw [hs]
      let drawn := (drawToken : Act σ UInt64).after w
      have hdrawn : Barren w drawn :=
        noted (x := .drawn (w.bridge.lastToken + 1)) rfl rfl rfl rfl rfl (.refl _)
      have happroving : Act.Keeps Barren (Runner.approving (w.bridge.lastToken + 1)
          (run.approve host classId (w.bridge.lastToken + 1) args)) :=
        hR.toSteady.approving (fun _ => noted rfl rfl rfl rfl rfl (.refl _)) (approve hr classId _ args)
      -- the approval fails, so nothing comes after it
      obtain ⟨e, w', hfails, -⟩ := run.approving_refuses host classId (w.bridge.lastToken + 1) args drawn
        (.inr (.inl hbusy))
      have hrefused := happroving.of_error hfails
      have hdone : Act.after (do
          let token ← drawToken
          if !false then Runner.approving token (run.approve host classId token args)
          makeInstance classId token proto : Act σ Value) w = w' := by
        have hdraw : (drawToken : Act σ UInt64) w = .ok (w.bridge.lastToken + 1) drawn := rfl
        rw [Act.after_bind_ok hdraw]
        exact Act.after_bind_error hfails
      rw [hdone]
      exact hR.trans hdrawn hrefused hbusy hnone
  | _ => exact refused

theorem callMember (classId : Int32) (position : Nat) (this : Value) (args : List Value) :
    Act.Keeps Barren (run.callMember host classId position this args) := by
  have hR : Upkeep (σ := σ) Barren := upkeep
  refine Act.keeps_bridge fun w => ?_
  rcases w.bridge.classes.route? classId position with - | route
  · exact hR.throwFault hr _ w
  · have hasked : Barren w { w with bridge := w.bridge.note (.asked classId position route this) } :=
      noted (x := .asked classId position route this) rfl rfl rfl rfl rfl (.refl _)
    exact hR.trans hasked (hR.sendMember hr fun fixed w₁ _ _ => callback hr (fun r => hR.replyValue hr r) w₁)

theorem callWrapped (t : UInt64) (args : List Value) : Act.Keeps Barren (run.callWrapped host t args) := by
  have hR : Upkeep (σ := σ) Barren := upkeep
  exact hR.bind hR.bridge fun _ => hR.bind (hR.checkArity hr _ _) fun _ =>
    callback hr fun r => hR.replyValue hr r

omit hr in
theorem conduct (host : Host σ) : Conduct host (Barren (σ := σ)) where
  toBackground := upkeep.toBackground
  engineAnswer w q := silent rfl rfl rfl rfl (Engine.harmless_answer w.engine q)
  taskWritten w id t := silent rfl rfl rfl rfl (Engine.harmless_writeTask w.engine id t)
  taskKept _ _ := silent rfl rfl rfl rfl (.of_same rfl rfl)
  rejection _ hr := upkeep.rejection hr reporting host
  construction _ hr := construction hr
  memberCall _ hr := callMember hr
  wrappedCall _ hr w _ t args _ := callWrapped hr t args w
  moduleName _ hr base name := upkeep.resolveName hr base name (callback hr (upkeep.namedModule _ _))
  moduleText _ hr name := upkeep.loadSource hr name (callback hr upkeep.moduleSource)

omit hr in
/-- **A construction with the sentinel does not go unseen**: a busy host does not approve, so without the sentinel
there would be no instance. -/
theorem sees_sentinel {steps depth : Nat} {classId : Int32} {target v : Value} {args : List Value}
    (hbusy : w.busy = true)
    (h : (Machine.runner host steps depth).constructInstance host classId target args w = .ok v w') :
    ¬ ((Machine.runner host steps depth).constructInstance host classId target args).MissesSentinel w := by
  intro hmisses
  have hgrows := (Adds.bystander (fun _ _ => trivial) host).conduct.runner steps depth
  obtain ⟨r, t, during, before, -, -, hjournal⟩ := constructInstance_builds hgrows h
  obtain ⟨-, -, -, -, es, hes, hbarren⟩ := construction ((conduct host).runner steps depth) classId target args
    w.withoutSentinel hbusy rfl
  rw [hmisses, Act.after_ok h] at hes
  -- what the journal has more ends with the making of the instance
  have hnew : .built r classId t :: .made t :: during ++ .drawn t :: before = es :=
    List.append_cancel_right (hjournal.symm.trans hes)
  cases hbarren (.made t) (hnew ▸ List.mem_cons_of_mem _ List.mem_cons_self)

end Barren

end ScriptBridge
