import ScriptBridge.Bridge.Context
import ScriptBridge.Proofs.CalmScripts
import ScriptBridge.Proofs.Passage

/-!
What a context does around the slots that it gives out.

    m.Yields R put f   :   before `put`, R;  one value is put into the ledger;  after it, R

Design.  An action does a good deal before its result is staged, and a result that is classified runs
scripts afterwards, but it stages once and nothing fails after that.  `Attendance` lists what a relation
has to bear of everything but the staging; an operation `Yields` for such a relation when it can be cut
at the one place where a value is put into the ledger under the handle that its slot carries.  A relation
that bears the putting as well is then kept by the whole (`Act.Yields.keeps`), so each action is gone
through once.
-/
namespace ScriptBridge

open Data Text Script Script.Script

variable {σ α β : Type}

/-- The token in the kind of an object of the host's side. -/
def Script.HostData.token? : HostData → Option UInt64
  | .instance _ t | .wrapped t => some t
  | _ => none

/-! ### Arguments -/

namespace Steady

variable {R : World σ → World σ → Prop} (hR : Steady R)

include hR

theorem object (s : Slot) : Act.Keeps R (Dispatch.object s : Act σ Ref) :=
  hR.bind hR.bridge fun _ => hR.orFault _

theorem stringOf (s : Slot) : Act.Keeps R (Dispatch.stringOf s : Act σ String) :=
  hR.bind hR.bridge fun _ => hR.orFault _

theorem decode (s : Slot) : Act.Keeps R (Dispatch.decode s : Act σ Value) :=
  hR.bind hR.bridge fun _ => hR.orFault _

theorem decodeAll (ss : List Slot) : Act.Keeps R (Dispatch.decodeAll ss : Act σ (List Value)) :=
  hR.bind hR.bridge fun _ => hR.orFault _

theorem refused : Act.Keeps R (Dispatch.refused : Act σ α) := hR.fault _

theorem sourcePair (args : List Slot) :
    Act.Keeps R (Dispatch.sourcePair args : Act σ (String × String)) := by
  unfold Dispatch.sourcePair
  split
  · split
    · exact hR.bind (hR.stringOf _) fun _ => hR.bind (hR.stringOf _) fun _ => hR.pure _
    · exact hR.refused
  · exact hR.refused

theorem key (s : Slot) : Act.Keeps R (Dispatch.key s : Act σ Key) := by
  cases s with
  | int32 i => exact hR.pure _
  | text t => exact hR.bind (hR.stringOf _) fun _ => hR.pure _
  | scriptString h => exact hR.bind (hR.stringOf _) fun _ => hR.pure _
  | _ => exact hR.refused

theorem trailing (count : Int32) (rest : List Slot) :
    Act.Keeps R (Dispatch.trailing count rest : Act σ (List Slot)) := by
  unfold Dispatch.trailing
  split
  · exact hR.refused
  · exact hR.pure _

theorem completion (outcome : Outcome) (rest : List Slot) :
    Act.Keeps R (Dispatch.completion outcome rest : Act σ Value) := by
  unfold Dispatch.completion
  split
  · exact hR.pure _
  · exact hR.decode _
  · exact hR.pure _

end Steady

/-! ### Attendance -/

namespace World

/-- The world with a value staged in it. -/
def staging (w : World σ) (v : Value) : World σ := { w with bridge := (w.bridge.stage v).2 }

/-- The world in which the host holds a value by one reference of its own. -/
def holding (w : World σ) (v : Value) : World σ :=
  { w with bridge := { w.bridge with
      ledger := (w.bridge.ledger.insert v 1).2 }.note (.issued (w.bridge.ledger.insert v 1).1) }

/-- The world with one more class in its table. -/
def enrolling (w : World σ) (e : Int32 × ClassEntry) : World σ :=
  { w with bridge := { w.bridge with classes := w.bridge.classes ++ [e] } }

end World

/-! ### Registrations in parts -/

namespace Runner

variable (run : Runner σ) (d : ClassDescriptor) (classId : Int32) {w : World σ}

/-- The constructor and the prototype of a class, with all their members, before any script can see them. -/
def furnishClass : Act σ (Ref × Ref) := do
  let prototype ← run.script (newObject [] : Script Ref Ref)
  let constructor ← makeHostFunction (.constructor classId) (some d.name)
  defineMember run constructor (Key.ofString "prototype") (.fixed (.object prototype))
  defineMember run prototype (Key.ofString "constructor") (.hidden (.object constructor))
  defineMember run constructor classKey (.fixed (.int classId))
  installMethods run classId constructor prototype d.routes.zipIdx
  let objects ← asObject run (← run.script (globalObject.getNamed "Object"))
  let define ← asFunction run (← run.script (objects.getNamed "defineProperty"))
  installAccessors run classId constructor prototype define (AccessorPair.ofRoutes d.routes)
  return (constructor, prototype)

/-- The class's objects are made and the constructor is shown to scripts; the class is not entered yet. -/
def showClass : Act σ (Ref × Ref) := do
  let shown ← furnishClass run d classId
  run.script (globalObject.setNamed d.name (.object shown.1))
  return shown

/-- A class as it stands in the table. -/
def classEntry (shown : Ref × Ref) : Int32 × ClassEntry :=
  (classId, ⟨d.name, d.routes, .object shown.1, .object shown.2⟩)

theorem registerClass_taken (h : (w.bridge.classes.lookup classId).isSome = true) :
    run.registerClass d classId w = .error (.fault (.duplicateClass classId)) w := by
  rw [registerClass, Act.bind_bridge, if_pos h]
  rfl

/-- Enters a class in the table. -/
def enrolClass (e : Int32 × ClassEntry) : Act σ Unit := do
  let b ← Act.bridge
  Act.setBridge { b with classes := b.classes ++ [e] }

/-- The number is free: the class is shown, entered, and held. -/
theorem registerClass_free (h : w.bridge.classes.lookup classId = none) :
    run.registerClass d classId w = (do
      let shown ← showClass run d classId
      enrolClass (classEntry d classId shown)
      run.hold (.object shown.1)) w := by
  rw [registerClass, Act.bind_bridge, if_neg (by rw [h]; exact Bool.false_ne_true)]
  simp only [showClass, furnishClass, enrolClass, classEntry, bind_assoc, pure_bind]

end Runner

/-- What a relation has to bear of the objects that a class is made of, besides what scripts do. -/
structure Making (R : World σ → World σ → Prop) : Prop extends Background R where
  hostMade : ∀ w (h : HostData) proto members, h.token? = none →
    R w { w with engine := (w.engine.allocateObj (hostObject h proto members)).2 }

/-- What a relation has to bear, besides runs, of what a context does when it stages nothing; a class is
entered in the table by registrations only, and whether it may be is asked where one is made. -/
structure Attendance (host : Host σ) (R : World σ → World σ → Prop) : Prop
    extends Conduct host R, Upkeep R, Making R where
  busy : ∀ {w w'}, R w w' → w'.busy = w.busy
  withholding : ∀ run : Runner σ, run.Obeys R → ∀ {α : Type} {m : Act σ α}, m.Keeps R →
    Act.Keeps R (Dispatch.withholding run host m)
  valueHeld : ∀ w v, v.kept = true → R w (w.holding v)
  promiseTaken : ∀ w id p t, w.bridge.promises.take id = .ok (p, t) →
    R w { w with bridge := { w.bridge with promises := t }.note (.completed id) }
  functionWrapped : Act.Keeps R (Runner.makeWrapped : Act σ Ref)
  intrinsicsSet : ∀ w i, R w { w with bridge := { w.bridge with intrinsics := i } }
  jobTaken : ∀ w js, R w { w with engine := { w.engine with jobs := js } }
  collected : ∀ w, R w (Context.collect w)
  noticesDelivered : ∀ run : Runner σ, run.Obeys R → ∀ n w, w.busy = false →
    R w ((Context.deliverDue run host n).after w)

/-! ### Objects of classes -/

namespace Making

variable {R : World σ → World σ → Prop} (hR : Making R)

include hR

theorem makeHostFunction (h : HostData) (name : Option String) (hh : h.token? = none) :
    Act.Keeps R (Runner.makeHostFunction h name : Act σ Ref) :=
  Act.keeps_engine fun w => hR.hostMade w h _ _ hh

variable {run : Runner σ} (hr : run.Obeys R)

include hr

theorem installMethods (classId : Int32) (constructor prototype : Ref)
    (routes : List (Option MemberRoute × Nat)) :
    Act.Keeps R (run.installMethods classId constructor prototype routes) := by
  induction routes with
  | nil => exact hR.pure ()
  | cons r rest ih =>
    rcases r with ⟨- | route, position⟩
    · exact ih
    · unfold Runner.installMethods
      cases route.kind == .method with
      | true =>
        exact hR.bind (hR.makeHostFunction _ _ rfl) fun _ => hR.bind (hr.script _) fun _ => ih
      | false => exact ih

theorem installSide (classId : Int32) (name side : String) (description : Ref)
    (position : Option Nat) :
    Act.Keeps R (run.installSide classId name side description position) := by
  cases position with
  | some n => exact hR.bind (hR.makeHostFunction _ _ rfl) fun _ => hr.script _
  | none => exact hR.pure ()

theorem installAccessors (classId : Int32) (constructor prototype define : Ref)
    (pairs : List AccessorPair) :
    Act.Keeps R (run.installAccessors classId constructor prototype define pairs) := by
  induction pairs with
  | nil => exact hR.pure ()
  | cons p rest ih =>
    exact hR.bind (hr.script _) fun _ => hR.bind (hR.installSide hr _ _ _ _ _) fun _ =>
      hR.bind (hR.installSide hr _ _ _ _ _) fun _ => hR.bind (hr.script _) fun _ =>
        hR.bind (hr.script _).discard fun _ => ih

theorem furnishClass (d : ClassDescriptor) (classId : Int32) : Act.Keeps R (run.furnishClass d classId) := by
  refine hR.bind (hr.script _) fun _ => hR.bind (hR.makeHostFunction _ _ rfl) fun _ => ?_
  refine hR.bind (hr.script _) fun _ => hR.bind (hr.script _) fun _ => hR.bind (hr.script _) fun _ => ?_
  refine hR.bind (hR.installMethods hr _ _ _ _) fun _ => hR.bind (hr.script _) fun _ => ?_
  refine hR.bind (hR.asObject hr _) fun _ => hR.bind (hr.script _) fun _ => ?_
  exact hR.bind (hR.asFunction hr _) fun _ => hR.bind (hR.installAccessors hr _ _ _ _ _) fun _ => hR.pure _

theorem showClass (d : ClassDescriptor) (classId : Int32) : Act.Keeps R (run.showClass d classId) :=
  hR.bind (hR.furnishClass hr d classId) fun _ => hR.bind (hr.script _) fun _ => hR.pure _

end Making

namespace Attendance

variable {host : Host σ} {R : World σ → World σ → Prop} (hR : Attendance host R) {run : Runner σ}
  (hr : run.Obeys R)

include hR hr

/-! ### Actions that give nothing out -/

theorem setMember (args : List Slot) : Act.Keeps R (Dispatch.setMember run args) := by
  unfold Dispatch.setMember
  split
  · exact hR.bind (hR.object _) fun _ => hR.bind (hR.key _) fun _ => hR.bind (hR.decode _) fun _ =>
      hr.script _
  · exact hR.refused

theorem showsToken (v : Value) : Act.Keeps R (Dispatch.showsToken run v) := by
  cases v with
  | object o => exact hR.bind (hr.script _) fun _ => hR.pure _
  | _ => exact hR.pure _

theorem settlePromise (settler v : Value) : Act.Keeps R (Dispatch.settlePromise run settler v) := by
  cases settler with
  | object f => exact (hr.script _).discard
  | _ => exact hR.fault _

theorem completePromise (args : List Slot) : Act.Keeps R (Dispatch.completePromise run args) := by
  unfold Dispatch.completePromise
  split
  · rename_i id code rest
    refine hR.bind (hR.completion _ rest) fun v => Act.keeps_bridge fun w => ?_
    rcases ht : w.bridge.promises.take id with f | ⟨p, t⟩
    · exact hR.refl w
    · exact hR.setBridge (k := fun _ => Dispatch.settlePromise run
        (if Outcome.ofCode code.toInt == .reject then p.reject else p.resolve) v)
        (hR.promiseTaken w id p t ht) (hR.settlePromise hr _ v)
  · exact hR.refused

theorem runPromise (args : List Slot) : Act.Keeps R (Dispatch.runPromise run args) := by
  unfold Dispatch.runPromise
  split
  · refine hR.bind (hR.object _) fun _ => hR.bind (hR.object _) fun _ =>
      hR.bind (hR.object _) fun _ => hR.bind hR.bridge fun b => ?_
    cases b.intrinsics with
    | none => exact hR.fault _
    | some i =>
      exact hR.bind (hr.script _) fun _ => hR.bind (hR.asObject hr _) fun _ =>
        hR.bind (hr.script _) fun _ => hR.bind (hR.asFunction hr _) fun _ =>
          hR.bind (hr.script _).discard fun _ => hR.bind (hr.script _) fun _ =>
            hR.bind (hR.asFunction hr _) fun _ => (hr.script _).discard
  · exact hR.refused

/-! ### Creation and jobs -/

theorem installLevels (console : Ref) (levels : List (String × PrintLevel)) :
    Act.Keeps R (run.installLevels console levels) := by
  induction levels with
  | nil => exact hR.pure ()
  | cons l rest ih =>
    exact hR.bind (hR.makeHostFunction _ _ rfl) fun _ => hR.bind (hr.script _) fun _ => ih

theorem installConsole : Act.Keeps R run.installConsole :=
  hR.bind (hr.script _) fun _ => hR.bind (hR.installLevels hr _ _) fun _ =>
    hR.bind (hr.script _) fun _ => hR.bind (hR.makeHostFunction _ _ rfl) fun _ => hr.script _

theorem installIntrinsics : Act.Keeps R run.installIntrinsics :=
  hR.bind (hr.script _) fun _ => hR.bind (hr.script _) fun _ => hR.bind (hR.asObject hr _) fun _ =>
    hR.bind (hr.script _) fun _ => hR.bind (hR.asFunction hr _) fun _ =>
      Act.keeps_bridge fun w => hR.intrinsicsSet w _

theorem takeJob : Act.Keeps R (Context.takeJob run) := by
  refine Act.keeps_engine fun w => ?_
  rcases w.engine.jobs with - | ⟨j, rest⟩
  · exact hR.refl w
  · have hrest := hR.bind (hr.script (runJob j)).discard fun _ => hR.pure true
    exact hR.trans (hR.jobTaken w rest) (hrest _)

end Attendance

/-! ### One slot given out -/

/-- From one world to another with at most one value `put` into the ledger on the way, under the handle
that the slot carries. -/
inductive Hands (put : World σ → Value → World σ) (R : World σ → World σ → Prop) (w : World σ) :
    Option Slot → World σ → Prop where
  | nothing {o : Option Slot} {w' : World σ} : o.bind Slot.handle? = none → R w w' → Hands put R w o w'
  | one {w₁ w' : World σ} {v : Value} {s : Slot} : R w w₁ → v.kept = true →
      s.handle? = some ⟨w₁.bridge.ledger.next⟩ → s.isString = v.isText → R (put w₁ v) w' →
      Hands put R w (some s) w'

section Hands

variable {put : World σ → Value → World σ} {R : World σ → World σ → Prop} (hR : Steady R)

include hR

theorem Hands.before {w₀ w w' : World σ} {o : Option Slot} (hw : R w₀ w) (h : Hands put R w o w') :
    Hands put R w₀ o w' := by
  cases h with
  | nothing ho h => exact .nothing ho (hR.trans hw h)
  | one h hv hs ht h' => exact .one (hR.trans hw h) hv hs ht h'

theorem Hands.after {w w' w'' : World σ} {o : Option Slot} (h : Hands put R w o w') (hw : R w' w'') :
    Hands put R w o w'' := by
  cases h with
  | nothing ho h => exact .nothing ho (hR.trans h hw)
  | one h hv hs ht h' => exact .one h hv hs ht (hR.trans h' hw)

theorem Hands.whole (hput : ∀ w v, v.kept = true → R w (put w v)) {w w' : World σ} {o : Option Slot}
    (h : Hands put R w o w') : R w w' := by
  cases h with
  | nothing _ h => exact h
  | one h hv _ _ h' => exact hR.trans h (hR.trans (hput _ _ hv) h')

end Hands

/-- The operation puts one value into the ledger if its result is a slot with a handle, and none
otherwise; a failure puts none.  Only an interruption may come after a value was put. -/
structure Act.Yields (put : World σ → Value → World σ) (R : World σ → World σ → Prop)
    (f : α → Option Slot) (m : Act σ α) : Prop where
  ok : ∀ {w a w'}, m w = .ok a w' → Hands put R w (f a) w'
  failed : ∀ {w e w'}, m w = .error e w' → e ≠ .interrupted → R w w'
  interrupted : ∀ {w w'}, m w = .error .interrupted w' → ∃ o, Hands put R w o w'

namespace Act.Yields

variable {put : World σ → Value → World σ} {R : World σ → World σ → Prop} {f : α → Option Slot}

/-- A relation that bears the putting is kept by the whole. -/
theorem keeps (hR : Steady R) (hput : ∀ w v, v.kept = true → R w (put w v)) {m : Act σ α}
    (hm : m.Yields put R f) : m.Keeps R := by
  intro w
  rcases e : m w with ⟨a, w'⟩ | ⟨g, w'⟩
  · rw [Act.after_ok e]
    exact (hm.ok e).whole hR hput
  · rw [Act.after_error e]
    by_cases hg : g = .interrupted
    · obtain ⟨o, ho⟩ := hm.interrupted (hg ▸ e)
      exact ho.whole hR hput
    · exact hm.failed e hg

theorem fails {m : Act σ α} (hm : m.Keeps R) (hf : m.Fails) : m.Yields put R f where
  ok {w a w'} h := by
    obtain ⟨e, w₁, he⟩ := hf w
    cases h.symm.trans he
  failed h _ := hm.of_error h
  interrupted h := ⟨none, .nothing rfl (hm.of_error h)⟩

theorem map {g : β → α} {m : Act σ β} (hm : m.Yields put R fun b => f (g b)) :
    Act.Yields put R f (m >>= fun b => pure (g b)) where
  ok {w a w'} h := by
    obtain ⟨b, w₁, hb, ha⟩ := Act.of_bind_ok h
    cases ha
    exact hm.ok hb
  failed {w e w'} h he := by
    rcases hb : m w with ⟨b, w₁⟩ | ⟨g', w₁⟩
    · rw [Act.bind_ok hb] at h
      cases h
    · rw [Act.bind_error hb] at h
      cases h
      exact hm.failed hb he
  interrupted {w w'} h := by
    rcases hb : m w with ⟨b, w₁⟩ | ⟨g', w₁⟩
    · rw [Act.bind_ok hb] at h
      cases h
    · rw [Act.bind_error hb] at h
      cases h
      exact hm.interrupted hb

/-- An operation that always gives a result. -/
theorem returns {m : Act σ α} (a : World σ → α) (g : World σ → World σ) (hm : ∀ w, m w = .ok (a w) (g w))
    (h : ∀ w, Hands put R w (f (a w)) (g w)) : m.Yields put R f where
  ok {w a w'} hok := by
    cases (hm w).symm.trans hok
    exact h w
  failed {w e w'} herr := nomatch (hm w).symm.trans herr
  interrupted {w w'} herr := nomatch (hm w).symm.trans herr

section Steady

variable (hR : Steady R)

include hR

theorem pure {a : α} (hf : (f a).bind Slot.handle? = none) :
    Act.Yields put R f (Pure.pure a : Act σ α) where
  ok {w a' w'} h := by
    cases h
    exact .nothing hf (hR.refl _)
  failed h := nomatch h
  interrupted h := nomatch h

theorem throw (e : Failure) : Act.Yields put R f (MonadExcept.throw e : Act σ α) :=
  fails (hR.throw e) (.throw e)

/-- What comes before the putting. -/
theorem bind {m : Act σ β} {k : β → Act σ α} (hm : m.Keeps R) (hk : ∀ b, (k b).Yields put R f) :
    Act.Yields put R f (m >>= k) where
  ok {w a w'} h := by
    obtain ⟨b, w₁, hb, ha⟩ := Act.of_bind_ok h
    exact ((hk b).ok ha).before hR (hm.of_ok hb)
  failed {w e w'} h he := by
    rcases hb : m w with ⟨b, w₁⟩ | ⟨g, w₁⟩
    · rw [Act.bind_ok hb] at h
      exact hR.trans (hm.of_ok hb) ((hk b).failed h he)
    · rw [Act.bind_error hb] at h
      cases h
      exact hm.of_error hb
  interrupted {w w'} h := by
    rcases hb : m w with ⟨b, w₁⟩ | ⟨g, w₁⟩
    · rw [Act.bind_ok hb] at h
      obtain ⟨o, ho⟩ := (hk b).interrupted h
      exact ⟨o, ho.before hR (hm.of_ok hb)⟩
    · rw [Act.bind_error hb] at h
      cases h
      exact ⟨none, .nothing rfl (hm.of_error hb)⟩

theorem bridge {k : Bridge → Act σ α} (hk : ∀ b, (k b).Yields put R f) :
    Act.Yields put R f (Act.bridge >>= k) := bind hR hR.bridge hk

/-- A change of the bridge before the putting. -/
theorem changed {g : Bridge → Bridge} {k : Act σ α} (hg : ∀ w, R w { w with bridge := g w.bridge })
    (hk : k.Yields put R f) : Act.Yields put R f (do
      let b ← Act.bridge
      Act.setBridge (g b)
      k) := by
  rw [← bind_assoc]
  exact bind hR hg fun _ => hk

/-- A value that is put and then classified under its handle. -/
theorem classified {run : Runner σ} (hr : run.Obeys R) (hcalm : run.Calm) {v : Value}
    (hv : v.kept = true) {m : Act σ Slot}
    (hm : ∀ w, m w = run.script (classify ⟨w.bridge.ledger.next⟩ v) (put w v)) :
    m.Yields put R some where
  ok {w s w'} h := by
    rw [hm w] at h
    obtain ⟨hs, ht⟩ := hr.result (ensures_classify _ v) h
    exact .one (hR.refl w) hv hs ht ((hr.script _).of_ok h)
  failed {w e w'} h he := by
    rw [hm w] at h
    exact absurd (hcalm (Ends.classify _ v) _ e w' h) he
  interrupted {w w'} h := by
    rw [hm w] at h
    -- the slot that it would have come to is not known, but the value was put
    refine ⟨some (w.bridge.encode v).1, .one (hR.refl w) hv (Bridge.encode_kept hv).1 ?_
      ((hr.script _).of_error h)⟩
    cases v <;> rfl

/-- Wording what an operation throws comes after the putting. -/
theorem settle {run : Runner σ} (hr : run.Obeys R) {m : Act σ α} (hm : m.Yields put R f) :
    Act.Yields put R f (run.settle m) := by
  have worded : ∀ v, Act.Keeps R (do Act.fault (.exception (← run.script (renderThrown v))) : Act σ α) :=
    fun v => hR.bind (hr.script _) fun _ => hR.fault _
  have fails : ∀ v, Act.Fails (do Act.fault (.exception (← run.script (renderThrown v))) : Act σ α) :=
    fun v => .bind fun _ => .throw _
  refine ⟨?_, ?_, ?_⟩
  · intro w a w' h
    unfold Runner.settle at h
    rcases e : m w with ⟨b, w₁⟩ | ⟨g, w₁⟩ <;> rw [e] at h
    · cases h
      exact hm.ok e
    · cases g with
      | thrown v =>
        obtain ⟨e', w₂, he⟩ := fails v w₁
        cases h.symm.trans he
      | _ => cases h
  · intro w e w' h he
    unfold Runner.settle at h
    rcases e' : m w with ⟨b, w₁⟩ | ⟨g, w₁⟩ <;> rw [e'] at h
    · cases h
    · cases g with
      | thrown v => exact hR.trans (hm.failed e' nofun) ((worded v).of_error h)
      | _ =>
        cases h
        exact hm.failed e' he
  · intro w w' h
    unfold Runner.settle at h
    rcases e' : m w with ⟨b, w₁⟩ | ⟨g, w₁⟩ <;> rw [e'] at h
    · cases h
    · cases g with
      | thrown v => exact ⟨none, .nothing rfl (hR.trans (hm.failed e' nofun) ((worded v).of_error h))⟩
      | fault f => cases h
      | interrupted =>
        cases h
        exact hm.interrupted e'

end Steady

end Act.Yields

/-! ### Actions -/

namespace Runner

variable (run : Runner σ) (v : Value) (w : World σ)

theorem stageClassified_eq :
    run.stageClassified v w = run.script (classify ⟨w.bridge.ledger.next⟩ v) (w.staging v) := by
  have hfst : (w.bridge.stage v).1 = ⟨w.bridge.ledger.next⟩ := Ledger.stage_fst _ _
  rw [← hfst]
  rfl

theorem hold_eq : run.hold v w = run.script (classify ⟨w.bridge.ledger.next⟩ v) (w.holding v) := rfl

end Runner

namespace Attendance

open World

variable {host : Host σ} {R : World σ → World σ → Prop} (hR : Attendance host R) {run : Runner σ}
  (hr : run.Obeys R)

include hR

theorem encode (v : Value) : (Dispatch.encode v : Act σ Slot).Yields staging R some := by
  refine .returns (fun w => (w.bridge.encode v).1) (fun w => { w with bridge := (w.bridge.encode v).2 })
    (fun _ => rfl) fun w => ?_
  cases hv : v.kept with
  | true =>
    rw [(Bridge.encode_kept hv).2]
    refine .one (hR.refl w) hv (Bridge.encode_kept hv).1 ?_ (hR.refl _)
    cases v <;> rfl
  | false =>
    rw [(Bridge.encode_plain hv).2]
    exact .nothing (Bridge.encode_plain hv).1 (hR.refl w)

theorem refused : (Dispatch.refused : Act σ Slot).Yields staging R some :=
  .throw hR.toSteady _

include hr

theorem evaluate (args : List Slot) : (Dispatch.evaluate run args).Yields staging R some :=
  .bind hR.toSteady (hR.sourcePair args) fun _ => .bind hR.toSteady (hR.orFault _) fun _ =>
    .bind hR.toSteady (hr.script _) fun v => hR.encode v

theorem evaluateModuleText (name code : String) :
    (Dispatch.evaluateModuleText run name code).Yields staging R some :=
  .bind hR.toSteady (hR.orFault _) fun _ => .bind hR.toSteady (hR.orFault _) fun _ =>
    .bind hR.toSteady (hr.script _) fun v => hR.encode v

theorem getMember (args : List Slot) : (Dispatch.getMember run args).Yields staging R some := by
  unfold Dispatch.getMember
  split
  · exact .bind hR.toSteady (hR.object _) fun _ => .bind hR.toSteady (hR.key _) fun _ =>
      .bind hR.toSteady (hr.script _) fun v => hR.encode v
  · exact hR.refused

theorem invoke (args : List Slot) : (Dispatch.invoke run args).Yields staging R some := by
  unfold Dispatch.invoke
  split
  · split
    · exact hR.refused
    · exact .bind hR.toSteady (hR.object _) fun _ => .bind hR.toSteady (hR.trailing _ _) fun _ =>
        .bind hR.toSteady (hR.key _) fun _ => .bind hR.toSteady (hR.decodeAll _) fun _ =>
          .bind hR.toSteady (hr.script _) fun v => hR.encode v
  · exact hR.refused

theorem callFunction (args : List Slot) : (Dispatch.callFunction run args).Yields staging R some := by
  unfold Dispatch.callFunction
  split
  · refine .bind hR.toSteady (hR.object _) fun _ => .bind hR.toSteady (hR.trailing _ _) fun _ =>
      .bind hR.toSteady (hr.script _) fun callable => ?_
    cases callable with
    | false => exact .throw hR.toSteady _
    | true =>
      exact .bind hR.toSteady (hR.decodeAll _) fun _ => .bind hR.toSteady (hr.script _) fun v => hR.encode v
  · exact hR.refused

theorem makePlain : (Dispatch.makePlain run).Yields staging R some :=
  .bind hR.toSteady (hr.script _) fun _ => hR.encode _

theorem propertyNames (args : List Slot) : (Dispatch.propertyNames run args).Yields staging R some := by
  unfold Dispatch.propertyNames
  split
  · exact .bind hR.toSteady (hR.object _) fun _ => .bind hR.toSteady (hr.script _) fun _ =>
      .bind hR.toSteady (hR.orFault _) fun _ => .pure hR.toSteady rfl
  · exact hR.refused

theorem testObject (test : Value → Script Bool Bool) (args : List Slot) :
    (Dispatch.testObject run test args).Yields staging R some := by
  unfold Dispatch.testObject
  split
  · exact .bind hR.toSteady (hR.object _) fun _ => .bind hR.toSteady (hr.script? _) fun _ =>
      .pure hR.toSteady rfl
  · exact hR.refused

theorem toText (args : List Slot) : (Dispatch.toText run args).Yields staging R some := by
  unfold Dispatch.toText
  split
  · exact .bind hR.toSteady (hR.stringify hr _) fun _ => .pure hR.toSteady rfl
  · exact hR.refused

variable (hcalm : run.Calm)

include hcalm

theorem stageClassified {v : Value} (hv : v.kept = true) :
    (run.stageClassified v).Yields staging R some :=
  .classified hR.toSteady hr hcalm hv (run.stageClassified_eq v)

theorem hold {v : Value} (hv : v.kept = true) : (run.hold v).Yields holding R some :=
  .classified hR.toSteady hr hcalm hv (run.hold_eq v)

theorem wrapFunction : run.wrapFunction.Yields staging R some :=
  .bind hR.toSteady hR.functionWrapped fun _ => hR.stageClassified hr hcalm rfl

theorem bindInstance (args : List Slot) : (Dispatch.bind run args).Yields staging R some := by
  unfold Dispatch.bind
  split
  · refine .bind hR.toSteady (hR.object _) fun r => .bind hR.toSteady (hr.script _) fun constructible => ?_
    cases constructible with
    | false => exact .throw hR.toSteady _
    | true =>
      refine .bridge hR.toSteady fun b => ?_
      rcases b.intrinsics with - | i
      · exact .throw hR.toSteady _
      · refine .bind hR.toSteady (hr.script _) fun v => ?_
        -- only an object shows a token, so what is staged is one
        cases v with
        | object o =>
          refine .bind hR.toSteady (hR.showsToken hr _) fun shown => ?_
          cases shown with
          | true => exact hR.stageClassified hr hcalm rfl
          | false => exact .throw hR.toSteady _
        | _ => exact .throw hR.toSteady _
  · exact hR.refused

/-- Every action but the running of a module, which withholds rejections on the way. -/
theorem perform {a : Action} (ha : a ≠ .run) (args : List Slot) :
    (Dispatch.perform run host a args).Yields staging R id := by
  have none : ∀ {m : Act σ Unit}, m.Keeps R →
      Act.Yields staging R id (do
        m
        return none) := fun hm => .bind hR.toSteady hm fun _ => .pure hR.toSteady rfl
  cases a with
  | eval => exact .map (hR.evaluate hr args)
  | toString => exact .map (hR.toText hr args)
  | set => exact none (hR.setMember hr args)
  | get => exact .map (hR.getMember hr args)
  | invoke => exact .map (hR.invoke hr args)
  | bind => exact .map (hR.bindInstance hr hcalm args)
  | promiseComplete => exact none (hR.completePromise hr args)
  | wrapFunction => exact .map (hR.wrapFunction hr hcalm)
  | call => exact .map (hR.callFunction hr args)
  | run => exact absurd rfl ha
  | runPromise => exact none (hR.runPromise hr args)
  | propertyNames => exact .map (hR.propertyNames hr args)
  | newObject => exact .map (hR.makePlain hr)
  | isArray => exact .map (hR.testObject hr _ args)
  | isFunction => exact .map (hR.testObject hr _ args)
  | isConstructor => exact .map (hR.testObject hr _ args)

/-! ### Registration -/

theorem registerClass (hadded : ∀ w e, R w (w.enrolling e)) (d : ClassDescriptor) (classId : Int32) :
    (run.registerClass d classId).Yields holding R some := by
  -- all of it happens only when the class is new
  have added : Act.Yields holding R some (do
      let shown ← run.showClass d classId
      let b ← Act.bridge
      Act.setBridge { b with classes := b.classes ++ [Runner.classEntry d classId shown] }
      run.hold (.object shown.1)) :=
    .bind hR.toSteady (hR.showClass hr d classId) fun _ =>
      .changed hR.toSteady (fun w => hadded w _) (hR.hold hr hcalm rfl)
  refine .bridge hR.toSteady fun b => ?_
  cases (b.classes.lookup classId).isSome with
  | true => exact .throw hR.toSteady _
  | false =>
    simpa only [Runner.showClass, Runner.furnishClass, Runner.classEntry, bind_assoc, pure_bind,
      Bool.false_eq_true, if_false] using added

end Attendance

end ScriptBridge
