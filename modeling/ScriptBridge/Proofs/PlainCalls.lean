import ScriptBridge.Proofs.CallbackArguments
import ScriptBridge.Proofs.ClassObjects
import ScriptBridge.Proofs.InstanceOrigins

/-!
Constructors called without `new`.

A projected constructor runs the same code for a construction and for a plain call, and tells one from the other by
its receiver alone: a construction gets its new target there.

    receiver cannot be called    TypeError, nothing but the script's heap has changed      (`plain_call_refused`)
    receiver can be called       the call is the construction with it as the new target     (`plain_call_constructs`)

So `P.call(function(){})` is `Reflect.construct(P, [], function(){})`: it draws a token, asks the host, and makes an
instance (`Context.plain_call_reaches_host`).  A construction that is one asks the host exactly once, when its
arguments fit and are not the sentinel (`construction_asks_once`); what its new target does while its prototype is
read comes before the token is drawn.
-/
namespace ScriptBridge

open Data Text Script Script.Script Runner

variable {σ α : Type} (host : Host σ) (steps depth : Nat)

/-- A value that can be called. -/
def Script.Value.Callable (v : Value) (e : Engine) : Prop := ∃ r, v = .object r ∧ (e.obj r).kind.callable = true

def newMissing : String := "Class constructor cannot be invoked without 'new'"

namespace Machine

variable {f target proto : Ref} {classId : Int32} {this : Value} {args : List Value} {w w' : World σ}

/-! ### Plain calls -/

/-- **A plain call on an object is the construction that has it as its new target.** -/
theorem plain_call_constructs (hf : (w.engine.obj f).kind = .host (.constructor classId)) (target : Ref)
    (args : List Value) :
    callObject (runner host steps depth) host f (.object target) args w =
      constructObject (runner host steps depth) host f args target w := by
  rw [callObject_host _ host args hf, constructObject_constructor _ host args hf]
  rfl

/-- That a value cannot be called is seen in two steps, and nothing changes. -/
theorem script_isCallable_false (hthis : ¬ this.Callable w.engine) :
    (steps < 2 ∧ (runner host steps depth).script (isCallable this) w = .error .interrupted w) ∨
      (runner host steps depth).script (isCallable this) w = .ok false w := by
  cases this with
  | object r =>
    have hr : (w.engine.obj r).kind.callable = false := by
      by_contra hno
      exact hthis ⟨r, rfl, Bool.not_eq_false _ ▸ hno⟩
    rcases steps with - | - | n
    · exact .inl ⟨by omega, rfl⟩
    · exact .inl ⟨by omega, rfl⟩
    · exact .inr (congrArg (EStateM.Result.ok · w) hr)
  | _ =>
    rcases steps with - | n
    · exact .inl ⟨by omega, rfl⟩
    · exact .inr rfl

/-- Without a new target that can be called there is no construction. -/
theorem constructInstance_refuses (hcallable : (runner host steps depth).script (isCallable this) w = .ok false w) :
    (runner host steps depth).constructInstance host classId this args w =
      ((runner host steps depth).throwNew .typeError newMissing : Act σ Value) w := by
  rw [Runner.constructInstance, Act.bind_ok hcallable]
  cases this <;> rfl

/-- **A receiver that cannot be called is turned away**: a `TypeError` is thrown, the host is not asked, no token is
drawn, and there is no new instance. -/
theorem plain_call_refused (hf : (w.engine.obj f).kind = .host (.constructor classId))
    (hthis : ¬ this.Callable w.engine) (args : List Value) :
    let done := callObject (runner host steps depth) host f this args
    HeapOnly w (done.after w) ∧
    (∀ r k t, ((done.after w).engine.obj r).kind = .host (.instance k t) →
      (w.engine.obj r).kind = .host (.instance k t)) ∧
    (2 ≤ steps → ∃ r, done w = .error (.thrown (.object r)) (done.after w) ∧
      (done.after w).engine.obj r = errorObject .typeError newMissing) := by
  intro done
  have hdone : done w = (runner host steps depth).constructInstance host classId this args w :=
    callObject_host _ host args hf this
  rcases script_isCallable_false host steps depth hthis with ⟨hfew, hcut⟩ | hcallable
  · have hafter : done.after w = w := by
      rw [Act.after, hdone, Runner.constructInstance, Act.bind_error hcut]
    rw [hafter]
    exact ⟨HeapOnly.steady.refl w, fun _ _ _ h => h, fun hsteps => by omega⟩
  · rw [constructInstance_refuses host steps depth hcallable, throwNew_eq] at hdone
    -- whatever the throwing comes to, there is at most an error more in the heap
    have hafter : done.after w = w ∨
        done.after w = { w with engine := (w.engine.allocateObj (errorObject .typeError newMissing)).2 } := by
      rw [Act.after, hdone]
      rcases steps with - | - | n
      · exact .inl rfl
      · exact .inr rfl
      · exact .inr rfl
    refine ⟨?_, fun r k t hr => ?_, fun hsteps => ?_⟩
    · rcases hafter with h | h <;> rw [h] <;> exact ⟨rfl, rfl, rfl⟩
    · rcases hafter with h | h <;> rw [h] at hr
      · exact hr
      · rcases Warrants.of_allocateObj hr with hr | ⟨-, hkind⟩
        · exact hr
        · cases hkind
    · obtain ⟨n, rfl⟩ := Nat.exists_eq_add_of_le' hsteps
      refine ⟨.made w.engine.next, ?_, ?_⟩
      · rw [Act.after, hdone]
      · rw [Act.after, hdone]
        exact obj_allocate _ _

/-! ### Replies to a construction -/

/-- What the host says of a construction is read without asking it again. -/
theorem approval_heapOnly (r : Reply) : Act.Keeps HeapOnly ((runner host steps depth).approval r) := by
  have hR : Steady (σ := σ) HeapOnly := HeapOnly.steady
  cases r with
  | done => exact hR.pure ()
  | value s => exact hR.pure ()
  | throw s =>
    refine (hR.bind hR.bridge fun b => hR.bind ?_ fun v => hR.throw _).discard
    rcases b.decode s with f | v
    · exact throwFault_heapOnly host steps depth f
    · exact hR.pure v
  | failure c => exact (throwNew_heapOnly host steps depth _ _).discard

end Machine

/-! ### Callbacks that are made once -/

/-- From one world to the other the host was called just once, with these fixed slots and with slots for these
arguments, one by one. -/
def SendsOnce (w w' : World σ) (c : Callback) (fixed : List Slot) (args : List Value) : Prop :=
  ∃ (later : List Occurrence) (more : List Slot) (handles : List Handle), List.Forall₂ Conveys args more ∧
    (∀ x ∈ later, x.enters = false) ∧
    w'.bridge.journal
      = later ++ .entered c (fixed ++ more) :: (handles.map Occurrence.issued ++ w.bridge.journal)

theorem SendsOnce.later {w w' w'' : World σ} {c : Callback} {fixed : List Slot} {args : List Value}
    (h : SendsOnce w w' c fixed args) (es : List Occurrence) (hes : ∀ x ∈ es, x.enters = false)
    (hj : w''.bridge.journal = es ++ w'.bridge.journal) : SendsOnce w w'' c fixed args := by
  obtain ⟨later, more, handles, hmore, hquiet, hjournal⟩ := h
  refine ⟨es ++ later, more, handles, hmore, fun x hx => ?_, by rw [hj, hjournal, List.append_assoc]⟩
  exact (List.mem_append.mp hx).elim (hes x) (hquiet x)

/-- A callback calls a host that is not busy once, when reading the reply takes nothing but the heap. -/
theorem Runner.callHost_sendsOnce {run : Runner σ} (hr : run.Obeys Tidy) (c : Callback) (fixed : List Slot)
    (args : List Value) {finish : Reply → Act σ α} (hf : ∀ r, (finish r).Keeps HeapOnly) {w : World σ}
    (hb : w.busy = false) : SendsOnce w ((run.callHost host c fixed args finish).after w) c fixed args := by
  obtain ⟨es, turn, more, handles, hes, hturn, hmore, hjournal⟩ := callHost_journal host hr c fixed args
    (Q := fun x => x.enters = false) (fun r w => ⟨[], List.forall_mem_nil _, congrArg Bridge.journal (hf r w).bridge⟩) hb
  have hleft : ∀ x ∈ Occurrence.left :: turn, x.enters = false := List.forall_mem_cons.mpr ⟨rfl, hturn⟩
  exact ⟨es ++ .left :: turn, more, handles, hmore, List.forall_mem_append.mpr ⟨hes, hleft⟩, hjournal⟩

/-! ### Constructions -/

namespace Machine

variable {f target proto : Ref} {classId : Int32} {args : List Value} {w w₂ : World σ}

/-- What can be called and has shown a property has been seen to be callable. -/
theorem script_isCallable_of_shown (hcallable : (w.engine.obj target).kind.callable = true) {v : Value}
    (hproto : (runner host steps depth).script (target.getNamed "prototype") w = .ok v w₂) :
    (runner host steps depth).script (isCallable (.object target)) w = .ok true w := by
  rcases steps with - | - | n
  · cases hproto
  · cases hproto
  · exact congrArg (EStateM.Result.ok · w) hcallable

/-- **A construction asks the host exactly once**, when the host is not busy, the new target shows an object as its
prototype, and the arguments fit and are not the sentinel. -/
theorem construction_asks_once (hf : (w.engine.obj f).kind = .host (.constructor classId))
    (hcallable : (w.engine.obj target).kind.callable = true)
    (hproto : (runner host steps depth).script (target.getNamed "prototype") w = .ok (.object proto) w₂)
    (hb : w.busy = false) (hfits : 2 + args.length ≤ w.bridge.maxArguments)
    (hsentinel : isSentinel w.bridge args = false) :
    let done := constructObject (runner host steps depth) host f args target
    let drawn := (Runner.drawToken : Act σ UInt64).after w₂
    SendsOnce drawn (done.after w) .constructor [.int32 classId, .rawPointer (w₂.bridge.lastToken + 1)] args := by
  intro done drawn
  have hr : (runner host steps depth).Obeys Tidy := Tidy.runner host steps depth
  -- reading the prototype may run scripts, but leaves the limit, the sentinel and the host's leisure as they were
  have hsame : SameTables w w₂ := ((SameTables.bystander host).conduct.runner steps depth).script _ |>.of_ok hproto
  have hsecret : SameSentinel w w₂ :=
    ((SameSentinel.bystander host).conduct.runner steps depth).script _ |>.of_ok hproto
  have hsentinel₂ : isSentinel w₂.bridge args = false := (hsecret.isSentinel args).trans hsentinel
  have hb₂ : drawn.busy = false := hsame.busy.trans hb
  have hmax : drawn.bridge.maxArguments = w.bridge.maxArguments := hsame.maxArguments
  let t := w₂.bridge.lastToken + 1
  have hdone : done w = (do
      approving t ((runner host steps depth).approve host classId t args)
      makeInstance classId t proto : Act σ Value) drawn :=
    (constructObject_constructor _ host args hf target).trans
      (constructInstance_asks (script_isCallable_of_shown host steps depth hcallable hproto) hproto hsentinel₂)
  have hsent := Runner.callHost_sendsOnce host hr .constructor [.int32 classId, .rawPointer t] args
    (approval_heapOnly host steps depth) hb₂
  obtain ⟨es, hquiet, hnotes⟩ := approving_notes (approve_fits (w := drawn) (hmax ▸ hfits)) classId t proto
  rw [Act.after, hdone]
  exact hsent.later es hquiet hnotes

/-- **A constructor goes by its receiver alone.**  Whatever the host, the world and the arguments:

1. a plain call whose receiver cannot be called (`undefined`, a primitive value, an object that is no function) throws
   a `TypeError`; neither the host nor anything on the host's side has been touched, and no instance has been made;
2. a plain call whose receiver is an object does what the construction with it as the new target does, so where the
   receiver can be called, it goes on as a construction;
3. a construction whose new target can be called and shows an object as its prototype, while the host is not busy,
   draws a token and then asks the host exactly once, with the class, the token and all arguments, if these fit and are
   not the sentinel. -/
theorem constructor_calls {f : Ref} {classId : Int32} {w : World σ}
    (hf : (w.engine.obj f).kind = .host (.constructor classId)) :
    let run := runner host steps depth
    (∀ (this : Value) args, ¬ this.Callable w.engine →
      let done := callObject run host f this args
      HeapOnly w (done.after w) ∧
      (∀ r k t, ((done.after w).engine.obj r).kind = .host (.instance k t) →
        (w.engine.obj r).kind = .host (.instance k t)) ∧
      (2 ≤ steps → ∃ r, done w = .error (.thrown (.object r)) (done.after w) ∧
        (done.after w).engine.obj r = errorObject .typeError newMissing)) ∧
    (∀ target args, callObject run host f (.object target) args w = constructObject run host f args target w) ∧
    (∀ target proto args w₂, (w.engine.obj target).kind.callable = true →
      run.script (target.getNamed "prototype") w = .ok (.object proto) w₂ → w.busy = false →
      2 + args.length ≤ w.bridge.maxArguments → isSentinel w.bridge args = false →
      let done := constructObject run host f args target
      let drawn := (Runner.drawToken : Act σ UInt64).after w₂
      SendsOnce drawn (done.after w) .constructor [.int32 classId, .rawPointer (w₂.bridge.lastToken + 1)] args) := by
  intro run
  refine ⟨fun this args hthis => ?_, fun target args => ?_, fun target proto args w₂ => ?_⟩
  · exact plain_call_refused host steps depth hf hthis args
  · exact plain_call_constructs host steps depth hf target args
  · exact construction_asks_once host steps depth hf

end Machine

namespace Context

/-- The class of a kind that is a projected constructor. -/
def constructor? : Kind → Option Int32
  | .host (.constructor k) => some k
  | _ => none

theorem of_constructor? {kind : Kind} {k : Int32} (h : constructor? kind = some k) : kind = .host (.constructor k) := by
  unfold constructor? at h
  split at h <;> cases h
  rfl

/-- The object that reading a property has come to. -/
def shown? (x : EStateM.Result Failure (World σ) Value) : Option Ref :=
  match x with
  | .ok (.object r) _ => some r
  | _ => none

theorem of_shown? {x : EStateM.Result Failure (World σ) Value} (h : (shown? x).isSome = true) :
    ∃ r w', x = .ok (.object r) w' := by
  unfold shown? at h
  split at h
  · exact ⟨_, _, rfl⟩
  · cases h

/-- A constructor that is called with no receiver, and constructs with itself as the new target. -/
theorem constructor_calls_barren :
    let run := Machine.runner barren.host 400 5
    let f : Ref := .made 7
    (barren.world.engine.obj f).kind = .host (.constructor 1) ∧
    (∃ w' r, Machine.callObject run barren.host f .undefined [] barren.world = .error (.thrown (.object r)) w' ∧
      w'.engine.obj r = errorObject .typeError newMissing ∧ w'.bridge = barren.world.bridge) ∧
    (∃ w₂, SendsOnce ((Runner.drawToken : Act Unit UInt64).after w₂)
      ((Machine.constructObject run barren.host f [.int 3] f).after barren.world) .constructor
      [.int32 1, .rawPointer (w₂.bridge.lastToken + 1)] [.int 3]) := by
  intro run f
  obtain ⟨hconstructor, hshown, hidle, hfits, hsentinel⟩ :
      constructor? (barren.world.engine.obj f).kind = some 1 ∧
      (shown? (run.script (f.getNamed "prototype") barren.world)).isSome = true ∧ barren.world.busy = false ∧
      2 + [Value.int 3].length ≤ barren.world.bridge.maxArguments ∧
      isSentinel barren.world.bridge [.int 3] = false := by decide +kernel
  have hf := of_constructor? hconstructor
  obtain ⟨hrefused, -, honce⟩ := Machine.constructor_calls barren.host 400 5 hf
  refine ⟨hf, ?_, ?_⟩
  · obtain ⟨hheap, -, hthrown⟩ := hrefused .undefined [] fun ⟨r, h, _⟩ => nomatch h
    obtain ⟨r, hdone, herror⟩ := hthrown (by decide)
    exact ⟨_, r, hdone, herror, hheap.bridge⟩
  · obtain ⟨proto, w₂, hproto⟩ := of_shown? hshown
    refine ⟨w₂, honce f proto [.int 3] w₂ ?_ hproto hidle hfits hsentinel⟩
    rw [hf]
    rfl

/-- **A plain call constructs.**  A script calls the constructor, without `new`, with a function for a receiver: the
call has a result, for which a token was drawn, the host was asked, and an instance was made. -/
theorem plain_call_reaches_host :
    let called := barren.apply (.tryDispatch .eval [.text "P.call(function(){})", .text ""])
    barren.Reachable ∧ barren.world.bridge.journal.any asksApproval = false ∧
    draws barren.world.bridge.journal = [] ∧
    (barren.tryDispatch .eval [.text "P.call(function(){})", .text ""]).1.fault? = none ∧
    called.world.bridge.journal.any asksApproval = true ∧ draws called.world.bridge.journal = [1] ∧
    (findings Occurrence.built? called.world.bridge.journal).map Prod.snd = [(1, 1)] := by
  refine ⟨.step _ spacious_reachable, ?_⟩
  decide +kernel

end Context

end ScriptBridge
