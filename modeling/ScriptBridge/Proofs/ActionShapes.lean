import ScriptBridge.Proofs.Refusals

/-!
Which arguments an action takes, and what happens to others.

    perform c.runner c.host a args c.world = .error (.fault f) w'   →   w' = c.world

for every refusal `f`, in every context that a host can come to; and arguments of the action's shape
are never refused as wrong.  Each action is taken once: its checks one after another, each with
what the shape says about it, and then the effects, which do not refuse.
-/
namespace ScriptBridge

open Data Text Script Script.Script

variable {σ α β : Type}

/-! ### Shapes -/

namespace Bridge

/-- A live handle of an object. -/
def IsObject (b : Bridge) (s : Slot) : Prop :=
  ∃ h r, s.objectHandle? = some h ∧ b.ledger.get h = .ok (.object r)

/-- Text of the host, or a live handle of a script's string. -/
def IsText (b : Bridge) (s : Slot) : Prop :=
  (∃ t, s = .text t) ∨ ∃ h u m, s = .scriptString h ∧ b.ledger.get h = .ok (.string u m)

def IsKey (b : Bridge) (s : Slot) : Prop := (∃ i, s = .int32 i) ∨ b.IsText s

/-- A number of arguments, and at least as many slots. -/
def IsCounted (n : Int32) (rest : List Slot) : Prop :=
  0 ≤ n.toInt ∧ n.toInt.toNat ≤ rest.length

theorem IsObject.object {b : Bridge} {s : Slot} (hs : b.IsObject s) : ∃ r, b.object s = .ok r := by
  obtain ⟨h, r, hh, hg⟩ := hs
  refine ⟨r, ?_⟩
  simp only [Bridge.object, hh, hg]

theorem IsText.isString {b : Bridge} {s : Slot} (hs : b.IsText s) : s.isString = true := by
  obtain ⟨t, rfl⟩ | ⟨h, u, m, rfl, -⟩ := hs <;> rfl

/-- Text that is not well formed is the only thing that can be wrong with a text. -/
theorem IsText.stringOf {b : Bridge} {s : Slot} (hs : b.IsText s) {f : BridgeFault}
    (h : b.stringOf s = .error f) : f.isRefusal = false := by
  obtain ⟨t, rfl⟩ | ⟨g, u, m, rfl, hg⟩ := hs
  · cases h
  · rw [Bridge.stringOf, hg] at h
    exact hostText_error h

/-- Decoding fails by handles and promises only. -/
theorem decode_error {b : Bridge} {s : Slot} {f : BridgeFault} (h : b.decode s = .error f) :
    f ≠ .wrongArguments := by
  have handle : ∀ g, b.ledger.get g = .error f → f ≠ .wrongArguments := by
    intro g hg
    rw [Ledger.get] at hg
    split at hg <;> cases hg
    rintro ⟨⟩
  cases s with
  | promise id =>
    rw [decode, PromiseTable.get] at h
    split at h <;> cases h
    rintro ⟨⟩
  | scriptString g => exact handle g h
  | scriptValue g => exact handle g h
  | managed g => exact handle g h
  | hostClass _ g => exact handle g h
  | hostObject _ g => exact handle g h
  | _ => cases h

theorem decodeAll_error {b : Bridge} {ss : List Slot} {f : BridgeFault}
    (h : b.decodeAll ss = .error f) : f ≠ .wrongArguments := by
  induction ss with
  | nil => cases h
  | cons s rest ih =>
    rw [decodeAll] at h
    rcases e : b.decode s with g | v
    · rw [e] at h
      cases h
      exact decode_error e
    · rw [e] at h
      rcases e' : b.decodeAll rest with g | vs
      · rw [e'] at h
        cases h
        exact ih e'
      · rw [e'] at h
        cases h

end Bridge

/-- Arguments of an action's shape. -/
def Dispatch.WellShaped (b : Bridge) (a : Action) (args : List Slot) : Prop :=
  match a with
  | .eval | .run => ∃ code name, args = [code, name] ∧ b.IsText code ∧ b.IsText name
  | .toString => ∃ s, args = [s]
  | .set => ∃ target k v, args = [target, k, v] ∧ b.IsObject target ∧ b.IsKey k
  | .get => ∃ target k, args = [target, k] ∧ b.IsObject target ∧ b.IsKey k
  | .invoke => ∃ target name n rest, args = target :: name :: .int32 n :: rest ∧
      b.IsObject target ∧ b.IsText name ∧ Bridge.IsCounted n rest
  | .call => ∃ target n rest, args = target :: .int32 n :: rest ∧ b.IsObject target ∧
      Bridge.IsCounted n rest
  | .bind => ∃ target rest, args = target :: rest ∧ b.IsObject target
  | .promiseComplete => ∃ id code rest, args = .promise id :: .int32 code :: rest
  | .runPromise => ∃ target onResolve onReject, args = [target, onResolve, onReject] ∧
      b.IsObject target ∧ b.IsObject onResolve ∧ b.IsObject onReject
  | .propertyNames | .isArray | .isFunction | .isConstructor =>
    ∃ target, args = [target] ∧ b.IsObject target
  | .wrapFunction | .newObject => True

namespace Dispatch

/-- The refusals that arguments may meet: arguments of the action's shape are not wrong. -/
abbrev Fitting (w : World σ) (a : Action) (args : List Slot) (f : BridgeFault) : Prop :=
  WellShaped w.bridge a args → f ≠ .wrongArguments

/-! ### Checks of single arguments -/

theorem orFault_error {x : Except BridgeFault α} {f : BridgeFault} {w w' : World σ}
    (h : (Act.orFault x : Act σ α) w = .error (.fault f) w') : x = .error f := by
  cases x with
  | ok a => cases h
  | error g =>
    cases Act.error_inj (α := α) h
    rfl

theorem orFault_ok {x : Except BridgeFault α} {a : α} {w w' : World σ}
    (h : (Act.orFault x : Act σ α) w = .ok a w') : x = .ok a := by
  cases x with
  | ok b =>
    cases h
    rfl
  | error g => cases h

section Checks

variable {a : Action} {args : List Slot} {w : World σ} {s : Slot}

theorem refuses_object {k k' : Ref → Act σ β} (hs : WellShaped w.bridge a args → w.bridge.IsObject s)
    (hk : ∀ r, Act.Refuses (k r) (k' r) w (Fitting w a args)) :
    Act.Refuses (object s >>= k) (object s >>= k') w (Fitting w a args) := by
  refine .check (Unchanged.steady.object s) (fun f _ h hshape => ?_) fun r _ => hk r
  obtain ⟨r, hr⟩ := (hs hshape).object
  have herr : w.bridge.object s = .error f := orFault_error h
  rw [hr] at herr
  cases herr

theorem refuses_stringOf {k k' : String → Act σ β}
    (hs : WellShaped w.bridge a args → w.bridge.IsText s)
    (hk : ∀ t, Act.Refuses (k t) (k' t) w (Fitting w a args)) :
    Act.Refuses (stringOf s >>= k) (stringOf s >>= k') w (Fitting w a args) := by
  refine .check (Unchanged.steady.stringOf s) (fun f hf h hshape => ?_) fun t _ => hk t
  rw [(hs hshape).stringOf (orFault_error h)] at hf
  cases hf

theorem refuses_decode {k k' : Value → Act σ β}
    (hk : ∀ v, Act.Refuses (k v) (k' v) w (Fitting w a args)) :
    Act.Refuses (decode s >>= k) (decode s >>= k') w (Fitting w a args) :=
  .check (Unchanged.steady.decode s) (fun _ _ h _ => Bridge.decode_error (orFault_error h))
    fun v _ => hk v

theorem refuses_decodeAll {ss : List Slot} {k k' : List Value → Act σ β}
    (hk : ∀ vs, Act.Refuses (k vs) (k' vs) w (Fitting w a args)) :
    Act.Refuses (decodeAll ss >>= k) (decodeAll ss >>= k') w (Fitting w a args) :=
  .check (Unchanged.steady.decodeAll ss) (fun _ _ h _ => Bridge.decodeAll_error (orFault_error h))
    fun vs _ => hk vs

theorem refuses_fault {f : BridgeFault} (hf : Fitting w a args f) :
    Act.Refuses (Act.fault f : Act σ α) (Act.fault f) w (Fitting w a args) := by
  intro g w' _ h
  cases h
  exact ⟨rfl, rfl, hf⟩

/-- Arguments of another shape are refused as wrong. -/
theorem refuses_refused (h : ¬WellShaped w.bridge a args) :
    Act.Refuses (refused : Act σ α) refused w (Fitting w a args) :=
  refuses_fault fun hshape => absurd hshape h

theorem refuses_trailing {n : Int32} {rest : List Slot} {k k' : List Slot → Act σ β}
    (hs : WellShaped w.bridge a args → Bridge.IsCounted n rest)
    (hk : ∀ given, Act.Refuses (k given) (k' given) w (Fitting w a args)) :
    Act.Refuses (trailing n rest >>= k) (trailing n rest >>= k') w (Fitting w a args) := by
  refine .check (Unchanged.steady.trailing n rest) (fun f _ h hshape => ?_) fun given _ => hk given
  obtain ⟨hpos, hlen⟩ := hs hshape
  have hfit : (decide (n.toInt < 0) || decide (rest.length < n.toInt.toNat)) = false := by
    simp only [Bool.or_eq_false_iff, decide_eq_false_iff_not]
    omega
  rw [trailing, if_neg (by rw [hfit]; exact Bool.false_ne_true)] at h
  cases h

theorem refuses_key {k k' : Key → Act σ β} (hs : WellShaped w.bridge a args → w.bridge.IsKey s)
    (hk : ∀ key, Act.Refuses (k key) (k' key) w (Fitting w a args)) :
    Act.Refuses (key s >>= k) (key s >>= k') w (Fitting w a args) := by
  have text : ∀ s, (WellShaped w.bridge a args → w.bridge.IsKey s) → s.isString = true →
      Act.Refuses ((stringOf s >>= fun t => pure (.ofString t)) >>= k)
        ((stringOf s >>= fun t => pure (.ofString t)) >>= k') w (Fitting w a args) := by
    intro s hs hstring
    rw [bind_assoc, bind_assoc]
    refine refuses_stringOf (fun hshape => ?_) fun t => hk _
    obtain ⟨i, rfl⟩ | ht := hs hshape
    · cases hstring
    · exact ht
  have wrong : (¬∃ i, s = .int32 i) → s.isString = false →
      Act.Refuses (refused >>= k) (refused >>= k') w (Fitting w a args) := by
    intro hint hstring
    refine .check Unchanged.steady.refused (fun f _ _ hshape => ?_) fun _ h => by cases h
    obtain h | ht := hs hshape
    · exact absurd h hint
    · rw [ht.isString] at hstring
      cases hstring
  cases s with
  | int32 i => exact hk _
  | text t => exact text _ hs rfl
  | scriptString h => exact text _ hs rfl
  | _ => exact wrong nofun rfl

end Checks

/-! ### Actions -/

section Actions

variable {run : Runner σ} (hr : run.Looks) {host other : Host σ} (w : World σ) (args : List Slot)

theorem sourcePair_refuses {a : Action} (ha : a = .eval ∨ a = .run) :
    Act.Refuses (sourcePair args) (sourcePair args) w (Fitting w a args) := by
  have shape : WellShaped w.bridge a args →
      ∃ code name, args = [code, name] ∧ w.bridge.IsText code ∧ w.bridge.IsText name := by
    obtain rfl | rfl := ha <;> exact id
  unfold sourcePair
  split
  · rename_i code name
    have texts : WellShaped w.bridge a [code, name] →
        w.bridge.IsText code ∧ w.bridge.IsText name := by
      intro hshape
      obtain ⟨_, _, ⟨⟩, hc, hn⟩ := shape hshape
      exact ⟨hc, hn⟩
    split
    · exact refuses_stringOf (fun h => (texts h).1) fun _ =>
        refuses_stringOf (fun h => (texts h).2) fun _ => .of_spares (Act.spares_pure _)
    · rename_i hstrings
      refine refuses_refused fun hshape => hstrings ?_
      rw [(texts hshape).1.isString, (texts hshape).2.isString]
      rfl
  · rename_i hother
    refine refuses_refused fun hshape => ?_
    obtain ⟨code, name, rfl, -⟩ := shape hshape
    exact hother code name rfl

theorem evaluate_refuses :
    Act.Refuses (evaluate run args) (evaluate .looking args) w (Fitting w .eval args) := by
  refine (sourcePair_refuses w args (.inl rfl)).before fun p => ?_
  refine (Act.spares_orFault fun _ => checkNul_error).bind fun _ => ?_
  exact (run.script_spares _).bind fun v => encode_spares v

theorem runModule_refuses :
    Act.Refuses (runModule run host args) (runModule .looking other args) w
      (Fitting w .run args) := by
  refine (sourcePair_refuses w args (.inr rfl)).before fun p => ?_
  exact withholding_spares run host (evaluateModuleText_spares run _ _)

theorem toText_refuses :
    Act.Refuses (toText run args) (toText .looking args) w (Fitting w .toString args) := by
  unfold toText
  split
  · rename_i s
    refine .before ?_ fun _ => Act.spares_pure _
    refine refuses_decode fun v => .of_spares ?_
    exact (run.script_spares _).bind fun u => Act.spares_orFault fun _ => hostText_error
  · rename_i hother
    refine refuses_refused fun hshape => ?_
    obtain ⟨s, rfl⟩ := hshape
    exact hother s rfl

theorem setMember_refuses :
    Act.Refuses (setMember run args) (setMember .looking args) w (Fitting w .set args) := by
  unfold setMember
  split
  · rename_i target k v
    have shape : WellShaped w.bridge .set [target, k, v] →
        w.bridge.IsObject target ∧ w.bridge.IsKey k := by
      rintro ⟨_, _, _, ⟨⟩, h⟩
      exact h
    exact refuses_object (fun h => (shape h).1) fun r => refuses_key (fun h => (shape h).2) fun k =>
      refuses_decode fun v => .of_spares (run.script_spares _)
  · rename_i hother
    refine refuses_refused fun hshape => ?_
    obtain ⟨target, k, v, rfl, -⟩ := hshape
    exact hother target k v rfl

theorem getMember_refuses :
    Act.Refuses (getMember run args) (getMember .looking args) w (Fitting w .get args) := by
  unfold getMember
  split
  · rename_i target k
    have shape : WellShaped w.bridge .get [target, k] →
        w.bridge.IsObject target ∧ w.bridge.IsKey k := by
      rintro ⟨_, _, ⟨⟩, h⟩
      exact h
    exact refuses_object (fun h => (shape h).1) fun r => refuses_key (fun h => (shape h).2) fun k =>
      .of_spares ((run.script_spares _).bind fun v => encode_spares v)
  · rename_i hother
    refine refuses_refused fun hshape => ?_
    obtain ⟨target, k, rfl, -⟩ := hshape
    exact hother target k rfl

theorem invoke_refuses :
    Act.Refuses (invoke run args) (invoke .looking args) w (Fitting w .invoke args) := by
  unfold invoke
  split
  · rename_i target name n rest
    have shape : WellShaped w.bridge .invoke (target :: name :: .int32 n :: rest) →
        w.bridge.IsObject target ∧ w.bridge.IsText name ∧ Bridge.IsCounted n rest := by
      rintro ⟨_, _, _, _, ⟨⟩, h⟩
      exact h
    split
    · rename_i hstring
      refine refuses_refused fun hshape => ?_
      rw [(shape hshape).2.1.isString] at hstring
      cases hstring
    · exact refuses_object (fun h => (shape h).1) fun r =>
        refuses_trailing (fun h => (shape h).2.2) fun given =>
          refuses_key (fun h => .inr (shape h).2.1) fun k => refuses_decodeAll fun values =>
            .of_spares ((run.script_spares _).bind fun v => encode_spares v)
  · rename_i hother
    refine refuses_refused fun hshape => ?_
    obtain ⟨target, name, n, rest, rfl, -⟩ := hshape
    exact hother target name n rest rfl

theorem propertyNames_refuses :
    Act.Refuses (propertyNames run args) (propertyNames .looking args) w
      (Fitting w .propertyNames args) := by
  unfold propertyNames
  split
  · rename_i target
    have shape : WellShaped w.bridge .propertyNames [target] → w.bridge.IsObject target := by
      rintro ⟨_, ⟨⟩, h⟩
      exact h
    refine refuses_object shape fun r => .of_spares ((run.script_spares _).bind fun keys => ?_)
    exact (Act.spares_orFault fun _ => shownNames_error).bind fun _ => Act.spares_pure _
  · rename_i hother
    refine refuses_refused fun hshape => ?_
    obtain ⟨target, rfl, -⟩ := hshape
    exact hother target rfl

theorem testObject_refuses (test : Value → Script Bool Bool) {a : Action}
    (ha : a = .isArray ∨ a = .isFunction ∨ a = .isConstructor) :
    Act.Refuses (testObject run test args) (testObject .looking test args) w
      (Fitting w a args) := by
  have shape : WellShaped w.bridge a args → ∃ target, args = [target] ∧ w.bridge.IsObject target := by
    obtain rfl | rfl | rfl := ha <;> exact id
  unfold testObject
  split
  · rename_i target
    have object : WellShaped w.bridge a [target] → w.bridge.IsObject target := by
      intro hshape
      obtain ⟨_, ⟨⟩, h⟩ := shape hshape
      exact h
    exact refuses_object object fun r =>
      .of_spares ((run.script?_spares _).bind fun _ => Act.spares_pure _)
  · rename_i hother
    refine refuses_refused fun hshape => ?_
    obtain ⟨target, rfl, -⟩ := shape hshape
    exact hother target rfl

theorem runPromise_refuses :
    Act.Refuses (runPromise run args) (runPromise .looking args) w (Fitting w .runPromise args) := by
  unfold runPromise
  split
  · rename_i target onResolve onReject
    have shape : WellShaped w.bridge .runPromise [target, onResolve, onReject] →
        w.bridge.IsObject target ∧ w.bridge.IsObject onResolve ∧ w.bridge.IsObject onReject := by
      rintro ⟨_, _, _, ⟨⟩, h⟩
      exact h
    refine refuses_object (fun h => (shape h).1) fun v => refuses_object (fun h => (shape h).2.1)
      fun _ => refuses_object (fun h => (shape h).2.2) fun _ => .of_spares ?_
    refine Act.spares_bridge.bind fun b => ?_
    rcases b.intrinsics with - | i
    · exact Act.spares_fault rfl
    · refine (run.script_spares _).bind fun _ => (run.asObject_spares _).bind fun _ => ?_
      refine (run.script_spares _).bind fun _ => (run.asFunction_spares _).bind fun _ => ?_
      refine (run.script_spares _).discard.bind fun _ => (run.script_spares _).bind fun _ => ?_
      exact (run.asFunction_spares _).bind fun _ => (run.script_spares _).discard
  · rename_i hother
    refine refuses_refused fun hshape => ?_
    obtain ⟨target, onResolve, onReject, rfl, -⟩ := hshape
    exact hother target onResolve onReject rfl

theorem completion_refuses (outcome : Outcome) (rest : List Slot) {a : Action} :
    ∀ f, f.isRefusal = true → (completion outcome rest : Act σ Value) w = .error (.fault f) w →
      Fitting w a args f := by
  intro f hf h
  unfold completion at h
  split at h
  · cases h
  · exact fun _ => Bridge.decode_error (orFault_error h)
  · cases h

/-- A promise that is pending can be settled, so no refusal comes once it has been taken. -/
theorem completePromise_refuses (hp : w.bridge.promises.Pledged) :
    Act.Refuses (completePromise run args) (completePromise .looking args) w
      (Fitting w .promiseComplete args) := by
  unfold completePromise
  split
  · rename_i id code rest
    refine .check (Unchanged.steady.completion _ rest) (completion_refuses w _ _ rest) fun v _ => ?_
    refine .check Unchanged.steady.bridge (fun _ _ h => by cases h) fun b hb => ?_
    cases hb
    refine .check (Unchanged.steady.orFault _) (fun f _ h _ => ?_) fun taken htaken => ?_
    · rw [PromiseTable.take_error (orFault_error h)]
      nofun
    · have htake := orFault_ok htaken
      obtain ⟨⟨resolve, hresolve⟩, reject, hreject⟩ := hp id taken.1 (PromiseTable.take_ok htake).1
      refine .of_spares ((Act.spares_modify _).bind fun _ => ?_)
      rw [hresolve, hreject]
      split
      · exact settlePromise_spares run reject v
      · exact settlePromise_spares run resolve v
  · rename_i hother
    refine refuses_refused fun hshape => ?_
    obtain ⟨id, code, rest, rfl⟩ := hshape
    exact hother id code rest rfl

include hr

theorem callFunction_refuses :
    Act.Refuses (callFunction run args) (callFunction .looking args) w (Fitting w .call args) := by
  unfold callFunction
  split
  · rename_i target n rest
    have shape : WellShaped w.bridge .call (target :: .int32 n :: rest) →
        w.bridge.IsObject target ∧ Bridge.IsCounted n rest := by
      rintro ⟨_, _, _, ⟨⟩, h⟩
      exact h
    refine refuses_object (fun h => (shape h).1) fun r =>
      refuses_trailing (fun h => (shape h).2) fun given =>
        .glance hr (isCallable_onlyLooks _) fun callable => ?_
    cases callable with
    | false => exact refuses_fault fun _ => nofun
    | true =>
      exact refuses_decodeAll fun values =>
        .of_spares ((run.script_spares _).bind fun v => encode_spares v)
  · rename_i hother
    refine refuses_refused fun hshape => ?_
    obtain ⟨target, n, rest, rfl, -⟩ := hshape
    exact hother target n rest rfl

theorem bind_refuses :
    Act.Refuses (Dispatch.bind run args) (Dispatch.bind .looking args) w (Fitting w .bind args) := by
  unfold Dispatch.bind
  split
  · rename_i target rest
    have shape : WellShaped w.bridge .bind (target :: rest) → w.bridge.IsObject target := by
      rintro ⟨_, _, ⟨⟩, h⟩
      exact h
    refine refuses_object shape fun r => .glance hr (isConstructor_onlyLooks _) fun constructs => ?_
    cases constructs with
    | false => exact refuses_fault fun _ => nofun
    | true =>
      refine .of_spares (Act.spares_bridge.bind fun b => ?_)
      rcases b.intrinsics with - | i
      · exact Act.spares_fault rfl
      · refine (run.script_spares _).bind fun v => (showsToken_spares run v).bind fun shown => ?_
        cases shown with
        | true => exact run.stageClassified_spares v
        | false => exact Act.spares_fault rfl
  · rename_i hother
    refine refuses_refused fun hshape => ?_
    obtain ⟨target, rest, rfl, -⟩ := hshape
    exact hother target rest rfl

/-- Every action. -/
theorem perform_refuses (other : Host σ) (hp : w.bridge.promises.Pledged) (a : Action) :
    Act.Refuses (perform run host a args) (perform .looking other a args) w (Fitting w a args) := by
  cases a with
  | eval => exact (evaluate_refuses w args).before fun _ => Act.spares_pure _
  | toString => exact (toText_refuses w args).before fun _ => Act.spares_pure _
  | set => exact (setMember_refuses w args).before fun _ => Act.spares_pure _
  | get => exact (getMember_refuses w args).before fun _ => Act.spares_pure _
  | invoke => exact (invoke_refuses w args).before fun _ => Act.spares_pure _
  | bind => exact (bind_refuses hr w args).before fun _ => Act.spares_pure _
  | promiseComplete => exact (completePromise_refuses w args hp).before fun _ => Act.spares_pure _
  | wrapFunction => exact .of_spares (run.wrapFunction_spares.bind fun _ => Act.spares_pure _)
  | call => exact (callFunction_refuses hr w args).before fun _ => Act.spares_pure _
  | run => exact (runModule_refuses w args).before fun _ => Act.spares_pure _
  | runPromise => exact (runPromise_refuses w args).before fun _ => Act.spares_pure _
  | propertyNames => exact (propertyNames_refuses w args).before fun _ => Act.spares_pure _
  | newObject =>
    exact .of_spares (((run.script_spares _).bind fun _ => encode_spares _).bind fun _ =>
      Act.spares_pure _)
  | isArray =>
    exact (testObject_refuses w args _ (.inl rfl)).before fun _ => Act.spares_pure _
  | isFunction =>
    exact (testObject_refuses w args _ (.inr (.inl rfl))).before fun _ => Act.spares_pure _
  | isConstructor =>
    exact (testObject_refuses w args _ (.inr (.inr rfl))).before fun _ => Act.spares_pure _

end Actions

/-- **A refused action changes nothing.**  In every context that a host can come to, for every action
and every list of arguments: if the answer is a refusal, then the whole world is as before, and a
runner that can do nothing but look at objects comes to the same refusal, whatever the host, so no
code of a script ran and the host was not asked.  Arguments of the action's shape, with live handles
of the right kind where it needs them, are never refused as wrong. -/
theorem refusal_changes_nothing {c : Context σ} (hc : c.Reachable) (a : Action) (args : List Slot) :
    (∀ f w', f.isRefusal = true →
      perform c.runner c.host a args c.world = .error (.fault f) w' →
        w' = c.world ∧
        ∀ host, perform .looking host a args c.world = .error (.fault f) c.world) ∧
    (WellShaped c.world.bridge a args →
      ∀ w', perform c.runner c.host a args c.world ≠ .error (.fault .wrongArguments) w') := by
  have hr : c.runner.Looks := Machine.runner_looks c.host c.limits.steps c.limits.depth
  refine ⟨fun f w' hf h => ⟨?_, fun host => ?_⟩, fun hshape w' h => ?_⟩
  · exact (perform_refuses hr c.world args c.host hc.pledged a f w' hf h).1
  · exact (perform_refuses hr c.world args host hc.pledged a f w' hf h).2.1
  · exact (perform_refuses hr c.world args c.host hc.pledged a _ w' rfl h).2.2 hshape rfl

end Dispatch

/-! ### A context to begin with -/

/-- A host that agrees to everything. -/
def Host.agreeing : Host Unit := ⟨fun m _ _ => .reply .done m, fun m _ _ => m⟩

/-- A fresh context whose runs are short. -/
def Context.smallest : Context Unit :=
  ((blank .agreeing ⟨40, 5⟩ ⟨8, false, none⟩ ()).perform install).2

theorem Context.smallest_created : create .agreeing ⟨40, 5⟩ ⟨8, false, none⟩ () = .ok smallest :=
  create_of_ok .agreeing ⟨40, 5⟩ rfl (by decide +kernel)

theorem Context.smallest_reachable : smallest.Reachable := .created smallest_created

/-- A fresh context whose runs may be longer. -/
def Context.spacious : Context Unit :=
  ((blank .agreeing ⟨400, 5⟩ ⟨8, false, none⟩ ()).perform install).2

theorem Context.spacious_created : create .agreeing ⟨400, 5⟩ ⟨8, false, none⟩ () = .ok spacious :=
  create_of_ok .agreeing ⟨400, 5⟩ rfl (by decide +kernel)

theorem Context.spacious_reachable : spacious.Reachable := .created spacious_created

theorem Dispatch.refusal_changes_nothing_smallest :
    Context.smallest.Reachable ∧
    perform Context.smallest.runner Context.smallest.host .get [.null, .int32 0]
      Context.smallest.world = .error (.fault .wrongArguments) Context.smallest.world ∧
    ∀ host, perform .looking host .get [.null, .int32 0] Context.smallest.world
      = .error (.fault .wrongArguments) Context.smallest.world := by
  have hrefused : ∀ (run : Runner Unit) host w,
      perform run host .get [.null, .int32 0] w = .error (.fault .wrongArguments) w :=
    fun _ _ _ => rfl
  have h := refusal_changes_nothing Context.smallest_reachable .get [.null, .int32 0]
  exact ⟨Context.smallest_reachable, hrefused _ _ _, (h.1 _ _ rfl (hrefused _ _ _)).2⟩

end ScriptBridge
