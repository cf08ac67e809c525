import ScriptBridge.Proofs.PendingPromises

/-!
A refused action leaves everything as it was.

Design.  An action is a row of checks and then effects.  A check looks at the bridge alone, or lets a
script look at the kind of an object, which runs no code of the script's.  `Atomic` says of an
operation, in a given world, that a refusal comes before every effect: the world is as before, and a
runner that can do nothing but look comes to the same refusal.  `Spares` says that an operation never
refuses, which is so of everything after the first effect.
-/
namespace ScriptBridge

open Data Text Script Script.Script

variable {σ α β : Type}

/-- The faults by which an action refuses its arguments. -/
def BridgeFault.isRefusal : BridgeFault → Bool
  | wrongArguments | invalidHandle _ | promiseNotPending _ | notConstructor | notFunction => true
  | _ => false

/-! ### Looking -/

namespace Script.Prog

variable {ρ : Type}

/-- Nothing but the kinds of objects is asked for. -/
def OnlyLooks : Prog ρ → Prop
  | .done _ | .fail _ => True
  | .ask (.look _) k => ∀ a, (k a).OnlyLooks
  | .ask _ _ => False

/-- A run in which nothing but looking is answered. -/
def glance (e : Engine) : Prog ρ → Finish ρ
  | .done r => .done r
  | .fail v => .threw v
  | .ask (.look r) k => (k (e.answer (.look r)).1).glance e
  | .ask _ _ => .interrupted

end Script.Prog

/-- A runner that can do nothing but look: no code of a script runs in it. -/
def Runner.looking : Runner σ := ⟨fun p w => (p.glance w.engine, w)⟩

/-- Where only looking is needed, the runner comes to what looking shows, unless it is
interrupted; in either case nothing has changed. -/
def Runner.Looks (run : Runner σ) : Prop := ∀ {ρ : Type} (p : Prog ρ), p.OnlyLooks → ∀ w,
  run.run p w = (.interrupted, w) ∨ run.run p w = Runner.looking.run p w

theorem Machine.runner_looks (host : Host σ) (steps depth : Nat) :
    (Machine.runner host steps depth).Looks := by
  intro ρ p hp w
  induction steps generalizing p with
  | zero => exact .inl rfl
  | succ n ih =>
    cases p with
    | done r => exact .inr rfl
    | fail v => exact .inr rfl
    | ask q k =>
      cases q with
      | look r => exact ih (k _) (hp _)
      | _ => exact hp.elim

/-- What a script finds that only looks, it finds in any runner, and nothing has changed. -/
theorem Runner.Looks.script_ok {ρ : Type} {run : Runner σ} (hr : run.Looks) {m : Script ρ ρ}
    (hm : m.run.OnlyLooks) {w w' : World σ} {a : ρ} (h : run.script m w = .ok a w') :
    w' = w ∧ Runner.looking.script m w = .ok a w := by
  rcases hr m.run hm w with e | e
  · simp [Runner.script, Runner.exec, e] at h
  · have hsame : Runner.looking.script m w = .ok a w' := by
      rw [← h, Runner.script, Runner.exec, Runner.script, Runner.exec, e]
    have hw : w' = w := by
      rcases e' : m.run.glance w.engine with b | v | ⟨v, q, c⟩ | -
      all_goals simp [Runner.script, Runner.exec, Runner.looking, e'] at hsame
      exact hsame.2.symm
    exact ⟨hw, hw ▸ hsame⟩

theorem isCallable_onlyLooks (v : Value) : (isCallable v : Script Bool Bool).run.OnlyLooks := by
  cases v with
  | object r => exact fun _ => trivial
  | _ => trivial

/-- A bound function asks its target, which may be bound in turn. -/
theorem isConstructorFrom_onlyLooks {ρ : Type} (n : Nat) (r : Ref) {k : Bool → Prog ρ}
    (hk : ∀ b, (k b).OnlyLooks) (e : Value → Prog ρ) : (isConstructorFrom n r k e).OnlyLooks := by
  induction n generalizing r with
  | zero => exact hk false
  | succ n ih =>
    rintro ⟨proto, extensible, kind⟩
    cases kind with
    | host h => exact hk _
    | script p =>
      cases p with
      | bound target _ _ => exact ih target
      | _ => exact hk _

theorem isConstructor_onlyLooks (v : Value) :
    (isConstructor v : Script Bool Bool).run.OnlyLooks := by
  cases v with
  | object r => exact isConstructorFrom_onlyLooks chainLimit r (k := Prog.done) (fun _ => trivial) _
  | _ => trivial

/-! ### After the checks -/

/-- The operation does not refuse, in whatever world. -/
def Act.Spares (m : Act σ α) : Prop :=
  ∀ w f w', m w = .error (.fault f) w' → f.isRefusal = false

namespace Act

theorem error_inj {e f : Failure} {w w' : World σ}
    (h : (.error e w : EStateM.Result Failure (World σ) α) = .error f w') : e = f := by
  cases h
  rfl

theorem spares_of_ok {m : Act σ α} (hm : ∀ w, ∃ a w', m w = .ok a w') : Spares m := by
  intro w f w' h
  obtain ⟨a, w₁, e⟩ := hm w
  rw [e] at h
  cases h

theorem spares_pure (a : α) : Spares (pure a : Act σ α) := spares_of_ok fun w => ⟨a, w, rfl⟩

theorem spares_bridge : Spares (Act.bridge : Act σ Bridge) :=
  spares_of_ok fun w => ⟨w.bridge, w, rfl⟩

theorem spares_fault {f : BridgeFault} (hf : f.isRefusal = false) :
    Spares (Act.fault f : Act σ α) := by
  intro w g w' h
  cases error_inj (α := α) h
  exact hf

theorem spares_orFault {x : Except BridgeFault α}
    (hx : ∀ f, x = .error f → f.isRefusal = false) : Spares (Act.orFault x : Act σ α) := by
  cases x with
  | ok a => exact spares_pure a
  | error f => exact spares_fault (hx f rfl)

theorem spares_modify (f : World σ → World σ) : Spares (modify f : Act σ Unit) :=
  spares_of_ok fun w => ⟨(), f w, rfl⟩

namespace Spares

theorem bind {m : Act σ α} {k : α → Act σ β} (hm : m.Spares) (hk : ∀ a, (k a).Spares) :
    Spares (m >>= k) := by
  intro w f w' h
  rcases e : m w with ⟨a, w₁⟩ | ⟨g, w₁⟩
  · rw [bind_ok e] at h
    exact hk a w₁ f w' h
  · rw [bind_error e] at h
    cases h
    exact hm w f w' e

theorem map {m : Act σ α} {f : α → β} (hm : m.Spares) : Spares (f <$> m) := by
  intro w g w' h
  rcases e : m w with ⟨a, w₁⟩ | ⟨g', w₁⟩
  · simp [Functor.map, EStateM.map, e] at h
  · simp only [Functor.map, EStateM.map, e] at h
    cases h
    exact hm w g w' e

theorem discard {m : Act σ α} (hm : m.Spares) : Spares (Functor.discard m) := hm.map

end Spares

end Act

namespace Runner

variable (run : Runner σ) {ρ : Type}

/-- Scripts throw; they have no faults. -/
theorem script_spares (m : Script ρ ρ) : (run.script m).Spares := by
  intro w f w' h
  rcases e : run.run m.run w with ⟨g, w₁⟩
  cases g <;> simp [script, exec, e] at h

theorem script?_spares (m : Script ρ ρ) : (run.script? m).Spares := by
  intro w f w' h
  rcases e : run.run m.run w with ⟨g, w₁⟩
  cases g <;> simp [script?, e] at h

theorem stageClassified_spares (v : Value) : (run.stageClassified v).Spares :=
  Act.spares_bridge.bind fun _ => (Act.spares_modify _).bind fun _ => run.script_spares _

theorem conversionFault_spares (v : Value) (target : String) :
    (run.conversionFault v target : Act σ α).Spares :=
  (run.script_spares _).bind fun _ => Act.spares_fault rfl

theorem asObject_spares (v : Value) : (run.asObject v).Spares := by
  cases v with
  | object r => exact Act.spares_pure r
  | _ => exact run.conversionFault_spares _ _

theorem asFunction_spares (v : Value) : (run.asFunction v).Spares := by
  refine (run.script_spares _).bind fun b => ?_
  cases v with
  | object r =>
    cases b with
    | true => exact Act.spares_pure r
    | false => exact run.conversionFault_spares _ _
  | _ => exact run.conversionFault_spares _ _

theorem print_spares (host : Host σ) (level : PrintLevel) (text : String) :
    (Runner.print host level text).Spares := Act.spares_modify _

theorem printAll_spares (host : Host σ) (level : PrintLevel) (lines : List String) :
    (Runner.printAll host level lines).Spares := by
  induction lines with
  | nil => exact Act.spares_pure ()
  | cons line rest ih => exact (print_spares host level line).bind fun _ => ih

theorem reportRejection_spares (host : Host σ) (reason : Value) :
    (run.reportRejection host reason).Spares := by
  refine Act.spares_bridge.bind fun b => ?_
  rcases b.deferred with - | reasons
  · refine (run.script_spares _).bind fun _ => (Act.spares_modify _).bind fun _ => ?_
    refine Act.spares_bridge.bind fun _ => ?_
    exact (Act.spares_modify _).bind fun _ => printAll_spares host _ _
  · exact Act.spares_modify _

theorem releaseRejections_spares (host : Host σ) (handled : Option Value) :
    (run.releaseRejections host handled).Spares := by
  have each : ∀ reasons, (run.reportEach host reasons).Spares := by
    intro reasons
    induction reasons with
    | nil => exact Act.spares_pure ()
    | cons v rest ih => exact (run.reportRejection_spares host v).bind fun _ => ih
  exact Act.spares_bridge.bind fun _ => (Act.spares_modify _).bind fun _ => each _

theorem wrapFunction_spares : run.wrapFunction.Spares := by
  have made : (Runner.makeWrapped : Act σ Ref).Spares := Act.spares_of_ok fun _ => ⟨_, _, rfl⟩
  exact made.bind fun _ => run.stageClassified_spares _

end Runner

/-- Text that is not well formed is a fault of the engine's. -/
theorem hostText_error {u : Units} {f : BridgeFault} (h : hostText u = .error f) :
    f.isRefusal = false := by
  rw [hostText] at h
  split at h
  · cases h
  · cases h
    rfl

theorem checkNul_error {s : String} {f : BridgeFault} (h : Machine.checkNul s = .error f) :
    f.isRefusal = false := by
  rw [Machine.checkNul] at h
  split at h
  · cases h
    rfl
  · cases h

namespace Dispatch

variable (run : Runner σ)

theorem encode_spares (v : Value) : (encode v : Act σ Slot).Spares :=
  Act.spares_of_ok fun _ => ⟨_, _, rfl⟩

theorem evaluateModuleText_spares (name code : String) :
    (evaluateModuleText run name code).Spares := by
  refine (Act.spares_orFault fun _ => checkNul_error).bind fun _ => ?_
  refine (Act.spares_orFault fun _ => checkNul_error).bind fun _ => ?_
  exact (run.script_spares _).bind fun v => encode_spares v

theorem withholding_spares (host : Host σ) {m : Act σ α} (hm : m.Spares) :
    (withholding run host m).Spares := by
  intro w f w' h
  rw [withholding] at h
  rcases e : m { w with bridge := { w.bridge with deferred := some [] } } with ⟨a, w₁⟩ | ⟨g, w₁⟩
  · rw [e] at h
    exact (run.releaseRejections_spares host none).bind (fun _ => Act.spares_pure a) w₁ f w' h
  · rw [e] at h
    have hthrow : (throw g : Act σ α).Spares := by
      intro w f w' h
      have hg : g = .fault f := Act.error_inj h
      exact hm _ _ _ (hg ▸ e)
    exact (run.releaseRejections_spares host _).bind (fun _ => hthrow) w₁ f w' h

theorem settlePromise_spares (r : Ref) (v : Value) :
    (settlePromise run (.object r) v).Spares := (run.script_spares _).discard

theorem showsToken_spares (v : Value) : (showsToken run v).Spares := by
  cases v with
  | object o => exact (run.script_spares _).bind fun _ => Act.spares_pure _
  | _ => exact Act.spares_pure _

theorem shownNames_error {keys : List Key} {f : BridgeFault} (h : keys.mapM shownName = .error f) :
    f.isRefusal = false := by
  induction keys with
  | nil => cases h
  | cons k rest ih =>
    rw [List.mapM_cons] at h
    rcases e : shownName k with g | t
    · rw [e] at h
      cases h
      exact hostText_error e
    · rw [e] at h
      rcases e' : rest.mapM shownName with g | ts
      · rw [e'] at h
        cases h
        exact ih e'
      · rw [e'] at h
        cases h

end Dispatch

/-! ### Checks -/

/-- Where the operation refuses, nothing has changed, `seen` comes to the same refusal, and the
refusal is of kind `S`. -/
def Act.Refuses (m seen : Act σ α) (w : World σ) (S : BridgeFault → Prop) : Prop :=
  ∀ f w', f.isRefusal = true → m w = .error (.fault f) w' →
    w' = w ∧ seen w = .error (.fault f) w ∧ S f

/-- The world stays as it is. -/
abbrev Unchanged (w w' : World σ) : Prop := w' = w

theorem Unchanged.steady : Steady (@Unchanged σ) where
  refl _ := rfl
  trans hab hbc := hbc.trans hab

namespace Act.Refuses

variable {m seen : Act σ α} {k k' : α → Act σ β} {w : World σ} {S : BridgeFault → Prop}

theorem of_spares (hm : m.Spares) : Refuses m seen w S := by
  intro f w' hf h
  rw [hm w f w' h] at hf
  cases hf

/-- A fault that is not of kind `S` may still end the operation, if it is not a refusal. -/
theorem check (hm : m.Keeps Unchanged)
    (hS : ∀ f, f.isRefusal = true → m w = .error (.fault f) w → S f)
    (hk : ∀ a, m w = .ok a w → Refuses (k a) (k' a) w S) : Refuses (m >>= k) (m >>= k') w S := by
  intro f w' hf h
  have hw := hm w
  rcases e : m w with ⟨a, w₁⟩ | ⟨g, w₁⟩
  · rw [Act.after_ok e] at hw
    cases hw
    rw [Act.bind_ok e] at h ⊢
    exact hk a e f w' hf h
  · rw [Act.after_error e] at hw
    cases hw
    rw [Act.bind_error e] at h ⊢
    cases h
    exact ⟨rfl, rfl, hS f hf e⟩

theorem glance {run : Runner σ} (hr : run.Looks) {p : Script α α} (hp : p.run.OnlyLooks)
    (hk : ∀ a, Refuses (k a) (k' a) w S) :
    Refuses (run.script p >>= k) (Runner.looking.script p >>= k') w S := by
  intro f w' hf h
  rcases e : run.script p w with ⟨a, w₁⟩ | ⟨g, w₁⟩
  · obtain ⟨hw, hl⟩ := hr.script_ok hp e
    rw [hw] at e
    rw [Act.bind_ok e] at h
    rw [Act.bind_ok hl]
    exact hk a f w' hf h
  · rw [Act.bind_error e] at h
    rw [Act.error_inj h] at e
    rw [run.script_spares p w f w₁ e] at hf
    cases hf

/-- What follows does not refuse. -/
theorem before (hm : Refuses m seen w S) (hk : ∀ a, (k a).Spares) :
    Refuses (m >>= k) (seen >>= k') w S := by
  intro f w' hf h
  rcases e : m w with ⟨a, w₁⟩ | ⟨g, w₁⟩
  · rw [Act.bind_ok e] at h
    rw [hk a w₁ f w' h] at hf
    cases hf
  · rw [Act.bind_error e] at h
    cases h
    obtain ⟨hw, hs, hf⟩ := hm f w' hf e
    exact ⟨hw, Act.bind_error hs, hf⟩

end Act.Refuses

end ScriptBridge
