import ScriptBridge.Proofs.CallbackFrames
import ScriptBridge.Proofs.EngineSteps

/-!
Acts that change nothing but the heap.

    m.Builds w Q   :   whatever becomes of `m` in `w`, only the heap changes,
                       and where it gives a result, `Q` is so of it and of the heap

Pieces of scripts that the engine answers alone are such acts, and so is a call when what is called is one
(`Machine.call_builds`).  Sequences are put together by `Act.Builds.bind`, so a failure in the middle of one, a
thrown value or the limit of steps, needs no case of its own.

Design.  That the host's side stays as it is stands in the definition, so a specification says of the heap alone what
the act does, and is given once for the acts that succeed and for those that do not.
-/
namespace ScriptBridge

open Data Text Script Script.Script

variable {σ ρ α β : Type} {w w' : World σ}

/-- Nothing has changed but the heap. -/
structure HeapOnly (w w' : World σ) : Prop where
  bridge : w'.bridge = w.bridge
  memory : w'.memory = w.memory
  busy : w'.busy = w.busy

theorem HeapOnly.steady : Steady (σ := σ) HeapOnly where
  refl _ := ⟨rfl, rfl, rfl⟩
  trans h h' := ⟨h'.bridge.trans h.bridge, h'.memory.trans h.memory, h'.busy.trans h.busy⟩

/-- Whatever becomes of the act, only the heap changes; and this is so of a result and its heap. -/
structure Act.Builds (m : Act σ α) (w : World σ) (Q : α → Engine → Prop) : Prop where
  heapOnly : HeapOnly w (m.after w)
  result : ∀ {a w'}, m w = .ok a w' → Q a w'.engine

namespace Act.Builds

variable {m : Act σ α} {Q R : α → Engine → Prop}

theorem of_ok {a : α} (h : m w = .ok a w') (hsame : HeapOnly w w') (hQ : Q a w'.engine) : m.Builds w Q := by
  refine ⟨Act.after_ok h ▸ hsame, fun h' => ?_⟩
  cases h.symm.trans h'
  exact hQ

/-- An act that fails builds whatever one wants. -/
theorem of_error {f : Failure} (h : m w = .error f w') (hsame : HeapOnly w w') : m.Builds w Q := by
  refine ⟨Act.after_error h ▸ hsame, fun h' => ?_⟩
  cases h.symm.trans h'

/-- What is known of an act that has given its result. -/
theorem ok (hm : m.Builds w Q) {a : α} (h : m w = .ok a w') : HeapOnly w w' ∧ Q a w'.engine :=
  ⟨Act.after_ok h ▸ hm.heapOnly, hm.result h⟩

/-- It matters only what the act does in this world. -/
theorem of_eq {m' : Act σ α} (h : m w = m' w) (hm : m'.Builds w Q) : m.Builds w Q :=
  ⟨by rw [Act.after, h]; exact hm.heapOnly, fun hok => hm.result (h ▸ hok)⟩

theorem mono (hm : m.Builds w Q) (hQR : ∀ a e, Q a e → R a e) : m.Builds w R :=
  ⟨hm.heapOnly, fun h => hQR _ _ (hm.result h)⟩

theorem pure {a : α} (hQ : Q a w.engine) : (Pure.pure a : Act σ α).Builds w Q :=
  .of_ok rfl (HeapOnly.steady.refl w) hQ

theorem bind {k : α → Act σ β} {R : β → Engine → Prop} (hm : m.Builds w Q)
    (hk : ∀ a w₁, Q a w₁.engine → (k a).Builds w₁ R) : (m >>= k).Builds w R := by
  refine ⟨HeapOnly.steady.bindAt hm.heapOnly fun a w₁ h => (hk a w₁ (hm.result h)).heapOnly, fun h => ?_⟩
  obtain ⟨a, w₁, hfirst, hrest⟩ := Act.of_bind_ok h
  exact (hk a w₁ (hm.result hfirst)).result hrest

theorem discard {R : Engine → Prop} (hm : m.Builds w fun _ => R) :
    (Functor.discard m : Act σ PUnit).Builds w fun _ => R := by
  have hdiscard : (Functor.discard m : Act σ PUnit) w = EStateM.map (Function.const α ⟨⟩) m w := rfl
  rcases e : m w with ⟨a, w₁⟩ | ⟨f, w₁⟩
  · exact .of_ok (hdiscard.trans (by rw [EStateM.map, e])) (hm.ok e).1 (hm.ok e).2
  · exact .of_error (hdiscard.trans (by rw [EStateM.map, e])) (Act.after_error e ▸ hm.heapOnly)

end Act.Builds

namespace Machine

variable {host : Host σ} {steps depth : Nat} {e' : Engine}

/-! ### Pieces of scripts -/

theorem script_builds {m : Script ρ ρ} {a : ρ} (hm : Comes m w.engine a e') :
    ((runner host steps depth).script m).Builds w fun b e => b = a ∧ e = e' := by
  obtain ⟨e₁, hscript⟩ | ⟨n, hscript⟩ := @script_leads σ ρ host w steps depth m _ _ hm.run
  · exact .of_error hscript ⟨rfl, rfl, rfl⟩
  · rcases n with - | n
    · exact .of_error hscript ⟨rfl, rfl, rfl⟩
    · exact .of_ok hscript ⟨rfl, rfl, rfl⟩ ⟨rfl, rfl⟩

/-- A piece that throws has no result. -/
theorem script_throws {m : Script ρ ρ} {v : Value} {Q : ρ → Engine → Prop} (hm : Raises m w.engine v e') :
    ((runner host steps depth).script m).Builds w Q := by
  obtain ⟨e₁, hscript⟩ | ⟨n, hscript⟩ := @script_leads σ ρ host w steps depth m _ _ hm.run
  · exact .of_error hscript ⟨rfl, rfl, rfl⟩
  · rcases n with - | n <;> exact .of_error hscript ⟨rfl, rfl, rfl⟩

/-- A piece that looks comes to what it sees. -/
theorem script_sees {m : Script ρ ρ} {a : ρ} (hm : Sees m w.engine a) :
    ((runner host steps depth).script m).Builds w fun b e => b = a ∧ e = w.engine :=
  script_builds hm.comes

/-! ### Errors -/

theorem throwNew_heapOnly (host : Host σ) (steps depth : Nat) (c : ErrorClass) (message : String) :
    Act.Keeps HeapOnly ((runner host steps depth).throwNew c message : Act σ α) := by
  intro w
  rw [Act.after, Runner.throwNew_eq]
  rcases steps with - | - | n <;> exact ⟨rfl, rfl, rfl⟩

theorem throwFault_heapOnly (host : Host σ) (steps depth : Nat) (f : BridgeFault) :
    Act.Keeps HeapOnly ((runner host steps depth).throwFault f : Act σ α) := by
  cases f <;> exact throwNew_heapOnly host steps depth _ _

/-- Something too deep is thrown. -/
theorem throwDeep_raises (e : Engine) : ∃ v e', Raises (throwDeep : Script ρ α) e v e' := by
  let q : Request := .make (some (.builtin (.object (.errorPrototype .rangeError)))) .error
    [(Key.ofString "message",
        .hidden (.spelled (Units.bounded messageLimit (Units.ofString "Maximum call stack size exceeded")))),
      (Key.ofString "stack", .hidden (.spelled []))]
  exact ⟨.object (e.answer q).1, (e.answer q).2,
    Comes.raises (.request (q := q) rfl) fun _ err => .refl (err _) _⟩

/-! ### Calls -/

/-- A script sees the result of an operation only where there is one. -/
theorem outcome_builds {m : Act σ α} {Q : α → Engine → Prop} (hm : m.Builds w Q) :
    (outcome (runner host steps depth) m).Builds w fun x e => ∀ a, x = .ok a → Q a e := by
  rcases em : m w with ⟨b, w₁⟩ | ⟨f, w₁⟩
  · have hdone : outcome (runner host steps depth) m w = .ok (.ok b) w₁ := by simp only [outcome, em]
    refine .of_ok hdone (hm.ok em).1 fun a ha => ?_
    cases ha
    exact hm.result em
  · have hsame : HeapOnly w w₁ := Act.after_error em ▸ hm.heapOnly
    cases f with
    | thrown v =>
      have hdone : outcome (runner host steps depth) m w = .ok (.error v) w₁ := by simp only [outcome, em]
      exact .of_ok hdone hsame fun _ ha => by cases ha
    | interrupted =>
      have hdone : outcome (runner host steps depth) m w = .error .interrupted w₁ := by simp only [outcome, em]
      exact .of_error hdone hsame
    | fault f =>
      obtain ⟨x, w₂, hfails⟩ := (runner host steps depth).throwFault_fails (α := α) f w₁
      have hsame₂ := HeapOnly.steady.trans hsame ((throwFault_heapOnly host steps depth f).of_error hfails)
      cases x with
      | thrown v =>
        have hdone : outcome (runner host steps depth) m w = .ok (.error v) w₂ := by simp only [outcome, em, hfails]
        exact .of_ok hdone hsame₂ fun _ ha => by cases ha
      | _ =>
        have hdone : outcome (runner host steps depth) m w = .error .interrupted w₂ := by
          simp only [outcome, em, hfails]
        exact .of_error hdone hsame₂

/-- A script that is a call. -/
theorem script_call (host : Host σ) (n depth : Nat) (f : Ref) (this : Value) (args : List Value) (w : World σ) :
    let served := serve host (runner host n (depth - 1)) (depth == 0) (.call f this args) w
    (∀ x w₁, served = .ok x w₁ → (runner host (n + 1) depth).script (call f this args : Script Value Value) w
      = (runner host n depth).exec (orThrow x .done .fail) w₁) ∧
    ∀ failure w₁, served = .error failure w₁ →
      (runner host (n + 1) depth).script (call f this args : Script Value Value) w = .error .interrupted w₁ := by
  have hrun : (runner host (n + 1) depth).run (call f this args : Script Value Value).run w
      = run host (n + 1) depth (.ask (.call f this args) fun x => orThrow x .done .fail) w := rfl
  refine ⟨fun x w₁ h => ?_, fun failure w₁ h => ?_⟩ <;> unfold runner at h
  · rw [Runner.script, Runner.exec, hrun, run]
    · rw [h]
      rfl
    · rintro v pause k ⟨⟩
  · rw [Runner.script, Runner.exec, hrun, run]
    · rw [h]
    · rintro v pause k ⟨⟩

/-- **A call builds what its callee builds**, at any depth and with any steps. -/
theorem call_builds {f : Ref} {this : Value} {args : List Value} {Q : Value → Engine → Prop}
    (h : ∀ n, (callObject (runner host n (depth - 1)) host f this args).Builds w Q) :
    ((runner host steps depth).script (call f this args : Script Value Value)).Builds w Q := by
  cases steps with
  | zero => exact .of_error rfl (HeapOnly.steady.refl w)
  | succ n =>
    -- the call may be too deep, and then it throws
    have hserved : (serve host (runner host n (depth - 1)) (depth == 0) (.call f this args)).Builds w
        fun x e => ∀ v, x = .ok v → Q v e := by
      refine outcome_builds ?_
      cases depth == 0 with
      | true =>
        obtain ⟨v, e', hthrow⟩ := throwDeep_raises (ρ := Value) (α := Value) w.engine
        exact script_throws hthrow
      | false => exact h n
    obtain ⟨hgiven, hcutOff⟩ := script_call host n depth f this args w
    rcases e : serve host (runner host n (depth - 1)) (depth == 0) (.call f this args) w
      with ⟨x, w₁⟩ | ⟨failure, w₁⟩
    · have hscript := hgiven x w₁ e
      obtain ⟨hsame, hx⟩ := hserved.ok e
      cases x with
      | error v => rcases n with - | n <;> exact .of_error hscript hsame
      | ok v =>
        rcases n with - | n
        · exact .of_error hscript hsame
        · exact .of_ok hscript hsame (hx v rfl)
    · exact .of_error (hcutOff failure w₁ e) (Act.after_error e ▸ hserved.heapOnly)

end Machine

end ScriptBridge
