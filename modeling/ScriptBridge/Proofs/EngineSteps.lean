import ScriptBridge.Proofs.Running

/-!
Stretches of a script that the engine answers alone.

Between two calls a script only looks at objects and changes them, and what it comes to depends on the
heap and on nothing else:

    p.Leads e e' p'   →   run steps p w  =  run n p' { w with engine := e' }    for some  n ≤ steps

unless the steps do not suffice (`Machine.run_leads`); and however far such a stretch gets, nothing but the heap
has changed.  A piece that only looks changes nothing at all (`Runner.Obeys.script_sees`).

Design.  A piece is written in terms of what comes after it, so `Script.Comes`, `Script.Raises` and
`Script.Sees` are said of every continuation, and pieces are put together by transitivity.
-/
namespace ScriptBridge

open Data Text Script Script.Script

namespace Script

/-- The engine answers such a request alone. -/
def Request.isPlain : Request → Bool
  | .call .. | .construct .. | .suspend .. | .resume .. | .rejection .. | .resolveName ..
  | .loadSource .. => false
  | _ => true

/-- From a program in one heap to a program in another, by requests that the engine answers alone. -/
inductive Prog.Leads {ρ : Type} : Prog ρ → Engine → Engine → Prog ρ → Prop where
  | refl (p : Prog ρ) (e : Engine) : Leads p e e p
  | ask {q : Request} {k : q.Answer → Prog ρ} {e e' : Engine} {p' : Prog ρ} : q.isPlain = true →
      Leads (k (e.answer q).1) (e.answer q).2 e' p' → Leads (.ask q k) e e' p'

variable {ρ α β : Type} {e e' e'' : Engine}

theorem Prog.Leads.trans {p p' p'' : Prog ρ} (h : p.Leads e e' p') (h' : p'.Leads e' e'' p'') :
    p.Leads e e'' p'' := by
  induction h with
  | refl => exact h'
  | ask hq _ ih => exact .ask hq (ih h')

/-- From a program to another by looking at objects, none of which changes when it is looked at. -/
inductive Prog.Looks {ρ : Type} (e : Engine) : Prog ρ → Prog ρ → Prop where
  | refl (p : Prog ρ) : Looks e p p
  | look {r : Ref} {k : Shape → Prog ρ} {p' : Prog ρ} :
      Looks e (k (e.answer (.look r)).1) p' → Looks e (.ask (.look r) k) p'
  | own {r : Ref} {key : Key} {k : Option Property → Prog ρ} {o : Option Property} {p' : Prog ρ} :
      e.own r key = (o, e) → Looks e (k o) p' → Looks e (.ask (.own r key) k) p'

namespace Prog.Looks

variable {p p' p'' : Prog ρ}

theorem trans (h : p.Looks e p') (h' : p'.Looks e p'') : p.Looks e p'' := by
  induction h with
  | refl => exact h'
  | look _ ih => exact .look (ih h')
  | own hown _ ih => exact .own hown (ih h')

theorem leads (h : p.Looks e p') : p.Leads e e p' := by
  induction h with
  | refl p => exact .refl p e
  | look _ ih => exact .ask rfl ih
  | @own r key k o p' hown _ ih =>
    refine .ask rfl ?_
    show Prog.Leads (k (e.own r key).1) (e.own r key).2 e p'
    rw [hown]
    exact ih

theorem reads {a : ρ} (h : p.Looks e p') (ha : p'.Reads e a) : p.Reads e a := by
  induction h with
  | refl => exact ha
  | look _ ih => exact .look (ih ha)
  | own hown _ ih =>
    have hsame := ih ha
    exact .own (by rw [hown]) (by rw [hown]; exact hsame)

end Prog.Looks

/-- The piece comes to this result, whatever comes after it. -/
def Comes (m : Script ρ α) (e : Engine) (a : α) (e' : Engine) : Prop :=
  ∀ k err, (m k err).Leads e e' (k a)

/-- The piece throws this value, whatever comes after it. -/
def Raises (m : Script ρ α) (e : Engine) (v : Value) (e' : Engine) : Prop :=
  ∀ k err, (m k err).Leads e e' (err v)

namespace Comes

theorem pure (a : α) (e : Engine) : Comes (Pure.pure a : Script ρ α) e a e :=
  fun k _ => .refl (k a) e

theorem bind {m : Script ρ α} {f : α → Script ρ β} {a : α} {b : β} (hm : Comes m e a e')
    (hf : Comes (f a) e' b e'') : Comes (m >>= f) e b e'' :=
  fun k err => (hm (fun a => f a k err) err).trans (hf k err)

theorem raises {m : Script ρ α} {f : α → Script ρ β} {a : α} {v : Value} (hm : Comes m e a e')
    (hf : Raises (f a) e' v e'') : Raises (m >>= f) e v e'' :=
  fun k err => (hm (fun a => f a k err) err).trans (hf k err)

theorem request {q : Request} (hq : q.isPlain = true) :
    Comes (Script.request q : Script ρ q.Answer) e (e.answer q).1 (e.answer q).2 :=
  fun k _ => .ask hq (.refl (k _) _)

theorem run {m : Script ρ ρ} {a : ρ} (h : Comes m e a e') : m.run.Leads e e' (.done a) := h .done .fail

end Comes

/-- The piece looks, and this is what it sees. -/
def Sees (m : Script ρ α) (e : Engine) (a : α) : Prop := ∀ k err, (m k err).Looks e (k a)

namespace Sees

theorem pure (a : α) (e : Engine) : Sees (Pure.pure a : Script ρ α) e a := fun k _ => .refl (k a)

theorem bind {m : Script ρ α} {f : α → Script ρ β} {a : α} {b : β} (hm : Sees m e a)
    (hf : Sees (f a) e b) : Sees (m >>= f) e b :=
  fun k err => (hm (fun a => f a k err) err).trans (hf k err)

theorem look (r : Ref) (e : Engine) :
    Sees (Script.look r : Script ρ Shape) e ⟨(e.obj r).proto, (e.obj r).extensible, (e.obj r).kind⟩ :=
  fun k _ => .look (.refl (k _))

theorem own {r : Ref} {key : Key} {o : Option Property} (h : e.own r key = (o, e)) :
    Sees (request (.own r key) : Script ρ (Option Property)) e o :=
  fun k _ => .own h (.refl (k o))

theorem attempt {m : Script ρ α} {a : α} (hm : Sees m e a) : Sees (Script.attempt m) e (.ok a) :=
  fun k _ => hm (fun a => k (.ok a)) fun v => k (.error v)

theorem comes {m : Script ρ α} {a : α} (hm : Sees m e a) : Comes m e a e := fun k err => (hm k err).leads

theorem reads {m : Script ρ ρ} {a : ρ} (hm : Sees m e a) : m.run.Reads e a :=
  (hm .done .fail).reads (.done a)

end Sees

theorem Raises.bind {m : Script ρ α} (f : α → Script ρ β) {v : Value} (hm : Raises m e v e') :
    Raises (m >>= f) e v e' :=
  fun k err => hm (fun a => f a k err) err

theorem Raises.run {m : Script ρ ρ} {v : Value} (h : Raises m e v e') : m.run.Leads e e' (.fail v) :=
  h .done .fail

end Script

/-! ### Runs -/

variable {σ ρ α : Type} {host : Host σ} {w w' : World σ}

/-- One request that the engine answers alone. -/
theorem Machine.run_plain (host : Host σ) (n depth : Nat) {q : Request} (hq : q.isPlain = true)
    (k : q.Answer → Prog ρ) (w : World σ) :
    Machine.run host (n + 1) depth (.ask q k) w
      = Machine.run host n depth (k (w.engine.answer q).1) { w with engine := (w.engine.answer q).2 } := by
  cases q <;> first | rfl | cases hq

/-- **A run goes where its program leads**, unless the steps do not suffice; only the heap changes on the way. -/
theorem Machine.run_leads (host : Host σ) (depth : Nat) {p p' : Prog ρ} {e e' : Engine}
    (h : p.Leads e e' p') (steps : Nat) (w : World σ) (he : w.engine = e) :
    (∃ e₁, Machine.run host steps depth p w = (.interrupted, { w with engine := e₁ })) ∨ ∃ n ≤ steps,
      Machine.run host steps depth p w = Machine.run host n depth p' { w with engine := e' } := by
  induction h generalizing steps w with
  | refl p e => exact .inr ⟨steps, Nat.le_refl _, by rw [← he]⟩
  | @ask q k e e' p' hq _ ih =>
    subst he
    cases steps with
    | zero => exact .inl ⟨w.engine, rfl⟩
    | succ n =>
      rw [Machine.run_plain host n depth hq]
      obtain ⟨e₁, hstopped⟩ | ⟨m, hm, hrun⟩ := ih n { w with engine := (w.engine.answer q).2 } rfl
      · exact .inl ⟨e₁, hstopped⟩
      · exact .inr ⟨m, Nat.le_succ_of_le hm, hrun⟩

/-- A piece goes where it leads. -/
theorem Machine.script_leads {steps depth : Nat} {m : Script ρ ρ} {p' : Prog ρ} {e' : Engine}
    (hm : m.run.Leads w.engine e' p') :
    (∃ e₁, (Machine.runner host steps depth).script m w = .error .interrupted { w with engine := e₁ }) ∨
      ∃ n, (Machine.runner host steps depth).script m w
        = (Machine.runner host n depth).exec p' { w with engine := e' } := by
  obtain ⟨e₁, hrun⟩ | ⟨n, -, hrun⟩ := Machine.run_leads host depth hm steps w rfl
  · have hstopped : (Machine.runner host steps depth).run m.run w = (.interrupted, { w with engine := e₁ }) := hrun
    exact .inl ⟨e₁, by rw [Runner.script, Runner.exec, hstopped]⟩
  · have hleads : (Machine.runner host steps depth).run m.run w
        = (Machine.runner host n depth).run p' { w with engine := e' } := hrun
    exact .inr ⟨n, by rw [Runner.script, Runner.exec, Runner.exec, hleads]⟩

/-- A piece that looks comes to what it sees. -/
theorem Runner.Obeys.script_sees {R : World σ → World σ → Prop} {run : Runner σ} (hr : run.Obeys R)
    {m : Script ρ ρ} {a : ρ} (hm : Sees m w.engine a) :
    run.script m w = .error .interrupted w ∨ run.script m w = .ok a w :=
  hr.script_reads hm.reads

end ScriptBridge
