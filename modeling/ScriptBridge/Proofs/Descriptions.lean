import ScriptBridge.Proofs.PlainChains

/-!
Accessors that are defined by a description.

A description is a new object with the sides of an accessor; the built-in `Object.defineProperty` reads it and
defines what it says:

    describe d ⟨get, set⟩  →  defineProperty target name d  →  target has  .accessor get set false true  under name

unless what stands there cannot be changed, and then it throws.  Design.  A description inherits from the prototype
of all objects, so what is read of it depends on that prototype too; `Engine.Silent` says of a prototype that it
adds nothing.
-/
namespace ScriptBridge.Script

open Data Text Script Builtins

variable {ρ α : Type} {e e' : Engine} {d q r : Ref} {k : Key} {n : Nat}

/-- The object is at the end of its chain, and shows nothing under the key. -/
structure Engine.Silent (e : Engine) (q : Ref) (k : Key) : Prop where
  plain : (e.obj q).kind.isPlain = true
  top : (e.obj q).proto = none
  absent : (e.obj q).find? k = none

/-! ### Reading a description -/

/-- An object as a description is: ordinary, and below that prototype. -/
structure Engine.Below (e : Engine) (d q : Ref) : Prop where
  kind : (e.obj d).kind = .script .ordinary
  proto : (e.obj d).proto = some q

namespace Engine.Below

theorem plainAt (h : e.Below d q) (k : Key) : (e.obj d).kind.plainAt k = true := by
  rw [h.kind]
  rfl

theorem own (h : e.Below d q) (hk : (e.obj d).find? k ≠ some .pendingPrototype) :
    e.own d k = ((e.obj d).find? k, e) :=
  own_plain (by rw [h.kind]; rfl) hk

theorem finds (h : e.Below d q) {v : Value} {w en co : Bool} (hk : (e.obj d).find? k = some (.data v w en co)) :
    e.Finds k 1 d (some v) :=
  .here (h.plainAt k) ((h.own (by rw [hk]; nofun)).trans (by rw [hk]))

theorem finds_none (h : e.Below d q) (hk : (e.obj d).find? k = none) (hq : e.Silent q k) : e.Finds k 2 d none := by
  refine .above (h.plainAt k) ((h.own (by rw [hk]; nofun)).trans (by rw [hk])) h.proto ?_
  have hown := own_plain hq.plain (k := k) (by rw [hq.absent]; nofun)
  exact .nowhere (Kind.plainAt_of_isPlain hq.plain k) (hown.trans (by rw [hq.absent])) hq.top

end Engine.Below

/-- A field of a description, when there is one. -/
theorem sees_field {o : Option Value} {m : Nat} (h : e.Finds k n d o) (hm : n < m) :
    Sees (do if ← has m d k then return some (← get m d k (.object d)) else return none :
      Script ρ (Option Value)) e o := by
  refine .bind (sees_has h hm) ?_
  cases o with
  | none => exact .pure none e
  | some v => exact .bind (sees_get h (Nat.le_of_lt hm) _) (.pure _ e)

/-- A side of a description, when there is one. -/
theorem sees_side {f : Option Ref} {m : Nat} (what : String) (h : e.Finds k n d (f.map .object)) (hm : n < m)
    (hcallable : ∀ r, f = some r → (e.obj r).kind.callable = true) :
    Sees (do
      if !(← has m d k) then return none
      let v ← try get m d k (.object d) catch _ => pure .null
      if v.isUndefined then return some none
      if ← isCallable v then return some v.object?
      throwType (what ++ " must be a function") : Script ρ (Option (Option Ref))) e (f.map some) := by
  refine .bind (sees_has h hm) ?_
  cases f with
  | none => exact .pure none e
  | some r =>
    have hget : Sees (try get m d k (.object d) catch _ => pure .null : Script ρ Value) e (.object r) :=
      fun k' _ => sees_get h (Nat.le_of_lt hm) _ k' _
    have hcalls : Sees (isCallable (.object r) : Script ρ Bool) e true :=
      .bind (.look r e) (by rw [hcallable r rfl]; exact .pure true e)
    exact .bind hget (.bind hcalls (.pure _ e))

/-- What is read of a description that has accessors alone. -/
theorem sees_readChange (h : e.Below d q)
    (hq : ∀ name ∈ ["enumerable", "configurable", "value", "writable", "get", "set"],
      e.Silent q (Key.ofString name)) {g s : Option Ref} {co : Value}
    (hg : (e.obj d).find? (Key.ofString "get") = g.map fun f => .plain (.object f))
    (hs : (e.obj d).find? (Key.ofString "set") = s.map fun f => .plain (.object f))
    (hco : (e.obj d).find? (Key.ofString "configurable") = some (.plain co))
    (hother : ∀ name ∈ ["enumerable", "value", "writable"], (e.obj d).find? (Key.ofString name) = none)
    (hcallable : ∀ f, g = some f ∨ s = some f → (e.obj f).kind.callable = true) (n : Nat) :
    Sees (readChange (n + 4) d : Script ρ Change) e
      { get := g.map some, set := s.map some, configurable := some co.truthy } := by
  have absent : ∀ name ∈ ["enumerable", "value", "writable"], e.Finds (Key.ofString name) 2 d none := fun name hname =>
    h.finds_none (hother name hname) (hq name (by fin_cases hname <;> simp))
  have side : ∀ name ∈ ["get", "set"], ∀ f : Option Ref,
      (e.obj d).find? (Key.ofString name) = f.map (fun f => .plain (.object f)) →
        ∃ m < 3, e.Finds (Key.ofString name) m d (f.map .object) := by
    intro name hname f hf
    cases f with
    | none => exact ⟨2, by omega, h.finds_none hf (hq name (by fin_cases hname <;> simp))⟩
    | some f => exact ⟨1, by omega, h.finds hf⟩
  obtain ⟨mg, hmg, hget⟩ := side "get" (by simp) g hg
  obtain ⟨ms, hms, hset⟩ := side "set" (by simp) s hs
  rw [readChange]
  refine .bind (sees_field (absent "enumerable" (by simp)) (by omega)) ?_
  refine .bind (sees_field (h.finds hco) (by omega)) ?_
  refine .bind (sees_field (absent "value" (by simp)) (by omega)) ?_
  refine .bind (sees_field (absent "writable" (by simp)) (by omega)) ?_
  refine .bind (sees_side "Getter" hget (by omega) fun f hf => hcallable f (.inl hf)) ?_
  refine .bind (sees_side "Setter" hset (by omega) fun f hf => hcallable f (.inr hf)) ?_
  simp only [Option.isSome_none, Bool.or_false, Bool.and_false, Bool.false_eq_true, if_false]
  exact .pure _ e

/-! ### Defining by a description -/

section Define

variable {t : Ref} {c : Change} (hplain : (e.obj t).kind.isPlain = true) (name : String)
  (hsettled : (e.obj t).find? (Key.ofString name) ≠ some .pendingPrototype)
  (hread : Sees (d.readChange : Script Value Change) e c) (hvalue : c.value = none) (this : Value)

include hplain hsettled hread hvalue

theorem comes_defineProperty {p : Property} (hp : (e.obj t).change? (Key.ofString name) c = some p) :
    Comes (objectCall .defineProperty this [.object t, .text name, .object d] none : Script Value Value) e (.object t)
      (e.setObj t ((e.obj t).put (Key.ofString name) p)) := by
  have hchange : Sees (changeOf t (Key.ofString name) (.object d) : Script Value Change) e c := by
    refine .bind hread ?_
    simp only [hvalue]
    exact .pure c e
  rw [objectCall]
  refine .bind (.pure t e) (.bind (.pure (Key.ofString name) e) (.bind hchange.comes ?_))
  exact .bind (comes_defineOwn_ok hplain hsettled 9999 hp) (.bind (.pure () _) (.pure _ _))

/-- What the target does not admit is thrown. -/
theorem raises_defineProperty (hp : (e.obj t).change? (Key.ofString name) c = none) : ∃ v e',
    Raises (objectCall .defineProperty this [.object t, .text name, .object d] none : Script Value Value) e v e' := by
  have hchange : Sees (changeOf t (Key.ofString name) (.object d) : Script Value Change) e c := by
    refine .bind hread ?_
    simp only [hvalue]
    exact .pure c e
  obtain ⟨x, e₁, hx⟩ := comes_defineOwn_refused (ρ := Value) hplain hsettled hp
  obtain ⟨v, e₂, hv⟩ := refuse_raises (ρ := Value) (α := Unit) x e₁
  refine ⟨v, e₂, ?_⟩
  rw [objectCall]
  exact (Comes.pure t e).raises ((Comes.pure (Key.ofString name) e).raises (hchange.comes.raises
    ((hx 9999).raises (hv.bind _))))

end Define

end ScriptBridge.Script

namespace ScriptBridge

open Data Text Script Script.Script Builtins

variable {σ : Type} {host : Host σ} {steps depth : Nat} {w : World σ}

/-- **A call of the built-in `Object.defineProperty`** defines what the description says, or gives no result. -/
theorem Machine.defineProperty_builds {define t d : Ref} {name : String} {c : Change}
    (hnative : (w.engine.obj define).kind = .script (.native (.object .defineProperty)))
    (hplain : (w.engine.obj t).kind.isPlain = true)
    (hsettled : (w.engine.obj t).find? (Key.ofString name) ≠ some .pendingPrototype)
    (hread : Sees (d.readChange : Script Value Change) w.engine c) (hvalue : c.value = none) :
    ((Machine.runner host steps depth).script
      (call define .undefined [.object t, .text name, .object d] : Script Value Value)).Builds w fun _ e =>
        ∃ p, (w.engine.obj t).change? (Key.ofString name) c = some p ∧
          e = w.engine.setObj t ((w.engine.obj t).put (Key.ofString name) p) := by
  refine Machine.call_builds fun n => ?_
  have hcalled : Machine.callObject (Machine.runner host n (depth - 1)) host define .undefined
      [.object t, .text name, .object d] w = (Machine.runner host n (depth - 1)).script
        (objectCall .defineProperty .undefined [.object t, .text name, .object d] none : Script Value Value) w := by
    rw [Machine.callObject_script _ host _ hnative]
    rfl
  refine .of_eq hcalled ?_
  rcases hchange : (w.engine.obj t).change? (Key.ofString name) c with - | p
  · obtain ⟨x, e, hx⟩ := raises_defineProperty hplain name hsettled hread hvalue .undefined hchange
    exact Machine.script_throws hx
  · refine (Machine.script_builds (comes_defineProperty hplain name hsettled hread hvalue .undefined hchange)).mono ?_
    rintro - e ⟨-, rfl⟩
    exact ⟨p, rfl, rfl⟩

end ScriptBridge
