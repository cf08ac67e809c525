import ScriptBridge.Proofs.Chains

/-!
Defining and assigning properties of plain objects.

A plain object is of the host's side, or one without anything special inside.  What defining a property of it
comes to is one equation:

    e.define r k c  =  (true, e.setObj r (o.put k p))    if  o.change? k c = some p,    where  o = e.obj r
                    =  (false, e)                        if  o.change? k c = none

and a script that defines one comes to that heap, or it throws.
-/
namespace ScriptBridge.Script

open Data Text Script

variable {ρ : Type}

/-- An object of this kind has nothing but its own properties. -/
def Kind.isPlain : Kind → Bool
  | .host _ | .script .ordinary | .script (.native _) => true
  | _ => false

/-- A property that is read and written without calling anything. -/
def Property.isValue : Property → Bool
  | .data .. => true
  | _ => false

theorem Kind.isPlain_cases {kind : Kind} (h : kind.isPlain = true) :
    (∃ d, kind = .host d) ∨ kind = .script .ordinary ∨ ∃ f, kind = .script (.native f) := by
  unfold Kind.isPlain at h
  split at h
  · exact .inl ⟨_, rfl⟩
  · exact .inr (.inl rfl)
  · exact .inr (.inr ⟨_, rfl⟩)
  · cases h

theorem Kind.plainAt_of_isPlain {kind : Kind} (h : kind.isPlain = true) (k : Key) :
    kind.plainAt k = true := by
  obtain ⟨d, rfl⟩ | rfl | ⟨f, rfl⟩ := isPlain_cases h <;> rfl

/-- The property that a change makes of what is there, if it is admitted. -/
def Obj.change? (o : Obj) (k : Key) (c : Change) : Option Property :=
  match o.find? k with
  | some p => if c.admits p then some (c.applyTo p) else none
  | none => if !o.extensible && !k.isSecret then none else some c.toProperty

/-- What is described in full is there afterwards just so. -/
theorem Obj.change?_data {o : Obj} {k : Key} {v : Value} {w en co : Bool} {p : Property}
    (h : o.change? k (Change.ofProperty (.data v w en co)) = some p) : p = .data v w en co := by
  unfold Obj.change? at h
  split at h
  · rename_i q _
    split at h
    · cases h
      cases q <;> rfl
    · cases h
  · split at h
    · cases h
    · cases h
      rfl

namespace Engine

variable {e : Engine} {r : Ref} {k : Key} {c : Change}

section Plain

variable (hplain : (e.obj r).kind.isPlain = true)

include hplain

theorem own_plain (hk : (e.obj r).find? k ≠ some .pendingPrototype) :
    e.own r k = ((e.obj r).find? k, e) := by
  have hshared : sharedCell (e.obj r) k = none := by
    obtain ⟨d, hkind⟩ | hkind | ⟨f, hkind⟩ := Kind.isPlain_cases hplain <;> simp [sharedCell, hkind]
  rcases hf : (e.obj r).find? k with - | p
  · rw [own, hf]
  · cases p with
    | pendingPrototype => exact absurd hf hk
    | data v w en co => simp [own, hf, withShared, hshared]
    | accessor g s en co => simp [own, hf, withShared, hshared]

theorem update_plain (p : Property) : e.update r (e.obj r) k p = e.setObj r ((e.obj r).put k p) := by
  have hshared : sharedCell (e.obj r) k = none ∧ unshare (e.obj r) k = e.obj r := by
    obtain ⟨d, hkind⟩ | hkind | ⟨f, hkind⟩ := Kind.isPlain_cases hplain <;>
      simp [sharedCell, unshare, hkind]
  simp only [update, hshared.1, hshared.2]

theorem define_plain (hk : (e.obj r).find? k ≠ some .pendingPrototype) :
    e.define r k c = match (e.obj r).change? k c with
      | some p => (true, e.setObj r ((e.obj r).put k p))
      | none => (false, e) := by
  have harray : isArrayKind (e.obj r).kind = false := by
    obtain ⟨d, hkind⟩ | hkind | ⟨f, hkind⟩ := Kind.isPlain_cases hplain <;> simp [isArrayKind, hkind]
  rw [define, own_plain hplain hk, Obj.change?]
  cases (e.obj r).find? k with
  | some p =>
    simp only [harray, Bool.false_and, Bool.false_eq_true, if_false, update_plain hplain]
    cases c.admits p <;> rfl
  | none =>
    simp only [harray]
    cases !(e.obj r).extensible && !k.isSecret <;> rfl

end Plain

end Engine

/-! ### Scripts that define -/

variable {e : Engine} {r : Ref} {k : Key} {c : Change}

theorem refuse_raises {α : Type} (x : Refusal) (e : Engine) :
    ∃ v e', Raises (refuse x : Script ρ α) e v e' := by
  let q : Request := .make (some (.builtin (.object (.errorPrototype .typeError)))) .error
    [(Key.ofString "message", .hidden (.spelled (Units.bounded messageLimit x.message))),
      (Key.ofString "stack", .hidden (.spelled []))]
  exact ⟨.object (e.answer q).1, (e.answer q).2,
    Comes.raises (.request (q := q) rfl) fun _ err => .refl (err _) _⟩

section Define

variable (hplain : (e.obj r).kind.isPlain = true) (hk : (e.obj r).find? k ≠ some .pendingPrototype)

include hplain hk

/-- Defining a property comes to what the engine answers. -/
theorem comes_defineOwn_ok (n : Nat) {p : Property} (hp : (e.obj r).change? k c = some p) :
    Comes (defineOwn (n + 1) r k c : Script ρ (Option Refusal)) e none (e.setObj r ((e.obj r).put k p)) := by
  have hdefine := Engine.define_plain (c := c) hplain hk
  rw [hp] at hdefine
  have hvirtual := virtualOwn_plainAt (ρ := ρ) (Kind.plainAt_of_isPlain hplain k)
  have hown : Comes (request (.own r k) : Script ρ (Option Property)) e ((e.obj r).find? k) e :=
    (Sees.own (Engine.own_plain hplain hk)).comes
  have hanswer : Comes (request (.define r k c) : Script ρ Bool) e true (e.setObj r ((e.obj r).put k p)) := by
    have hrequest := Comes.request (ρ := ρ) (e := e) (q := .define r k c) rfl
    rw [show e.answer (.define r k c) = _ from hdefine] at hrequest
    exact hrequest
  rw [defineOwn]
  refine .bind (Sees.look r e).comes ?_
  obtain ⟨d, hkind⟩ | hkind | ⟨f, hkind⟩ := Kind.isPlain_cases hplain <;> rw [hkind] at hvirtual <;>
    simp only [hkind, hvirtual, Bool.and_false]
  all_goals exact .bind (.pure none e) (.bind (.pure c e) (.bind hown (.bind hanswer (.pure none _))))

/-- What the engine does not admit is refused. -/
theorem comes_defineOwn_refused (hp : (e.obj r).change? k c = none) :
    ∃ x e', ∀ n, Comes (defineOwn (n + 1) r k c : Script ρ (Option Refusal)) e (some x) e' := by
  have hdefine := Engine.define_plain (c := c) hplain hk
  rw [hp] at hdefine
  have hvirtual := virtualOwn_plainAt (ρ := ρ) (Kind.plainAt_of_isPlain hplain k)
  have hown : Comes (request (.own r k) : Script ρ (Option Property)) e ((e.obj r).find? k) e :=
    (Sees.own (Engine.own_plain hplain hk)).comes
  have hanswer : Comes (request (.define r k c) : Script ρ Bool) e false e := by
    have hrequest := Comes.request (ρ := ρ) (e := e) (q := .define r k c) rfl
    rw [show e.answer (.define r k c) = _ from hdefine] at hrequest
    exact hrequest
  have hlength : Comes (request (.own r lengthKey) : Script ρ (Option Property)) e _ _ := .request rfl
  cases hfind : (e.obj r).find? k with
  | some p =>
    rw [hfind] at hown
    refine ⟨if false && c.admits p then .lastingElement else .notConfigurable, e, fun n => ?_⟩
    rw [defineOwn]
    refine .bind (Sees.look r e).comes ?_
    obtain ⟨d, hkind⟩ | hkind | ⟨f, hkind⟩ := Kind.isPlain_cases hplain <;> rw [hkind] at hvirtual <;>
      simp only [hkind, hvirtual, Bool.and_false]
    all_goals exact .bind (.pure none e) (.bind (.pure c e) (.bind hown (.bind hanswer (.pure _ e))))
  | none =>
    rw [hfind] at hown
    refine ⟨.notExtensible, (e.answer (.own r lengthKey)).2, fun n => ?_⟩
    rw [defineOwn]
    refine .bind (Sees.look r e).comes ?_
    obtain ⟨d, hkind⟩ | hkind | ⟨f, hkind⟩ := Kind.isPlain_cases hplain <;> rw [hkind] at hvirtual <;>
      simp only [hkind, hvirtual, Bool.and_false]
    all_goals
      exact .bind (.pure none e) (.bind (.pure c e) (.bind hown (.bind hanswer (.bind hlength (.pure _ _)))))

end Define

/-- What defining a value again makes of a property with a value. -/
theorem Obj.change?_value {o : Obj} {v v' : Value} {wr en co : Bool} {p : Property}
    (hf : o.find? k = some (.data v' wr en co)) (h : o.change? k { value := some v } = some p) :
    p = .data v wr en co := by
  rw [Obj.change?, hf] at h
  simp only at h
  split at h <;> cases h
  rfl

/-- The heap with a value under a key of an object. -/
def Engine.putValue (e : Engine) (r : Ref) (k : Key) (v : Value) (wr en co : Bool) : Engine :=
  e.setObj r ((e.obj r).put k (.data v wr en co))

/-- An assignment has put the value there, or it was refused. -/
def Assigned (e : Engine) (r : Ref) (k : Key) (v : Value) (x : Option Refusal) (e' : Engine) : Prop :=
  x = none → ∃ wr en co, e' = e.putValue r k v wr en co

/-- Nothing is called by an assignment to an object that shows a value under the key, or nothing. -/
theorem comes_assignOwn (hplain : (e.obj r).kind.isPlain = true)
    (hshown : ∀ q, (e.obj r).find? k = some q → q.isValue = true) (v : Value) :
    ∃ x e', (∀ n, Comes (assignOwn (n + 1) r k v : Script ρ (Option Refusal)) e x e') ∧ Assigned e r k v x e' := by
  have hk : (e.obj r).find? k ≠ some .pendingPrototype := fun hpending => by cases hshown _ hpending
  have hown := fun n =>
    (sees_getOwn (ρ := ρ) (Kind.plainAt_of_isPlain hplain k) (Engine.own_plain hplain hk) n).comes
  unfold assignOwn
  cases hf : (e.obj r).find? k with
  | none =>
    rw [hf] at hown
    cases hp : (e.obj r).change? k (Change.ofProperty (.plain v)) with
    | some p =>
      obtain rfl := Obj.change?_data hp
      refine ⟨none, e.putValue r k v true true true, fun n => ?_, fun _ => ⟨true, true, true, rfl⟩⟩
      exact .bind (hown n) (.bind (comes_defineOwn_ok hplain hk n hp) (.pure none _))
    | none =>
      obtain ⟨x, e', hx⟩ := comes_defineOwn_refused (ρ := ρ) hplain hk hp
      by_cases hr : ∃ k', x = .readOnly k'
      · obtain ⟨k', rfl⟩ := hr
        exact ⟨_, e', fun n => .bind (hown n) (.bind (hx n) (.bind (Sees.look r e').comes (.pure _ e'))), nofun⟩
      · refine ⟨some x, e', fun n => .bind (hown n) (.bind (hx n) ?_), nofun⟩
        split
        · rename_i k' heq
          exact absurd ⟨k', Option.some.inj heq⟩ hr
        · exact .pure (some x) e'
  | some q =>
    rw [hf] at hown
    obtain ⟨v', wr, en, co, rfl⟩ : ∃ v' wr en co, q = .data v' wr en co := by
      have hvalue := hshown q hf
      cases q <;> first | exact ⟨_, _, _, _, rfl⟩ | cases hvalue
    cases wr with
    | false => exact ⟨some (.readOnly k), e, fun n => .bind (hown n) (.pure _ e), nofun⟩
    | true =>
      cases hp : (e.obj r).change? k { value := some v } with
      | some p =>
        obtain rfl := Obj.change?_value hf hp
        refine ⟨none, e.putValue r k v true en co, fun n => ?_, fun _ => ⟨true, en, co, rfl⟩⟩
        exact .bind (hown n) (comes_defineOwn_ok hplain hk n hp)
      | none =>
        obtain ⟨x, e', hx⟩ := comes_defineOwn_refused (ρ := ρ) hplain hk hp
        exact ⟨some x, e', fun n => .bind (hown n) (hx n), nofun⟩

end ScriptBridge.Script
