import ScriptBridge.Proofs.ClassObjects

/-!
Chains of plain objects that show values.

Where the objects on a chain of prototypes are plain, and the first property `k` on it is a value or there is none,
reading `k` calls nothing, and neither does assigning to it:

    r.set k v   comes to   e.putValue r k v ..      or it is refused

Design.  `Engine.Finds` is enough for reading.  Here every object of the chain was given out by the heap, so the
chain stays what it is when other objects are made (`Engine.Shows.touched`), and it goes on showing values when a
value is put somewhere (`Engine.Shows.putValue`).
-/
namespace ScriptBridge

open Data Text Script Script.Script

variable {σ ρ : Type} {host : Host σ} {steps depth : Nat} {w : World σ} {e e' : Engine} {q r : Ref} {k k' : Key}
  {n : Nat} {o : Option Value}

namespace Script

/-- On a chain of plain objects, fewer than `n`, the first property `k` is this value, or there is none. -/
inductive Engine.Shows (e : Engine) (k : Key) : Nat → Ref → Option Value → Prop where
  | here {n : Nat} {r : Ref} {v : Value} {w en co : Bool} : e.Known r → (e.obj r).kind.isPlain = true →
      (e.obj r).find? k = some (.data v w en co) → Shows e k (n + 1) r (some v)
  | above {n : Nat} {r q : Ref} {o : Option Value} : e.Known r → (e.obj r).kind.isPlain = true →
      (e.obj r).find? k = none → (e.obj r).proto = some q → Shows e k n q o → Shows e k (n + 1) r o
  | nowhere {n : Nat} {r : Ref} : e.Known r → (e.obj r).kind.isPlain = true → (e.obj r).find? k = none →
      (e.obj r).proto = none → Shows e k (n + 1) r none

namespace Engine.Shows

theorem plain (h : e.Shows k n r o) : (e.obj r).kind.isPlain = true := by
  cases h <;> assumption

/-- The object's own property, if it has one, is a value. -/
theorem isValue (h : e.Shows k n r o) (x : Property) (hx : (e.obj r).find? k = some x) : x.isValue = true := by
  cases h with
  | here _ _ hfind => cases hfind.symm.trans hx; rfl
  | above _ _ hfind => cases hfind.symm.trans hx
  | nowhere _ _ hfind => cases hfind.symm.trans hx

theorem own (h : e.Shows k n r o) : e.own r k = ((e.obj r).find? k, e) :=
  own_plain h.plain fun hpending => by cases h.isValue _ hpending

theorem absent (h : e.Shows k n r none) : (e.obj r).find? k = none := by
  cases h <;> assumption

theorem finds (h : e.Shows k n r o) : e.Finds k n r o := by
  induction h with
  | here hr hplain hfind =>
    exact .here (Kind.plainAt_of_isPlain hplain k) (hfind ▸ own (.here (n := 0) hr hplain hfind))
  | above hr hplain hfind hproto hq ih =>
    exact .above (Kind.plainAt_of_isPlain hplain k) (hfind ▸ own (.above hr hplain hfind hproto hq)) hproto ih
  | nowhere hr hplain hfind hproto =>
    exact .nowhere (Kind.plainAt_of_isPlain hplain k) (hfind ▸ own (.nowhere (n := 0) hr hplain hfind hproto)) hproto

/-- New objects do not matter. -/
theorem touched (h : e.Shows k n r o) (ht : Touches [] e e') : e'.Shows k n r o := by
  induction h with
  | here hr hplain hfind =>
    have hsame := ht.others hr List.not_mem_nil
    exact .here (ht.known hr) (hsame ▸ hplain) (hsame ▸ hfind)
  | above hr hplain hfind hproto _ ih =>
    have hsame := ht.others hr List.not_mem_nil
    exact .above (ht.known hr) (hsame ▸ hplain) (hsame ▸ hfind) (hsame ▸ hproto) ih
  | nowhere hr hplain hfind hproto =>
    have hsame := ht.others hr List.not_mem_nil
    exact .nowhere (ht.known hr) (hsame ▸ hplain) (hsame ▸ hfind) (hsame ▸ hproto)

end Engine.Shows

/-- Nothing is called when `k` is read from `r`, or assigned to it. -/
def Engine.Quiet (e : Engine) (k : Key) (r : Ref) : Prop := ∃ n o, n + 1 < chainLimit ∧ e.Shows k n r o

theorem Engine.Quiet.touched (h : e.Quiet k r) (ht : Touches [] e e') : e'.Quiet k r := by
  obtain ⟨n, o, hn, h⟩ := h
  exact ⟨n, o, hn, h.touched ht⟩

/-! ### An assignment -/

section PutValue

variable (e : Engine) (r s : Ref) (k : Key) (v : Value) (wr en co : Bool)

theorem Engine.rest_putValue : ((e.putValue r k v wr en co).obj s).kind = (e.obj s).kind ∧
    ((e.putValue r k v wr en co).obj s).proto = (e.obj s).proto := by
  rcases obj_setObj e r s ((e.obj r).put k (.data v wr en co)) with ⟨rfl, hobj⟩ | hobj <;> rw [putValue, hobj]
  · exact ⟨Obj.kind_put _ _ _, Obj.proto_put _ _ _⟩
  · exact ⟨rfl, rfl⟩

/-- Every property is as it was, or it is the value. -/
theorem Engine.find?_putValue (k' : Key) :
    ((e.putValue r k v wr en co).obj s).find? k' = (e.obj s).find? k' ∨
      ((e.putValue r k v wr en co).obj s).find? k' = some (.data v wr en co) := by
  rcases obj_setObj e r s ((e.obj r).put k (.data v wr en co)) with ⟨rfl, hobj⟩ | hobj
  · rw [putValue, hobj, Obj.find?_put]
    split
    · exact .inr rfl
    · exact .inl rfl
  · rw [putValue, hobj]
    exact .inl rfl

variable {s}

theorem Engine.known_putValue (hs : e.Known s) : (e.putValue r k v wr en co).Known s :=
  fun n hn => Nat.lt_of_lt_of_eq (hs n hn) (setObj_next e r _).symm

variable {e}

/-- A chain goes on showing values when a value is put somewhere. -/
theorem Engine.Shows.putValue (h : e.Shows k' n s o) : ∃ o', (e.putValue r k v wr en co).Shows k' n s o' := by
  induction h with
  | @here n s v' wr' en' co' hs hplain hfind =>
    have hplain' := (congrArg Kind.isPlain (rest_putValue e r s k v wr en co).1).trans hplain
    rcases find?_putValue e r s k v wr en co k' with h | h
    · exact ⟨some v', .here (known_putValue e r k v wr en co hs) hplain' (h.trans hfind)⟩
    · exact ⟨some v, .here (known_putValue e r k v wr en co hs) hplain' h⟩
  | @above n s q o hs hplain hfind hproto _ ih =>
    obtain ⟨o', ih⟩ := ih
    obtain ⟨hkind, hproto'⟩ := rest_putValue e r s k v wr en co
    have hplain' := (congrArg Kind.isPlain hkind).trans hplain
    rcases find?_putValue e r s k v wr en co k' with h | h
    · exact ⟨o', .above (known_putValue e r k v wr en co hs) hplain' (h.trans hfind) (hproto'.trans hproto) ih⟩
    · exact ⟨some v, .here (known_putValue e r k v wr en co hs) hplain' h⟩
  | @nowhere n s hs hplain hfind hproto =>
    obtain ⟨hkind, hproto'⟩ := rest_putValue e r s k v wr en co
    have hplain' := (congrArg Kind.isPlain hkind).trans hplain
    rcases find?_putValue e r s k v wr en co k' with h | h
    · exact ⟨none, .nowhere (known_putValue e r k v wr en co hs) hplain' (h.trans hfind) (hproto'.trans hproto)⟩
    · exact ⟨some v, .here (known_putValue e r k v wr en co hs) hplain' h⟩

end PutValue

/-! ### Assignments -/

/-- What an assignment to `r` comes to at an object of the chain, by its own property, if that is no accessor. -/
def setFrom (m : Nat) (o : Obj) (r : Ref) (k : Key) (v : Value) : Option Property → Script ρ (Option Refusal)
  | some (.data _ wr _ _) => if wr then assignOwn m r k v else pure (some (.readOnly k))
  | _ =>
    match o.proto with
    | some p => Script.set m p k v (.object r)
    | none => assignOwn m r k v

/-- One object of the chain of an assignment. -/
theorem Engine.Shows.comes_set (hq : e.Shows k n q o) {m : Nat} {v : Value} {x : Option Refusal}
    (hrest : Comes (setFrom m (e.obj q) r k v ((e.obj q).find? k) : Script ρ (Option Refusal)) e x e') :
    Comes (Script.set (m + 1) q k v (.object r) : Script ρ (Option Refusal)) e x e' := by
  have hvirtual := virtualOwn_plainAt (ρ := ρ) (Kind.plainAt_of_isPlain hq.plain k)
  have hown : Comes (request (.own q k) : Script ρ (Option Property)) e _ e := (Sees.own hq.own).comes
  rw [Script.set]
  refine .bind (Sees.look q e).comes ?_
  obtain ⟨y, hkind⟩ | hkind | ⟨f, hkind⟩ := Kind.isPlain_cases hq.plain <;> rw [hkind] at hvirtual <;>
    simp only [hkind, hvirtual]
  all_goals
    refine .bind (.pure none e) (.bind hown ?_)
    cases hf : (e.obj q).find? k with
    | none =>
      rw [hf] at hrest
      exact hrest
    | some z =>
      rw [hf] at hrest
      cases z with
      | data => exact hrest
      | _ => cases hq.isValue _ hf

/-- **An assignment along a chain that shows values calls nothing**: it is made to the receiver, or a value on the
chain is for reading only. -/
theorem Engine.Shows.comes_assign (h : e.Shows k n q o) {v : Value} {x : Option Refusal}
    (ha : ∀ m, Comes (assignOwn (m + 1) r k v : Script ρ (Option Refusal)) e x e') {m : Nat} (hm : n < m) :
    Comes (Script.set m q k v (.object r) : Script ρ (Option Refusal)) e x e' ∨
      o.isSome = true ∧
        Comes (Script.set m q k v (.object r) : Script ρ (Option Refusal)) e (some (.readOnly k)) e := by
  induction h generalizing m with
  | @here n q v' wr en co hq hplain hfind =>
    obtain ⟨m, rfl⟩ := Nat.exists_eq_add_of_le' (show 2 ≤ m by omega)
    have hshows : e.Shows k (n + 1) q (some v') := .here hq hplain hfind
    cases wr with
    | true => exact .inl (hshows.comes_set (by rw [hfind]; exact ha m))
    | false => exact .inr ⟨rfl, hshows.comes_set (by rw [hfind]; exact .pure _ e)⟩
  | above hq hplain hfind hproto hup ih =>
    obtain ⟨m, rfl⟩ := Nat.exists_eq_add_of_le' (show 2 ≤ m by omega)
    have hshows := Shows.above hq hplain hfind hproto hup
    obtain h | ⟨hsome, h⟩ := ih (m := m + 1) (by omega)
    · exact .inl (hshows.comes_set (by simpa only [hfind, setFrom, hproto] using h))
    · exact .inr ⟨hsome, hshows.comes_set (by simpa only [hfind, setFrom, hproto] using h)⟩
  | @nowhere n q hq hplain hfind hproto =>
    obtain ⟨m, rfl⟩ := Nat.exists_eq_add_of_le' (show 2 ≤ m by omega)
    have hshows : e.Shows k (n + 1) q none := .nowhere hq hplain hfind hproto
    exact .inl (hshows.comes_set (by simpa only [hfind, setFrom, hproto] using ha m))

/-- An assignment puts a property on an object that has none under the key, and inherits none. -/
theorem comes_set (h : e.Shows k n r none) (hn : n < chainLimit) (hext : (e.obj r).extensible = true) (v : Value) :
    Comes (r.set k v : Script ρ Unit) e () (e.putValue r k v true true true) := by
  have hchange : (e.obj r).change? k (Change.ofProperty (.plain v)) = some (.plain v) := by
    rw [Obj.change?, h.absent]
    simp only [hext, Bool.not_true, Bool.false_and, Bool.false_eq_true, if_false]
    rfl
  have hsettled : (e.obj r).find? k ≠ some .pendingPrototype := fun hpending => by cases h.absent.symm.trans hpending
  have hassign : ∀ m, Comes (assignOwn (m + 1) r k v : Script ρ (Option Refusal)) e none
      (e.putValue r k v true true true) := fun m => by
    have hgetOwn := sees_getOwn (ρ := ρ) (Kind.plainAt_of_isPlain h.plain k) h.own m
    rw [h.absent] at hgetOwn
    rw [assignOwn]
    exact .bind hgetOwn.comes (.bind (comes_defineOwn_ok h.plain hsettled m hchange) (.pure none _))
  have hset := (h.comes_assign hassign hn).resolve_right fun hrefused => Bool.false_ne_true hrefused.1
  exact .bind hset (.pure () _)

end Script

/-- **An assignment that calls nothing** puts the value there, or it throws. -/
theorem Machine.assign_builds (h : w.engine.Quiet k r) (v : Value) :
    ((Machine.runner host steps depth).script (r.set k v)).Builds w
      fun _ e => ∃ wr en co, e = w.engine.putValue r k v wr en co := by
  obtain ⟨n, o, hn, h⟩ := h
  have refused : ∀ {x e'}, Comes (Script.set chainLimit r k v (.object r) : Script Unit (Option Refusal))
      w.engine (some x) e' → ((Machine.runner host steps depth).script (r.set k v)).Builds w
        fun _ e => ∃ wr en co, e = w.engine.putValue r k v wr en co := fun {x e'} hx => by
    obtain ⟨y, e'', hy⟩ := refuse_raises (ρ := Unit) (α := Unit) x e'
    exact script_throws (hx.raises hy)
  obtain ⟨x, e', ha, hassigned⟩ := comes_assignOwn (ρ := Unit) h.plain h.isValue v
  rcases h.comes_assign ha (Nat.lt_of_succ_lt hn) with hset | ⟨-, hset⟩
  · cases x with
    | none =>
      refine (script_builds (hset.bind (.pure () _))).mono ?_
      rintro - e ⟨-, rfl⟩
      exact hassigned rfl
    | some x => exact refused hset
  · exact refused hset

end ScriptBridge
