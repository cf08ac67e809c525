import ScriptBridge.Proofs.Carriers
import ScriptBridge.Proofs.EngineSteps

/-!
Reading along a chain of prototypes.

    e.Finds k n r (some v)    the first object on the chain of `r` that has a property `k` shows `v` in it
    e.Finds k n r none        no object on the chain has one

Where the chain is one of objects that answer for themselves and the property is one with a value, reading it
runs no script and changes nothing, and it comes to `v`, or to nothing.  `n` bounds the length of the
chain.

Classification reads two properties in this way, so what it comes to is known from the chain alone
(`slotOf`).
-/
namespace ScriptBridge.Script

open Data Text Script

variable {ρ : Type}

/-- An object of this kind answers for the key by its own properties. -/
def Kind.plainAt (kind : Kind) (k : Key) : Bool :=
  match kind, k with
  | .script (.proxy _), _ | .script (.namespace _), _ | .script (.primitive _), .index _ => false
  | _, _ => true

theorem virtualOwn_plainAt {kind : Kind} {k : Key} (h : kind.plainAt k = true) :
    (virtualOwn kind k : Script ρ (Option Property)) = pure none := by
  unfold Kind.plainAt at h
  unfold virtualOwn
  split at h
  · cases h
  · cases h
  · cases h
  · rename_i hproxy hnamespace hprimitive
    split
    · exact absurd rfl (hprimitive _ _ rfl)
    · exact absurd rfl (hnamespace _)
    · rfl

/-- Reading `k` from the object comes to this value, or to nothing, on a chain of fewer than `n`
objects. -/
inductive Engine.Finds (e : Engine) (k : Key) : Nat → Ref → Option Value → Prop where
  | here {n : Nat} {r : Ref} {v : Value} {w en co : Bool} : (e.obj r).kind.plainAt k = true →
      e.own r k = (some (.data v w en co), e) → Finds e k (n + 1) r (some v)
  | above {n : Nat} {r q : Ref} {o : Option Value} : (e.obj r).kind.plainAt k = true →
      e.own r k = (none, e) → (e.obj r).proto = some q → Finds e k n q o → Finds e k (n + 1) r o
  | nowhere {n : Nat} {r : Ref} : (e.obj r).kind.plainAt k = true → e.own r k = (none, e) →
      (e.obj r).proto = none → Finds e k (n + 1) r none

variable {e : Engine} {k : Key} {n : Nat} {r : Ref} {o : Option Value}

/-- An object that answers for itself is no proxy. -/
theorem ne_proxy {kind : Kind} (h : kind.plainAt k = true) (p : ProxyData) : kind ≠ .script (.proxy p) := by
  rintro rfl
  cases h

/-- What a piece does with an object that is no proxy. -/
theorem sees_unlessProxy {α : Type} {kind : Kind} {a : α} (hproxy : ∀ p, kind ≠ .script (.proxy p))
    {A : ProxyData → Script ρ α} {B : Kind → Script ρ α} (h : ∀ kind', kind' = kind → Sees (B kind') e a) :
    Sees (match kind with
      | .script (.proxy p) => A p
      | kind => B kind) e a := by
  split
  · exact (hproxy _ rfl).elim
  · exact h _ rfl

section Own

variable {p : Option Property} (hplain : (e.obj r).kind.plainAt k = true) (hown : e.own r k = (p, e))

include hplain hown

theorem sees_getOwn (n : Nat) : Sees (getOwn (n + 1) r k : Script ρ (Option Property)) e p := by
  rw [getOwn]
  refine .bind (.look r e) ?_
  exact sees_unlessProxy (ne_proxy hplain) fun kind hkind => by
    rw [hkind, virtualOwn_plainAt hplain]
    exact .bind (.pure none e) (.own hown)

end Own

/-- Whether what an object inherits has the key. -/
def hasAbove (m : Nat) (o : Obj) (k : Key) : Script ρ Bool :=
  match o.proto with
  | some q => has m q k
  | none => pure false

theorem sees_has (h : e.Finds k n r o) {m : Nat} (hm : n < m) :
    Sees (has m r k : Script ρ Bool) e o.isSome := by
  -- one step of the chain, and what is above it
  have step : ∀ {r : Ref} {p : Option Property} {b : Bool} (m : Nat), (e.obj r).kind.plainAt k = true →
      e.own r k = (p, e) → Sees (if p.isSome then pure true else
        hasAbove (m + 1) (e.obj r) k : Script ρ Bool) e b → Sees (has (m + 2) r k : Script ρ Bool) e b := by
    intro r p b m hplain hown hrest
    rw [has]
    refine .bind (.look r e) ?_
    refine sees_unlessProxy (ne_proxy hplain) fun kind hkind => .bind (sees_getOwn hplain hown m) ?_
    cases p <;> exact hrest
  induction h generalizing m with
  | here hplain hown =>
    obtain ⟨m, rfl⟩ := Nat.exists_eq_add_of_le' (show 2 ≤ m by omega)
    exact step m hplain hown (.pure true e)
  | above hplain hown hproto _ ih =>
    obtain ⟨m, rfl⟩ := Nat.exists_eq_add_of_le' (show 2 ≤ m by omega)
    refine step m hplain hown ?_
    rw [hasAbove, hproto]
    exact ih (by omega)
  | nowhere hplain hown hproto =>
    obtain ⟨m, rfl⟩ := Nat.exists_eq_add_of_le' (show 2 ≤ m by omega)
    refine step m hplain hown ?_
    rw [hasAbove, hproto]
    exact .pure false e

/-- What a reading comes to at an object, by its own property. -/
def getFrom (m : Nat) (o : Obj) (k : Key) (receiver : Value) : Option Property → Script ρ Value
  | some (.data v _ _ _) => pure v
  | some (.accessor g _ _ _) =>
    match g with
    | some g => call g receiver []
    | none => pure .undefined
  | some .pendingPrototype => pure .undefined
  | none =>
    match o.proto with
    | some q => get m q k receiver
    | none => pure .undefined

theorem sees_get (h : e.Finds k n r o) {m : Nat} (hm : n ≤ m) (receiver : Value) :
    Sees (get m r k receiver : Script ρ Value) e (o.getD .undefined) := by
  -- one step of the chain, and what is above it
  have step : ∀ {r : Ref} {p : Option Property} {v : Value} (m : Nat), (e.obj r).kind.plainAt k = true →
      e.own r k = (p, e) → Sees (getFrom m (e.obj r) k receiver p : Script ρ Value) e v →
      Sees (get (m + 1) r k receiver : Script ρ Value) e v := by
    intro r p v m hplain hown hrest
    rw [get]
    refine .bind (.look r e) ?_
    refine sees_unlessProxy (ne_proxy hplain) fun kind hkind => ?_
    rw [hkind, virtualOwn_plainAt hplain]
    exact .bind (.pure none e) (.bind (.own hown) hrest)
  induction h generalizing m with
  | @here n r v w en co hplain hown =>
    obtain ⟨m, rfl⟩ := Nat.exists_eq_add_of_le' (show 1 ≤ m by omega)
    exact step m hplain hown (.pure v e)
  | above hplain hown hproto _ ih =>
    obtain ⟨m, rfl⟩ := Nat.exists_eq_add_of_le' (show 1 ≤ m by omega)
    refine step m hplain hown ?_
    rw [getFrom, hproto]
    exact ih (by omega)
  | nowhere hplain hown hproto =>
    obtain ⟨m, rfl⟩ := Nat.exists_eq_add_of_le' (show 1 ≤ m by omega)
    refine step m hplain hown ?_
    rw [getFrom, hproto]
    exact .pure _ e

/-! ### What is found -/

/-- The object is `r`, or one that `r` inherits from. -/
inductive Engine.Inherits (e : Engine) : Ref → Ref → Prop where
  | self (r : Ref) : Inherits e r r
  | above {r q s : Ref} : (e.obj r).proto = some q → Inherits e q s → Inherits e r s

/-- What is found stands in an object of the chain. -/
theorem Engine.Finds.owner (h : e.Finds k n r o) {v : Value} (hv : o = some v) :
    ∃ q w en co, e.Inherits r q ∧ e.own q k = (some (.data v w en co), e) := by
  induction h with
  | here _ hown =>
    cases hv
    exact ⟨_, _, _, _, .self _, hown⟩
  | above _ _ hproto _ ih =>
    obtain ⟨q, w, en, co, hinherits, hown⟩ := ih hv
    exact ⟨q, w, en, co, .above hproto hinherits, hown⟩
  | nowhere => cases hv

/-- A fixed number of an object of the host's side is found in it. -/
theorem Engine.Finds.fixed {h : HostData} {p : Property} {P : Float → Prop} (hkind : (e.obj r).kind = .host h)
    (hf : (e.obj r).find? k = some p) (hp : p.Fixes P) : ∃ v, v.Is P ∧ e.Finds k 1 r (some v) := by
  have hown := own_data hkind hf hp
  obtain ⟨v, en, rfl, hv⟩ := hp
  refine ⟨v, hv, .here ?_ hown⟩
  rw [hkind]
  rfl

/-! ### Classification -/

/-- The slot of a value, by what it shows under the two keys. -/
def slotOf (h : Handle) (target : Option Value) (brand : Option Value) : Slot :=
  match target.bind Value.float? with
  | some x => .hostObject (Number.saturatingUInt64 x) h
  | none =>
    match brand.bind Value.float? with
    | some x => .hostClass (Number.saturatingInt32 x) h
    | none => .managed h

theorem sees_marker (h : e.Finds k n r o) (hn : n < chainLimit) :
    Sees (marker r k : Script ρ (Option Float)) e (o.bind Value.float?) := by
  rw [marker]
  refine .bind (.attempt (sees_has h hn)) ?_
  cases o with
  | none => exact .pure none e
  | some v => exact .bind (.attempt (sees_get h (Nat.le_of_lt hn) (.object r))) (.pure _ e)

/-- **What an object is taken for**, when it is read on chains of objects that answer for themselves. -/
theorem sees_classify (h : Handle) {m : Nat} {target brand : Option Value}
    (htarget : e.Finds targetKey n r target) (hn : n < chainLimit)
    (hbrand : target.bind Value.float? = none → e.Finds classKey m r brand) (hm : m < chainLimit) :
    Sees (classify h (.object r) : Script ρ Slot) e (slotOf h target brand) := by
  rw [classify, slotOf]
  refine .bind (sees_marker htarget hn) ?_
  cases hx : target.bind Value.float? with
  | some x => exact .pure _ e
  | none =>
    refine .bind (sees_marker (hbrand hx) hm) ?_
    cases brand.bind Value.float? <;> exact .pure _ e

end ScriptBridge.Script
