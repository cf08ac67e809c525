import ScriptBridge.Proofs.ExactDoubles
import ScriptBridge.Proofs.Serving

/-!
Objects that carry a token.

An instance or a wrapped function of the host has its token in its kind, and it shows it in a fixed
property besides.  What the engine does for a script makes no carrier, takes no token from one, and
leaves the property with the same number:

    Harmless e (e.answer q).2

Design.  `Obj.Endures` compares one object before and after: an object of the host's side has been one
before, and what it showed in a fixed property it shows still.  So each request is looked at once, and
what is left to show of it is how the one object that it touches endures.  Only `define` has to know why
the property stays: nothing but a number that compares equal is admitted there.  That tokens are safe
(`Harmless`) follows.
-/
namespace ScriptBridge.Script

open Data Text

/-! ### Numbers -/

/-- The value is a number with the property. -/
def Value.Is (v : Value) (P : Float → Prop) : Prop := ∃ x, v.float? = some x ∧ P x

/-- The value is the whole number `n`, as an integer or as a double. -/
def Value.Shows (v : Value) (n : Nat) : Prop := v.Is (Number.Exact n)

namespace Value

theorem shows_ofFloat {n : Nat} {x : Float} (h0 : 0 < n) (h : n < 2 ^ 53) (hx : Number.Exact n x) :
    (ofFloat x).Shows n := by
  have hwhole := Number.whole_shifted n (Number.slack n)
  rw [ofFloat, hx.read]
  simp only [hwhole.2, Bool.and_false, Bool.not_false, Bool.true_and, if_true]
  have htruncate : (Number.Dyadic.mk false (n <<< Number.slack n) (-(Number.slack n : Int))).truncate
      = (n : Int) := by
    rw [Number.Dyadic.truncate, hwhole.1]
    rfl
  rw [htruncate]
  split
  · rename_i hfits
    have hfits : (n : Int) ≤ 2147483647 := by simpa using hfits
    refine ⟨_, rfl, ?_⟩
    have hint : (Int32.ofInt (n : Int)).toInt = n :=
      Int32.toInt_ofInt_of_le (by omega) (by omega)
    rw [hint]
    exact Number.exact_ofInt h0 h
  · exact ⟨x, rfl, hx⟩

/-- A number equals no value of another kind. -/
theorem strictEq_of_float? {v u : Value} {x : Float} (hv : v.float? = some x) (hu : u.float? = none) :
    strictEq v u = false := by
  cases v <;> cases hv <;> cases u <;> first | rfl | cases hu

/-- Only a value that compares equal is the same value. -/
theorem Is.of_same {v u : Value} {P : Float → Prop} (hP : Number.Common P) (hv : v.Is P)
    (h : same false v u = true) : u.Is P := by
  obtain ⟨x, hx, hnumber⟩ := hv
  rw [same, hx] at h
  rcases hy : u.float? with - | y
  · simp only [hy, strictEq_of_float? hx hy] at h
    cases h
  · rw [hy] at h
    simp only [hP.number hnumber, Bool.false_eq_true, if_false, Bool.and_eq_true] at h
    exact ⟨y, hy, hP.equal hnumber h.1⟩

end Value

/-! ### Objects -/

/-- The property can never be anything but such a number. -/
def Property.Fixes (p : Property) (P : Float → Prop) : Prop :=
  ∃ v e, p = .data v false e false ∧ v.Is P

/-- The property can never be anything but the number `n`. -/
def Property.Shows (p : Property) (n : Nat) : Prop := p.Fixes (Number.Exact n)

/-- What is admitted for such a property is a number that compares equal. -/
theorem Property.Fixes.applyTo {p : Property} {P : Float → Prop} {c : Change} (hP : Number.Common P)
    (hp : p.Fixes P) (h : c.admits p = true) : (c.applyTo p).Fixes P := by
  obtain ⟨v, e, rfl, hv⟩ := hp
  unfold Change.admits at h
  simp only [Property.configurable, Bool.false_eq_true, if_false] at h
  split at h
  · cases h
  · rename_i hconfigurable
    split at h
    · cases h
    · split at h
      · cases h
      · rename_i haccessor
        simp only [Bool.and_eq_true, bne_iff_ne, ne_eq] at h
        obtain ⟨hwritable, hvalue⟩ := h
        rw [Change.applyTo]
        simp only [haccessor, Property.configurable]
        -- a change of a fixed property may only repeat what it is
        have hw : c.writable.getD false = false := by
          rcases hcw : c.writable with - | - | -
          · rfl
          · rfl
          · exact absurd hcw hwritable
        have hk : c.configurable.getD false = false := by
          rcases hcc : c.configurable with - | - | -
          · rfl
          · rfl
          · exact absurd (by rw [hcc]; rfl) hconfigurable
        rw [hw, hk]
        refine ⟨c.value.getD v, _, rfl, ?_⟩
        rcases hcv : c.value with - | u
        · exact hv
        · rw [hcv] at hvalue
          exact hv.of_same hP hvalue

namespace Obj

/-- The token that the object carries. -/
def token? (o : Obj) : Option UInt64 :=
  match o.kind with
  | .host h => h.token?
  | .script _ => none

/-- An object that carries a token shows it, if the token has an exact double. -/
def Marked (o : Obj) : Prop :=
  ∀ t, o.token? = some t → 0 < t.toNat → t.toNat < 2 ^ 53 →
    ∃ p, o.find? targetKey = some p ∧ p.Shows t.toNat

/-- An object after a change: if it is one of the host's side, it was of that kind before, and the fixed
numbers that it showed it shows still. -/
def Endures (o o' : Obj) : Prop :=
  ∀ h, o'.kind = .host h → o.kind = .host h ∧
    ∀ k P, Number.Common P → (∃ p, o.find? k = some p ∧ p.Fixes P) → ∃ p, o'.find? k = some p ∧ p.Fixes P

/-- An object after a change: it carries nothing, or is what it was and still shows its token. -/
def Follows (o o' : Obj) : Prop :=
  o'.token? = none ∨ (o'.kind = o.kind ∧ (o.Marked → o'.Marked))

theorem Endures.refl (o : Obj) : o.Endures o := fun _ h => ⟨h, fun _ _ _ hp => hp⟩

theorem Endures.trans {a b c : Obj} (hab : a.Endures b) (hbc : b.Endures c) : a.Endures c := by
  intro h hc
  obtain ⟨hb, hshown⟩ := hbc h hc
  obtain ⟨ha, hshown'⟩ := hab h hb
  exact ⟨ha, fun k P hP hp => hshown k P hP (hshown' k P hP hp)⟩

theorem endures_script (o : Obj) {o' : Obj} {p : Payload} (h : o'.kind = .script p) : o.Endures o' :=
  fun _ h' => nomatch h.symm.trans h'

theorem Follows.refl (o : Obj) : o.Follows o := .inr ⟨rfl, id⟩

theorem token?_host {o : Obj} {h : HostData} (hkind : o.kind = .host h) : o.token? = h.token? := by
  rw [token?, hkind]

theorem token?_of_kind {o o' : Obj} (h : o'.kind = o.kind) : o'.token? = o.token? := by
  rw [token?, token?, h]

theorem Follows.trans {a b c : Obj} (hab : a.Follows b) (hbc : b.Follows c) : a.Follows c := by
  rcases hbc with hc | ⟨hkind, hmarked⟩
  · exact .inl hc
  · rcases hab with hb | ⟨hkind', hmarked'⟩
    · exact .inl ((token?_of_kind hkind).trans hb)
    · exact .inr ⟨hkind.trans hkind', hmarked ∘ hmarked'⟩

/-- What endures follows. -/
theorem Endures.follows {o o' : Obj} (h : o.Endures o') : o.Follows o' := by
  rcases hkind : o'.kind with p | d
  · exact .inl (by rw [token?, hkind])
  · obtain ⟨hbefore, hshown⟩ := h d hkind
    refine .inr ⟨hkind.trans hbefore.symm, fun ho t ht hpos hsmall => ?_⟩
    rw [token?_of_kind (hkind.trans hbefore.symm)] at ht
    exact hshown targetKey _ (Number.Exact.common t.toNat) (ho t ht hpos hsmall)

/-! ### Properties -/

theorem lookup_replace (k k' : Key) (p : Property) (l : List (Key × Property)) :
    (replace k p l).lookup k' = if k' = k then some p else l.lookup k' := by
  induction l with
  | nil =>
    by_cases h : k' = k
    · simp [replace, h]
    · simp [replace, List.lookup, h, beq_false_of_ne h]
  | cons e rest ih =>
    rw [replace]
    by_cases he : e.1 = k
    · simp only [he, beq_self_eq_true, if_true]
      by_cases h : k' = k
      · simp [h]
      · have hne : (k' == e.1) = false := beq_false_of_ne (he ▸ h)
        simp [List.lookup, h, hne, beq_false_of_ne h]
    · rw [if_neg (by simpa using he)]
      rcases e with ⟨key, v⟩
      by_cases hk : k' = key
      · have h : k' ≠ k := hk ▸ he
        simp [List.lookup, hk, hk ▸ h]
      · simp only [List.lookup, beq_false_of_ne hk]
        exact ih

theorem find?_put (o : Obj) (k k' : Key) (p : Property) :
    (o.put k p).find? k' = if k' = k then some p else o.find? k' := by
  cases k with
  | index n =>
    cases k' with
    | index m =>
      show (o.elements.insert n p).get? m = _
      rw [NatMap.get?_insert]
      by_cases h : m = n
      · simp [h]
      · simp [h, find?]
    | _ => rfl
  | _ =>
    cases k' with
    | index m => rfl
    | _ => exact lookup_replace _ _ p o.members

theorem lookup_filter_ne {k k' : Key} (h : k' ≠ k) (l : List (Key × Property)) :
    (l.filter fun e => e.1 != k).lookup k' = l.lookup k' := by
  induction l with
  | nil => rfl
  | cons e rest ih =>
    rcases e with ⟨key, v⟩
    by_cases hk : key = k
    · have hne : (k' == key) = false := beq_false_of_ne (hk ▸ h)
      simp only [hk, List.filter_cons, bne_self_eq_false, Bool.false_eq_true, if_false]
      rw [ih, ← hk]
      simp only [List.lookup, hne]
    · have hbne : (key != k) = true := by simpa using hk
      simp only [List.filter_cons, hbne, if_true, List.lookup]
      rw [ih]

theorem find?_remove {k k' : Key} (h : k' ≠ k) (o : Obj) : (o.remove k).find? k' = o.find? k' := by
  cases k with
  | index n =>
    cases k' with
    | index m =>
      show (o.elements.erase n).get? m = o.elements.get? m
      rw [NatMap.get?_erase, if_neg fun hm => h (congrArg Key.index hm)]
    | _ => rfl
  | _ =>
    cases k' with
    | index m => rfl
    | _ => exact lookup_filter_ne h o.members

@[simp] theorem kind_put (o : Obj) (k : Key) (p : Property) : (o.put k p).kind = o.kind := by
  cases k <;> rfl

@[simp] theorem kind_remove (o : Obj) (k : Key) : (o.remove k).kind = o.kind := by
  cases k <;> rfl

theorem kind_foldl_put (members : List (Key × Property)) (o : Obj) :
    (members.foldl (fun o m => o.put m.1 m.2) o).kind = o.kind := by
  induction members generalizing o with
  | nil => rfl
  | cons m rest ih =>
    rw [List.foldl_cons, ih, kind_put]

/-- An object endures a changed property, when a fixed number stays one that compares equal. -/
theorem endures_put {o : Obj} {k : Key} {p : Property}
    (h : ∀ host q P, Number.Common P → o.kind = .host host → o.find? k = some q → q.Fixes P → p.Fixes P) :
    o.Endures (o.put k p) := by
  intro host hkind
  rw [kind_put] at hkind
  refine ⟨hkind, fun k' P hP hshown => ?_⟩
  obtain ⟨q, hq, hfixed⟩ := hshown
  rw [find?_put]
  split
  · rename_i heq
    exact ⟨p, rfl, h _ q P hP hkind (heq ▸ hq) hfixed⟩
  · exact ⟨q, hq, hfixed⟩

/-- What stops being one with a variable is an object of a script. -/
theorem unshare_cases (o : Obj) (k : Key) :
    Engine.unshare o k = o ∨ ∃ p, (Engine.unshare o k).kind = .script p := by
  unfold Engine.unshare
  split
  · exact .inr ⟨_, rfl⟩
  · exact .inl rfl

end Obj

/-! ### The engine -/

/-- What a node is on the host's side, if it is an object there. -/
def Node.host? : Node → Option HostData
  | .object o =>
    match o.kind with
    | .host h => some h
    | .script _ => none
  | _ => none

namespace Engine

theorem token?_object (o : Obj) : Node.token? (.object o) = o.token? := by
  rw [Node.token?, Obj.token?]
  rcases o.kind with p | h
  · rfl
  · cases h <;> rfl

theorem token?_of_host? {n : Node} (h : n.host? = none) : Node.token? n = none := by
  cases n with
  | object o =>
    rcases hkind : o.kind with p | d
    · rw [Node.token?, hkind]
    · rw [Node.host?, hkind] at h
      cases h
  | _ => rfl

/-- The object under `r` carries the token. -/
def Carries (e : Engine) (r : Ref) (t : UInt64) : Prop := (e.obj r).token? = some t

/-- Every object endures. -/
def Endures (e e' : Engine) : Prop := ∀ r, (e.obj r).Endures (e'.obj r)

/-- Every object follows itself. -/
def Harmless (e e' : Engine) : Prop := ∀ r, (e.obj r).Follows (e'.obj r)

theorem obj_congr {e e' : Engine} (hn : e'.nodes = e.nodes) (hp : e'.patched = e.patched) (r : Ref) :
    e'.obj r = e.obj r := by
  cases r with
  | builtin b => rw [obj, obj, hp]
  | made n => rw [obj, obj, hn]

theorem lookup_replacePatch (b c : Builtin) (o : Obj) (l : List (Builtin × Obj)) :
    (replacePatch b o l).lookup c = if c = b then some o else l.lookup c := by
  induction l with
  | nil =>
    by_cases h : c = b
    · simp [replacePatch, h]
    · simp [replacePatch, List.lookup, h, beq_false_of_ne h]
  | cons e rest ih =>
    rcases e with ⟨d, v⟩
    rw [replacePatch]
    by_cases hd : d = b
    · by_cases h : c = b
      · simp [hd, h]
      · simp [List.lookup, hd, h, beq_false_of_ne h]
    · rw [if_neg (by simpa using hd)]
      by_cases hc : c = d
      · simp [List.lookup, hc, hd]
      · simp only [List.lookup, beq_false_of_ne hc]
        exact ih

theorem obj_setObj (e : Engine) (r s : Ref) (o : Obj) :
    (s = r ∧ (e.setObj r o).obj s = o) ∨ (e.setObj r o).obj s = e.obj s := by
  -- a built-in object is replaced by a patch, a made one in its node
  rcases r with b | n
  · rcases s with c | m
    · have hpatched := lookup_replacePatch b c o e.patched
      by_cases h : c = b
      · refine .inl ⟨congrArg _ h, ?_⟩
        rw [if_pos h] at hpatched
        simp only [setObj, obj, hpatched]
      · refine .inr ?_
        rw [if_neg h] at hpatched
        simp only [setObj, obj, hpatched]
    · exact .inr rfl
  · rw [setObj]
    split
    · rcases s with c | m
      · exact .inr rfl
      · by_cases h : m = n
        · refine .inl ⟨congrArg _ h, ?_⟩
          simp [obj, h]
        · refine .inr ?_
          simp [obj, h]
    · exact .inr rfl

theorem obj_insert {e e' : Engine} {n : NodeId} {node : Node} (hn : e'.nodes = e.nodes.insert n node)
    (hp : e'.patched = e.patched) (r : Ref) :
    (∃ o, node = .object o ∧ e'.obj r = o) ∨ (e'.obj r).kind = .script .ordinary ∨ e'.obj r = e.obj r := by
  rcases r with b | m
  · rw [obj, obj, hp]
    exact .inr (.inr rfl)
  · rw [obj, obj, hn, NatMap.get?_insert]
    by_cases h : m = n
    · rw [if_pos h]
      cases node with
      | object o => exact .inl ⟨o, rfl, rfl⟩
      | _ => exact .inr (.inl rfl)
    · rw [if_neg h]
      exact .inr (.inr rfl)

namespace Endures

variable {e e' : Engine}

theorem refl (e : Engine) : Endures e e := fun r => .refl (e.obj r)

theorem trans {e₁ e₂ e₃ : Engine} (h : Endures e₁ e₂) (h' : Endures e₂ e₃) : Endures e₁ e₃ :=
  fun r => (h r).trans (h' r)

/-- A change that leaves the objects alone. -/
theorem of_same (hn : e'.nodes = e.nodes) (hp : e'.patched = e.patched) : Endures e e' := by
  intro r
  rw [obj_congr hn hp]
  exact .refl _

/-- A node that is no object of the host's side is put in place. -/
theorem of_insert {n : NodeId} {node : Node} (hn : e'.nodes = e.nodes.insert n node)
    (hp : e'.patched = e.patched) (hnode : node.host? = none) : Endures e e' := by
  intro r
  rcases obj_insert hn hp r with ⟨o, rfl, hr⟩ | hr | hr
  · intro h hkind
    rw [Node.host?, ← hr, hkind] at hnode
    cases hnode
  · exact Obj.endures_script _ hr
  · rw [hr]
    exact .refl _

/-- An object is replaced by one that endures. -/
theorem setObj (h : Endures e e') {r : Ref} {o : Obj} (ho : (e.obj r).Endures o) :
    Endures e (e'.setObj r o) := by
  intro s
  rcases obj_setObj e' r s o with ⟨rfl, hs⟩ | hs
  · rw [hs]
    exact ho
  · rw [hs]
    exact h s

end Endures

namespace Harmless

variable {e e' : Engine}

theorem of_endures (h : Endures e e') : Harmless e e' := fun r => (h r).follows

theorem refl (e : Engine) : Harmless e e := fun r => .refl (e.obj r)

theorem trans {e₁ e₂ e₃ : Engine} (h : Harmless e₁ e₂) (h' : Harmless e₂ e₃) : Harmless e₁ e₃ :=
  fun r => (h r).trans (h' r)

/-- A change that leaves the objects alone. -/
theorem of_same (hn : e'.nodes = e.nodes) (hp : e'.patched = e.patched) : Harmless e e' :=
  of_endures (.of_same hn hp)

/-- A node that carries no token is put in place. -/
theorem of_insert {n : NodeId} {node : Node} (hn : e'.nodes = e.nodes.insert n node)
    (hp : e'.patched = e.patched) (ht : Node.token? node = none) : Harmless e e' := by
  intro r
  rcases obj_insert hn hp r with ⟨o, rfl, hr⟩ | hr | hr
  · exact .inl (hr ▸ (token?_object o).symm.trans ht)
  · exact (Obj.endures_script _ hr).follows
  · rw [hr]
    exact .refl _

theorem carries (h : Harmless e e') {r : Ref} {t : UInt64} (hc : e'.Carries r t) : e.Carries r t := by
  rcases h r with hnone | ⟨hkind, -⟩
  · rw [Carries, hnone] at hc
    cases hc
  · exact (Obj.token?_of_kind hkind).symm.trans hc

end Harmless

/-! ### Answers -/

theorem harmless_allocate (e : Engine) {n : Node} (h : Node.token? n = none) :
    Harmless e (e.allocate n).2 := .of_insert rfl rfl h

theorem endures_allocate (e : Engine) {n : Node} (h : n.host? = none) : Endures e (e.allocate n).2 := .of_insert rfl rfl h

theorem prototypeFor_script (r : Ref) (o : Obj) : ∃ p, (prototypeFor r o).kind = .script p := by
  rw [prototypeFor]
  split
  · split <;> exact ⟨_, rfl⟩
  · exact ⟨_, rfl⟩

theorem host?_script {o : Obj} {p : Payload} (h : o.kind = .script p) : Node.host? (.object o) = none := by
  rw [Node.host?, h]

theorem endures_writeCell (e : Engine) (c : NodeId) (v : Option Value) :
    Endures e (e.writeCell c v) := by
  rw [writeCell]
  split
  · exact .of_insert rfl rfl rfl
  · exact .refl e

theorem endures_writeTask (e : Engine) (id : NodeId) (t : Task) : Endures e (e.writeTask id t) := by
  rw [writeTask]
  split
  · exact .of_insert rfl rfl rfl
  · exact .refl e

theorem harmless_writeTask (e : Engine) (id : NodeId) (t : Task) : Harmless e (e.writeTask id t) :=
  .of_endures (endures_writeTask e id t)

/-- A pending prototype is made; nothing else happens when a property is looked up. -/
theorem endures_own (e : Engine) (r : Ref) (k : Key) : Endures e (e.own r k).2 := by
  unfold own
  simp only
  split
  · rename_i hpending
    obtain ⟨p, hp⟩ := prototypeFor_script r (e.obj r)
    refine (endures_allocate e (host?_script hp)).setObj (Obj.endures_put fun _ q _ _ _ hq hfixed => ?_)
    rw [hpending] at hq
    cases hq
    obtain ⟨v, en, hdata, -⟩ := hfixed
    cases hdata
  · exact .refl e
  · exact .refl e

theorem obj_allocateObj (e : Engine) (o : Obj) (s : Ref) :
    (s = (e.allocateObj o).1 ∧ (e.allocateObj o).2.obj s = o)
      ∨ (e.allocateObj o).2.obj s = e.obj s := by
  rcases s with b | m
  · exact .inr rfl
  · by_cases h : m = e.next
    · exact .inl ⟨congrArg _ h, by simp [allocateObj, allocate, obj, h]⟩
    · exact .inr (by simp [allocateObj, allocate, obj, h])

/-- A fixed property of an object that is no script's is found as it is. -/
theorem own_fixed {e : Engine} {r : Ref} {k : Key} {p : Property} {P : Float → Prop} {h : HostData}
    (hkind : ((e.own r k).2.obj r).kind = .host h) (hp : ((e.own r k).2.obj r).find? k = some p)
    (hfixed : p.Fixes P) : (e.own r k).1 = some p := by
  obtain ⟨v, en, rfl, -⟩ := hfixed
  unfold own at hkind hp ⊢
  simp only at hkind hp ⊢
  rcases hf : (e.obj r).find? k with - | q
  · rw [hf] at hp
    cases hp.symm.trans hf
  · cases q with
    | pendingPrototype =>
      -- what is made in its place can be changed
      rw [hf] at hkind hp
      obtain ⟨payload, hpayload⟩ := prototypeFor_script r (e.obj r)
      simp only at hkind hp
      rcases obj_setObj (e.allocateObj (prototypeFor r (e.obj r))).2 r r ((e.obj r).put k
        (.data (.object (e.allocateObj (prototypeFor r (e.obj r))).1) true false false))
        with ⟨-, hs⟩ | hs
      · rw [hs, Obj.find?_put, if_pos rfl] at hp
        cases hp
      · rcases obj_allocateObj e (prototypeFor r (e.obj r)) r with ⟨-, ha⟩ | ha
        · rw [hs, ha, hpayload] at hkind
          cases hkind
        · rw [hs, ha] at hp
          cases hp.symm.trans hf
    | data v' w en' co =>
      rw [hf] at hkind hp
      cases hp.symm.trans hf
      simp [withShared, sharedCell, hkind]
    | accessor g s en' co =>
      rw [hf] at hp
      cases hp.symm.trans hf

/-! ### Defining and removing -/

section Define

variable {e e' : Engine} (he : Endures e e') {r : Ref}

include he

/-- Whatever is put into an object of a script, all objects endure. -/
theorem endures_script {o : Obj} {p : Payload} (ho : o.kind = .script p) :
    Endures e (e'.setObj r o) := he.setObj (Obj.endures_script _ ho)

theorem endures_defineLength {o : Obj} {payload : Payload} (ho : o.kind = .script payload) (k : Key)
    (c : Change) (p : Property) : Endures e (e'.defineLength r o k c p).2 := by
  have put : ∀ (o' : Obj) (q : Property), o'.kind = o.kind → Endures e (e'.setObj r (o'.put k q)) :=
    fun o' q h => endures_script he ((Obj.kind_put o' k q).trans (h.trans ho))
  unfold defineLength
  split
  · simp only
    split
    · exact put o _ rfl
    · exact put { o with elements := _ } _ rfl
  · exact put o _ rfl

theorem endures_addElement {o : Obj} {payload : Payload} (ho : o.kind = .script payload) (n : Nat)
    (p : Property) : Endures e (e'.addElement r o n p).2 := by
  unfold addElement
  simp only
  split
  · exact endures_script he ((Obj.kind_put o _ p).trans ho)
  · split
    · exact he
    · exact endures_script he ((Obj.kind_put _ _ _).trans ((Obj.kind_put o _ p).trans ho))

theorem endures_update {o : Obj} (k : Key) {p : Property} (ho : (e.obj r).Endures (o.put k p)) :
    Endures e (e'.update r o k p) := by
  -- only objects of a script share cells, so in both shared cases nothing of the host's is at stake
  have script : ∀ c, sharedCell o k = some c → ∃ payload, o.kind = .script payload := by
    intro c hc
    unfold sharedCell at hc
    split at hc
    · rename_i hkind
      exact ⟨_, hkind⟩
    · cases hc
  have unshared : ∀ payload, o.kind = .script payload →
      ∃ payload', (unshare o k).kind = .script payload' := by
    intro payload hkind
    rcases Obj.unshare_cases o k with h | h
    · exact ⟨payload, by rw [h, hkind]⟩
    · exact h
  unfold update
  split
  · rename_i c v en co hc
    obtain ⟨payload, hkind⟩ := script c hc
    exact (endures_script he ((Obj.kind_put _ _ _).trans hkind)).trans (endures_writeCell _ _ _)
  · rename_i c v en co hc
    obtain ⟨payload, hkind⟩ := script c hc
    obtain ⟨payload', hkind'⟩ := unshared payload hkind
    exact (endures_script he ((Obj.kind_put _ _ _).trans hkind')).trans (endures_writeCell _ _ _)
  · rcases Obj.unshare_cases o k with h | ⟨payload, h⟩
    · rw [h]
      exact he.setObj ho
    · exact endures_script he ((Obj.kind_put _ _ _).trans h)

end Define

theorem kind_of_isArrayKind {o : Obj} (h : isArrayKind o.kind = true) : o.kind = .script .array := by
  unfold isArrayKind at h
  split at h
  · assumption
  · cases h

theorem endures_define (e : Engine) (r : Ref) (k : Key) (c : Change) :
    Endures e (e.define r k c).2 := by
  have hown := endures_own e r k
  have hfixed := fun p P h => @own_fixed e r k p P h
  unfold define
  generalize e.own r k = found at hown hfixed ⊢
  obtain ⟨found, e'⟩ := found
  simp only at hown hfixed ⊢
  -- what is defined is a fixed number if what was found there was
  have shown : ∀ q : Property, (∀ p P, Number.Common P → found = some p → p.Fixes P → q.Fixes P) →
      (e'.obj r).Endures ((e'.obj r).put k q) := fun q hq =>
    Obj.endures_put fun host p P hP hkind hp hn => hq p P hP (hfixed p P host hkind hp hn) hn
  cases found with
  | some p =>
    simp only
    split
    · exact hown
    · rename_i hadmits
      split
      · rename_i harray
        simp only [Bool.and_eq_true] at harray
        exact endures_defineLength hown (kind_of_isArrayKind harray.1) k c p
      · refine endures_update hown k ((hown r).trans (shown _ fun p' P hP hp' hn => ?_))
        cases hp'
        exact hn.applyTo hP (by simpa using hadmits)
  | none =>
    simp only
    split
    · exact hown
    · split
      · rename_i n harray _
        exact endures_addElement hown (kind_of_isArrayKind harray) _ _
      · exact hown.setObj ((hown r).trans (shown _ fun p P _ hp => nomatch hp))

theorem endures_delete (e : Engine) (r : Ref) (k : Key) : Endures e (e.delete r k).2 := by
  unfold delete
  simp only
  split
  · rename_i p hp
    split
    · exact .refl e
    · split
      · rename_i hconfigurable
        refine (Endures.refl e).setObj ?_
        rcases Obj.unshare_cases (e.obj r) k with h | ⟨payload, h⟩
        · rw [h]
          intro host hk
          rw [Obj.kind_remove] at hk
          refine ⟨hk, fun key P _ hshown => ?_⟩
          obtain ⟨q, hq, hfixed⟩ := hshown
          by_cases heq : key = k
          · rw [heq, hp] at hq
            cases hq
            obtain ⟨v, en, rfl, -⟩ := hfixed
            cases hconfigurable
          · exact ⟨q, (Obj.find?_remove heq _).trans hq, hfixed⟩
        · exact Obj.endures_script _ ((Obj.kind_remove _ k).trans h)
      · exact .refl e
  · exact .refl e

/-- **What the engine does for a script makes no object of the host's side, and leaves every fixed number
that one shows.** -/
theorem endures_answer (e : Engine) (q : Request) : Endures e (e.answer q).2 := by
  -- an object may change in all but its kind and its properties
  have kept : ∀ (r : Ref) (o : Obj), o.kind = (e.obj r).kind →
      (∀ k, o.find? k = (e.obj r).find? k) → Endures e (e.setObj r o) := by
    intro r o hkind hfind
    refine (Endures.refl e).setObj fun h hk => ⟨hkind ▸ hk, fun k P _ hshown => ?_⟩
    rw [hfind]
    exact hshown
  cases q with
  | own r k => exact endures_own e r k
  | define r k c => exact endures_define e r k c
  | delete r k => exact endures_delete e r k
  | reparent r proto =>
    show Endures e (e.reparent r proto).2
    unfold reparent
    split
    · exact .refl e
    · exact kept r _ rfl fun k => by cases k <;> rfl
  | close r => exact kept r _ rfl fun k => by cases k <;> rfl
  | make proto p members =>
    refine endures_allocate e (host?_script (p := p) ?_)
    rw [Obj.kind_foldl_put]
  | revise r p =>
    show Endures e (e.revise r p)
    unfold revise
    simp only
    split
    · exact endures_script (.refl e) rfl
    · exact .refl e
  | newCell v => exact endures_allocate e rfl
  | writeCell c v => exact endures_writeCell e c v
  | newTask t => exact endures_allocate e rfl
  | writeTask id t => exact endures_writeTask e id t
  | declareGlobal n constant => exact (endures_allocate e (n := .cell none) rfl).trans (.of_same rfl rfl)
  | symbolFor key =>
    show Endures e (e.symbolFor key).2
    unfold symbolFor
    split <;> exact .of_same rfl rfl
  | _ => exact .of_same rfl rfl

/-- **It does no harm to the carriers of tokens.** -/
theorem harmless_answer (e : Engine) (q : Request) : Harmless e (e.answer q).2 :=
  .of_endures (endures_answer e q)

/-- Objects of the host's side that carry nothing. -/
theorem harmless_allocateObj (e : Engine) {o : Obj} (h : o.token? = none) :
    Harmless e (e.allocateObj o).2 := harmless_allocate e ((token?_object o).trans h)

end Engine

/-! ### Carriers -/

theorem token?_hostObject (h : HostData) (proto : Ref) (members : List (Key × Property)) :
    (hostObject h proto members).token? = h.token? := by
  rw [Obj.token?, hostObject, Obj.kind_foldl_put]

/-- The object that a token is drawn for shows it. -/
theorem marked_hostObject (h : HostData) (t : UInt64) (proto : Ref) (members : List (Key × Property))
    (ht : h.token? = some t) :
    (hostObject h proto (members ++ [(targetKey, .fixed (tokenValue t))])).Marked := by
  intro u hu h0 hsmall
  rw [token?_hostObject, ht] at hu
  cases hu
  refine ⟨.fixed (tokenValue t), ?_, ⟨_, _, rfl, ?_⟩⟩
  · rw [hostObject, List.foldl_append, List.foldl_cons, List.foldl_nil, Obj.find?_put, if_pos rfl]
  · exact Value.shows_ofFloat h0 hsmall (Number.exact_toFloat h0 hsmall rfl)

/-- No object carries a token before the host makes one. -/
theorem token?_initial (b : Builtin) : b.initial.token? = none := by
  cases b with
  | object o => cases o <;> rfl
  | function f => cases f <;> rfl

/-! ### Reading the number -/

open Engine

/-- Such a property is found as it is. -/
theorem Engine.own_data {e : Engine} {r : Ref} {key : Key} {p : Property} {P : Float → Prop}
    {h : HostData} (hkind : (e.obj r).kind = .host h) (hf : (e.obj r).find? key = some p) (hp : p.Fixes P) :
    e.own r key = (some p, e) := by
  obtain ⟨v, en, rfl, -⟩ := hp
  simp [own, hf, withShared, sharedCell, hkind]

/-- An object of the host's side looks like one. -/
theorem Engine.answer_look {e : Engine} {r : Ref} {h : HostData} (hkind : (e.obj r).kind = .host h) :
    (e.answer (.look r)).1 = ⟨(e.obj r).proto, (e.obj r).extensible, .host h⟩ := by
  rw [answer, hkind]

section Marker

variable {e : Engine} {r : Ref} {key : Key} {p : Property} {h : HostData} {ρ : Type} {a : ρ}
    (hkind : (e.obj r).kind = .host h) (hown : e.own r key = (some p, e))

include hkind hown

theorem reads_getOwn {k : Option Property → Prog ρ} {err : Value → Prog ρ} (n : Nat)
    (hk : (k (some p)).Reads e a) : (getOwn (n + 1) r key k err).Reads e a := by
  rw [getOwn]
  refine .look ?_
  rw [answer_look hkind]
  refine .own (by rw [hown]) ?_
  rw [hown]
  exact hk

theorem reads_has {k : Bool → Prog ρ} {err : Value → Prog ρ} (n : Nat)
    (hk : (k true).Reads e a) : (has (n + 2) r key k err).Reads e a := by
  rw [has]
  refine .look ?_
  rw [answer_look hkind]
  exact reads_getOwn hkind hown n hk

theorem reads_get {k : Value → Prog ρ} {err : Value → Prog ρ} (n : Nat) (receiver : Value)
    {v : Value} {w en co : Bool} (hp : p = .data v w en co)
    (hk : (k v).Reads e a) : (get (n + 1) r key receiver k err).Reads e a := by
  rw [get]
  refine .look ?_
  rw [answer_look hkind]
  refine .own (by rw [hown]) ?_
  rw [hown, hp]
  exact hk

end Marker

/-- An instance shows its token to everybody. -/
theorem reads_marker {e : Engine} {r : Ref} {key : Key} {p : Property} {h : HostData} {n : Nat}
    (hkind : (e.obj r).kind = .host h) (hf : (e.obj r).find? key = some p) (hp : p.Shows n) :
    ∃ x, Number.Exact n x ∧ ∀ {ρ : Type} {k : Option Float → Prog ρ} {err : Value → Prog ρ} {a : ρ},
      (k (some x)).Reads e a → (marker r key k err).Reads e a := by
  have hown := own_data hkind hf hp
  obtain ⟨v, en, rfl, x, hx, hexact⟩ := hp
  refine ⟨x, hexact, fun {ρ k err a} hk => ?_⟩
  show Prog.Reads e (has chainLimit r key _ _) _
  refine reads_has hkind hown 9998 ?_
  show Prog.Reads e (get chainLimit r key (.object r) _ _) _
  refine reads_get hkind hown 9999 _ rfl ?_
  show Prog.Reads e (k v.float?) a
  rw [hx]
  exact hk

end ScriptBridge.Script
