import ScriptBridge.Proofs.RoundTrip
import ScriptBridge.Projection.Descriptor
import ScriptBridge.Script.Value

/-!
What a class descriptor says of a name.

A descriptor lists members; a name may come up many times, as a method, a getter and a setter, of the class itself
or of its instances.  Of each kind the last one counts:

    d.entries isStatic name  =  ⟨last method, last getter, last setter⟩      by their positions in the list

The accessors are brought together in pairs beforehand, and the pair of a name has just its last getter and its last
setter (`ofRoutes_sides`).  Different names are different keys, indices included (`Key.ofString_injective`).
-/
namespace ScriptBridge

open Text Script

/-! ### Names as keys -/

namespace Text.Units

theorem ofString_injective : Function.Injective ofString := fun s t h => by
  have hs := toText_ofString s
  rw [h, toText_ofString t] at hs
  exact (Except.ok.inj hs).symm

/-- Decimal digits without a leading zero. -/
structure Canonical (u : Units) : Prop where
  digits : ∀ d ∈ u, 48 ≤ d.toNat ∧ d.toNat ≤ 57
  head : u.head? ≠ some 48

theorem Canonical.init {u : Units} {d : UInt16} (h : Canonical (u ++ [d])) : Canonical u := by
  refine ⟨fun x hx => h.digits x (List.mem_append_left _ hx), fun hhead => h.head ?_⟩
  cases u with
  | nil => cases hhead
  | cons x u => exact hhead

theorem digitsValue_append (u : Units) (d : UInt16) :
    digitsValue (u ++ [d]) = digitsValue u * 10 + (d.toNat - 48) := by
  rw [digitsValue, List.foldl_append]
  rfl

theorem Canonical.pos {u : Units} (h : Canonical u) (hne : u ≠ []) : 0 < digitsValue u := by
  induction u using List.reverseRecOn with
  | nil => exact absurd rfl hne
  | append_singleton u d ih =>
    rw [digitsValue_append]
    cases u with
    | nil =>
      have hd : 48 ≤ d.toNat := (h.digits d (by simp)).1
      have hne48 : d.toNat ≠ 48 := fun heq => h.head (congrArg some (UInt16.toNat_inj.mp heq))
      omega
    | cons x u =>
      have := ih h.init (List.cons_ne_nil x u)
      omega

/-- A number is written in one way. -/
theorem Canonical.ext {u v : Units} (hu : Canonical u) (hv : Canonical v)
    (h : digitsValue u = digitsValue v) : u = v := by
  induction u using List.reverseRecOn generalizing v with
  | nil =>
    by_contra hne
    have hpos := hv.pos (fun heq => hne heq.symm)
    rw [← h] at hpos
    exact Nat.lt_irrefl _ hpos
  | append_singleton u d ih =>
    rcases List.eq_nil_or_concat v with rfl | ⟨v, d', rfl⟩
    · have hpos := hu.pos (by simp)
      rw [h] at hpos
      exact absurd hpos (Nat.lt_irrefl _)
    · rw [List.concat_eq_append, digitsValue_append, digitsValue_append] at *
      obtain ⟨hd, hd9⟩ := hu.digits d (by simp)
      obtain ⟨hd', hd9'⟩ := hv.digits d' (by simp)
      rw [ih hu.init hv.init (by omega), UInt16.toNat_inj.mp (show d.toNat = d'.toNat by omega)]

theorem toNat_of_isDigit {d : UInt16} (h : isDigit d = true) : 48 ≤ d.toNat ∧ d.toNat ≤ 57 := by
  simpa [isDigit, UInt16.le_iff_toNat_le] using h

/-- An index is zero or the value of canonical digits. -/
theorem arrayIndex?_some {u : Units} {n : Nat} (h : arrayIndex? u = some n) :
    u = [48] ∧ n = 0 ∨ u ≠ [] ∧ Canonical u ∧ digitsValue u = n := by
  unfold arrayIndex? at h
  split at h
  · cases h
  · rename_i d
    split at h <;> cases h
    rename_i hd
    by_cases h48 : d = 48
    · exact .inl ⟨by rw [h48], by rw [h48]; rfl⟩
    · refine .inr ⟨List.cons_ne_nil _ _, ⟨fun x hx => ?_, fun hx => h48 (Option.some.inj hx)⟩, by simp [digitsValue]⟩
      exact List.mem_singleton.mp hx ▸ toNat_of_isDigit hd
  · rename_i d rest _
    simp only [Bool.or_eq_true, beq_iff_eq, Bool.not_eq_true', decide_eq_true_eq] at h
    split at h
    · cases h
    · rename_i hno
      split at h <;> cases h
      simp only [not_or, Bool.not_eq_false] at hno
      obtain ⟨⟨⟨h48, hd⟩, -⟩, hrest⟩ := hno
      refine .inr ⟨List.cons_ne_nil _ _, ⟨fun x hx => ?_, fun hx => h48 (Option.some.inj hx)⟩, rfl⟩
      rcases List.mem_cons.mp hx with rfl | hx
      · exact toNat_of_isDigit hd
      · exact toNat_of_isDigit (List.all_eq_true.mp hrest x hx)

theorem arrayIndex?_inj {u v : Units} {n : Nat} (hu : arrayIndex? u = some n) (hv : arrayIndex? v = some n) :
    u = v := by
  rcases arrayIndex?_some hu with ⟨rfl, rfl⟩ | ⟨hne, hcu, hn⟩ <;>
    rcases arrayIndex?_some hv with ⟨rfl, hn'⟩ | ⟨hne', hcv, hn'⟩
  · rfl
  · exact absurd hn' (Nat.ne_of_gt (hcv.pos hne'))
  · exact absurd (hn.trans hn') (Nat.ne_of_gt (hcu.pos hne))
  · exact hcu.ext hcv (hn.trans hn'.symm)

end Text.Units

namespace Script.Key

theorem ofUnits_injective : Function.Injective ofUnits := fun u v h => by
  unfold ofUnits at h
  rcases hu : Units.arrayIndex? u with - | n <;> rcases hv : Units.arrayIndex? v with - | m <;>
    rw [hu, hv] at h <;> cases h
  · rfl
  · exact Units.arrayIndex?_inj hu hv

/-- **Different names are different keys.** -/
theorem ofString_injective : Function.Injective ofString := fun _ _ h =>
  Units.ofString_injective (ofUnits_injective h)

end Script.Key

/-! ### The last entry of a kind -/

/-- The position of the last entry that is such a member, or `before`. -/
def lastOf (r : MemberRoute) (before : Option Nat) (entries : List (Option MemberRoute × Nat)) : Option Nat :=
  entries.foldl (fun last x => if x.1 = some r then some x.2 else last) before

@[simp] theorem lastOf_nil (r : MemberRoute) (before : Option Nat) : lastOf r before [] = before := rfl

@[simp] theorem lastOf_cons (r : MemberRoute) (before : Option Nat) (x : Option MemberRoute × Nat)
    (entries : List (Option MemberRoute × Nat)) :
    lastOf r before (x :: entries) = lastOf r (if x.1 = some r then some x.2 else before) entries := rfl

theorem lastOf_zipIdx (r : MemberRoute) (routes : List (Option MemberRoute)) (start : Nat) (before : Option Nat)
    (n : Nat) : lastOf r before (routes.zipIdx start) = some n ↔
      (∃ i, n = start + i ∧ routes[i]? = some (some r) ∧ ∀ j : Nat, i < j → routes[j]? ≠ some (some r)) ∨
        before = some n ∧ ∀ j : Nat, routes[j]? ≠ some (some r) := by
  induction routes generalizing start before with
  | nil => simp
  | cons x routes ih =>
    rw [List.zipIdx_cons, lastOf_cons, ih]
    constructor
    · rintro (⟨i, rfl, hi, hlater⟩ | ⟨hbefore, hnone⟩)
      · refine .inl ⟨i + 1, by omega, hi, fun j hj => ?_⟩
        cases j with
        | zero => omega
        | succ j => exact hlater j (by omega)
      · dsimp only at hbefore
        split at hbefore
        · rename_i hx
          cases hbefore
          refine .inl ⟨0, rfl, congrArg some hx, fun j hj => ?_⟩
          cases j with
          | zero => omega
          | succ j => exact hnone j
        · rename_i hx
          refine .inr ⟨hbefore, fun j => ?_⟩
          cases j with
          | zero => exact fun h => hx (Option.some.inj h)
          | succ j => exact hnone j
    · rintro (⟨i, rfl, hi, hlater⟩ | ⟨rfl, hnone⟩)
      · cases i with
        | zero =>
          refine .inr ⟨?_, fun j => hlater (j + 1) (by omega)⟩
          rw [if_pos (Option.some.inj hi)]
          rfl
        | succ i => exact .inl ⟨i, by omega, hi, fun j hj => hlater (j + 1) (by omega)⟩
      · refine .inr ⟨if_neg fun h => hnone 0 (congrArg some h), fun j => hnone (j + 1)⟩

/-- The positions that stand under a name. -/
structure Entries where
  method : Option Nat
  getter : Option Nat
  setter : Option Nat
  deriving DecidableEq

/-- Nothing stands under the name. -/
def Entries.empty : Entries := ⟨none, none, none⟩

namespace ClassDescriptor

/-- The position of the last entry of this kind under a name. -/
def last? (d : ClassDescriptor) (kind : MemberKind) (isStatic : Bool) (name : String) : Option Nat :=
  lastOf ⟨name, kind, isStatic⟩ none d.routes.zipIdx

/-- What stands under a name, of the class itself or of its instances. -/
def entries (d : ClassDescriptor) (isStatic : Bool) (name : String) : Entries :=
  ⟨d.last? .method isStatic name, d.last? .getter isStatic name, d.last? .setter isStatic name⟩

/-- **The last entry of a kind**: a member of the list with that name and those flags, and none after it. -/
theorem last?_eq_some {d : ClassDescriptor} {kind : MemberKind} {isStatic : Bool} {name : String} {n : Nat} :
    d.last? kind isStatic name = some n ↔
      d.routes[n]? = some (some ⟨name, kind, isStatic⟩) ∧
        ∀ j : Nat, n < j → d.routes[j]? ≠ some (some ⟨name, kind, isStatic⟩) := by
  rw [last?, lastOf_zipIdx]
  simp

end ClassDescriptor

/-! ### Accessors in pairs -/

namespace AccessorPair

/-- One side of a pair. -/
def side (p : AccessorPair) : MemberKind → Option Nat
  | .getter => p.getter
  | .setter => p.setter
  | .method => none

theorem side_assign (p : AccessorPair) {kind : MemberKind} (hkind : kind ≠ .method) (n : Nat) (k : MemberKind) :
    (p.assign kind n).side k = if kind = k then some n else p.side k := by
  cases kind <;> cases k <;> first | rfl | exact absurd rfl hkind

theorem assign_key (p : AccessorPair) (kind : MemberKind) (n : Nat) :
    (p.assign kind n).name = p.name ∧ (p.assign kind n).isStatic = p.isStatic := by
  cases kind <;> exact ⟨rfl, rfl⟩

/-- The pair of a name. -/
def find (isStatic : Bool) (name : String) (pairs : List AccessorPair) : Option AccessorPair :=
  pairs.find? fun p => p.isStatic == isStatic && p.name == name

/-- A side of the pair of a name, if the name has a pair. -/
def sideOf (k : MemberKind) (isStatic : Bool) (name : String) (pairs : List AccessorPair) : Option Nat :=
  (find isStatic name pairs).bind (side · k)

theorem find_cons (isStatic : Bool) (name : String) (p : AccessorPair) (pairs : List AccessorPair) :
    find isStatic name (p :: pairs)
      = if p.isStatic = isStatic ∧ p.name = name then some p else find isStatic name pairs := by
  rw [find, List.find?_cons]
  by_cases h : p.isStatic = isStatic ∧ p.name = name
  · simp [h]
  · rw [if_neg h]
    simp only [show (p.isStatic == isStatic && p.name == name) = false by simpa using h]
    rfl

theorem sideOf_cons (k : MemberKind) (isStatic : Bool) (name : String) (p : AccessorPair)
    (pairs : List AccessorPair) :
    sideOf k isStatic name (p :: pairs)
      = if p.isStatic = isStatic ∧ p.name = name then p.side k else sideOf k isStatic name pairs := by
  rw [sideOf, find_cons]
  split <;> rfl

theorem isFor_iff {p : AccessorPair} {r : MemberRoute} :
    p.isFor r = true ↔ p.name = r.name ∧ p.isStatic = r.isStatic := by
  simp [isFor]

/-- Entering an accessor sets its own side of its own name. -/
theorem sideOf_enter {r : MemberRoute} (hkind : r.kind ≠ .method) (n : Nat) (k : MemberKind) (isStatic : Bool)
    (name : String) (pairs : List AccessorPair) :
    sideOf k isStatic name (enter r n pairs)
      = if r = ⟨name, k, isStatic⟩ then some n else sideOf k isStatic name pairs := by
  obtain ⟨rname, rkind, rstatic⟩ := r
  simp only [MemberRoute.mk.injEq]
  induction pairs with
  | nil =>
    rw [enter, sideOf_cons, side_assign _ hkind, (assign_key _ _ _).1, (assign_key _ _ _).2]
    by_cases hkey : rstatic = isStatic ∧ rname = name
    · obtain ⟨rfl, rfl⟩ := hkey
      cases k <;> simp [sideOf, find, side]
    · rw [if_neg hkey, if_neg fun h => hkey ⟨h.2.2, h.1⟩]
  | cons p pairs ih =>
    rw [enter, sideOf_cons]
    by_cases hp : p.isFor ⟨rname, rkind, rstatic⟩ = true
    · obtain ⟨hname, hstatic⟩ := isFor_iff.mp hp
      rw [if_pos hp, sideOf_cons, side_assign _ hkind, (assign_key _ _ _).1, (assign_key _ _ _).2, hname, hstatic]
      by_cases hkey : rstatic = isStatic ∧ rname = name
      · simp [hkey]
      · rw [if_neg hkey, if_neg hkey, if_neg fun h => hkey ⟨h.2.2, h.1⟩]
    · rw [if_neg hp, sideOf_cons, ih]
      by_cases hkey : p.isStatic = isStatic ∧ p.name = name
      · rw [if_pos hkey, if_pos hkey,
          if_neg fun h => hp (isFor_iff.mpr ⟨hkey.2.trans h.1.symm, hkey.1.trans h.2.2.symm⟩)]
      · rw [if_neg hkey, if_neg hkey]

/-- Each name has one pair, and each pair at least one side. -/
structure Proper (pairs : List AccessorPair) : Prop where
  once : pairs.Pairwise fun p q => p.isStatic = q.isStatic → p.name ≠ q.name
  sided : ∀ p ∈ pairs, p.getter.isSome = true ∨ p.setter.isSome = true

namespace Proper

variable {pairs : List AccessorPair}

theorem nil : Proper [] := ⟨.nil, fun _ h => absurd h List.not_mem_nil⟩

theorem tail {p : AccessorPair} (h : Proper (p :: pairs)) : Proper pairs :=
  ⟨h.once.of_cons, fun q hq => h.sided q (List.mem_cons_of_mem _ hq)⟩

/-- After the first pair, its name has none. -/
theorem find_tail {p : AccessorPair} (h : Proper (p :: pairs)) : find p.isStatic p.name pairs = none := by
  rw [find, List.find?_eq_none]
  intro q hq
  simp only [Bool.and_eq_true, beq_iff_eq, not_and]
  exact fun hs hn => List.rel_of_pairwise_cons h.once hq hs.symm hn.symm

/-- A pair that an accessor is entered in is one that was there, or has its name. -/
theorem mem_enter {r : MemberRoute} {n : Nat} {q : AccessorPair} (hq : q ∈ enter r n pairs) :
    (∃ p ∈ pairs, p.name = q.name ∧ p.isStatic = q.isStatic) ∨ q.name = r.name ∧ q.isStatic = r.isStatic := by
  induction pairs with
  | nil =>
    cases List.mem_singleton.mp hq
    exact .inr (assign_key _ _ _)
  | cons p pairs ih =>
    rw [enter] at hq
    split at hq <;> rcases List.mem_cons.mp hq with rfl | hq
    · obtain ⟨hname, hstatic⟩ := assign_key p r.kind n
      exact .inl ⟨p, List.mem_cons_self, hname.symm, hstatic.symm⟩
    · exact .inl ⟨q, List.mem_cons_of_mem _ hq, rfl, rfl⟩
    · exact .inl ⟨q, List.mem_cons_self, rfl, rfl⟩
    · exact (ih hq).imp_left fun ⟨p', hp', hkey⟩ => ⟨p', List.mem_cons_of_mem _ hp', hkey⟩

theorem sided_assign (p : AccessorPair) {kind : MemberKind} (hkind : kind ≠ .method) (n : Nat) :
    (p.assign kind n).getter.isSome = true ∨ (p.assign kind n).setter.isSome = true := by
  cases kind with
  | method => exact absurd rfl hkind
  | getter => exact .inl rfl
  | setter => exact .inr rfl

theorem entered (h : Proper pairs) {r : MemberRoute} (hkind : r.kind ≠ .method) (n : Nat) :
    Proper (enter r n pairs) := by
  induction pairs with
  | nil =>
    exact ⟨List.pairwise_singleton _ _, fun q hq => List.mem_singleton.mp hq ▸ sided_assign _ hkind n⟩
  | cons p pairs ih =>
    have hrest := ih h.tail
    rw [enter]
    split
    · obtain ⟨hname, hstatic⟩ := assign_key p r.kind n
      refine ⟨List.pairwise_cons.mpr ⟨fun q hq => ?_, h.once.of_cons⟩, fun q hq => ?_⟩
      · rw [hname, hstatic]
        exact List.rel_of_pairwise_cons h.once hq
      · rcases List.mem_cons.mp hq with rfl | hq
        · exact sided_assign p hkind n
        · exact h.tail.sided q hq
    · rename_i hp
      refine ⟨List.pairwise_cons.mpr ⟨fun q hq hs hn => ?_, hrest.once⟩, fun q hq => ?_⟩
      · rcases mem_enter hq with ⟨p', hp', hname, hstatic⟩ | ⟨hname, hstatic⟩
        · exact List.rel_of_pairwise_cons h.once hp' (hs.trans hstatic.symm) (hn.trans hname.symm)
        · exact hp (isFor_iff.mpr ⟨hn.trans hname, hs.trans hstatic⟩)
      · rcases List.mem_cons.mp hq with rfl | hq
        · exact h.sided _ List.mem_cons_self
        · exact hrest.sided q hq

end Proper

/-- Accessors are entered one by one. -/
theorem foldl_enter {k : MemberKind} (hk : k ≠ .method) (entries : List (Option MemberRoute × Nat))
    {pairs : List AccessorPair} (h : Proper pairs) :
    let all := entries.foldl (fun pairs r =>
      match r.1 with
      | some route => if route.kind == .method then pairs else enter route r.2 pairs
      | none => pairs) pairs
    Proper all ∧ ∀ isStatic name,
      sideOf k isStatic name all = lastOf ⟨name, k, isStatic⟩ (sideOf k isStatic name pairs) entries := by
  induction entries generalizing pairs with
  | nil => exact ⟨h, fun _ _ => rfl⟩
  | cons x entries ih =>
    obtain ⟨route, n⟩ := x
    simp only [List.foldl_cons, lastOf_cons]
    cases route with
    | none => exact ih h
    | some r =>
      by_cases hkind : r.kind = .method
      · have hother : ∀ isStatic name, ¬ some r = some ⟨name, k, isStatic⟩ := by
          rintro isStatic name ⟨⟩
          exact hk hkind
        simp only [hkind, beq_self_eq_true, if_true, if_neg (hother _ _)]
        exact ih h
      · obtain ⟨hproper, hsides⟩ := ih (h.entered hkind n)
        simp only [beq_false_of_ne hkind, Bool.false_eq_true, if_false]
        refine ⟨hproper, fun isStatic name => ?_⟩
        rw [hsides, sideOf_enter hkind]
        simp only [Option.some.injEq]

/-- **The pairs of a class**: each name has one, with the last getter and the last setter of the name. -/
theorem ofRoutes_sides (d : ClassDescriptor) : Proper (ofRoutes d.routes) ∧ ∀ isStatic name,
    sideOf .getter isStatic name (ofRoutes d.routes) = d.last? .getter isStatic name ∧
      sideOf .setter isStatic name (ofRoutes d.routes) = d.last? .setter isStatic name := by
  obtain ⟨hproper, hgetters⟩ := foldl_enter (k := .getter) nofun d.routes.zipIdx Proper.nil
  obtain ⟨-, hsetters⟩ := foldl_enter (k := .setter) nofun d.routes.zipIdx Proper.nil
  exact ⟨hproper, fun isStatic name => ⟨hgetters isStatic name, hsetters isStatic name⟩⟩

end AccessorPair

end ScriptBridge
