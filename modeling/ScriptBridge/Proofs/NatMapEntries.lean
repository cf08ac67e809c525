import Mathlib.Data.List.Nodup
import Mathlib.Data.List.Perm.Basic
import Mathlib.Tactic.Ring
import ScriptBridge.Data.NatMap

/-!
The lists of a map.

A map is a binary trie, and its two lists are walks over that trie: `entries` in the order of the
walk, `toList` by rising index.  Both hold exactly the bindings that `get?` shows, each index once:

    e ∈ t.entries  ↔  t.get? e.1 = some e.2

The walk carries an affine renaming `k ↦ a k + b` of indices; the two branches of a node take the
odd and the even places of it, so for `0 < a` no index is met twice.
-/
namespace ScriptBridge.Data.NatMap

variable {α : Type}

/-! ### Branches of a node -/

theorem get?_node_left (l : NatMap α) (v : Option α) (r : NatMap α) (k : Nat) :
    (node l v r).get? (2 * k + 1) = l.get? k := by
  have half : (2 * k + 1) / 2 = k := by omega
  simp [get?, half]

theorem get?_node_right (l : NatMap α) (v : Option α) (r : NatMap α) (k : Nat) :
    (node l v r).get? (2 * k + 2) = r.get? k := by
  simp [get?]

/-- An index is the root's, or lies in one of the branches. -/
theorem index_cases (k : Nat) : k = 0 ∨ (∃ j, k = 2 * j + 1) ∨ ∃ j, k = 2 * j + 2 := by
  rcases Nat.eq_zero_or_pos k with hk | hk
  · exact .inl hk
  · rcases Nat.mod_two_eq_zero_or_one k with hp | hp
    · exact .inr (.inr ⟨k / 2 - 1, by omega⟩)
    · exact .inr (.inl ⟨k / 2, by omega⟩)

/-! ### The walk -/

theorem entriesFrom_append (t : NatMap α) (a b : Nat) (acc : List (Nat × α)) :
    t.entriesFrom a b acc = t.entriesFrom a b [] ++ acc := by
  induction t generalizing a b acc with
  | empty => rfl
  | node l v r ihl ihr =>
    have hl := ihl (2 * a) (a + b)
    have hr := ihr (2 * a) (2 * a + b)
    cases v with
    | none =>
      show l.entriesFrom _ _ (r.entriesFrom _ _ acc) = l.entriesFrom _ _ (r.entriesFrom _ _ []) ++ acc
      rw [hl, hr acc, hl (r.entriesFrom _ _ []), List.append_assoc]
    | some x =>
      show (b, x) :: l.entriesFrom _ _ (r.entriesFrom _ _ acc)
        = (b, x) :: l.entriesFrom _ _ (r.entriesFrom _ _ []) ++ acc
      rw [hl, hr acc, hl (r.entriesFrom _ _ []), List.cons_append, List.append_assoc]

theorem entriesFrom_node (l : NatMap α) (v : Option α) (r : NatMap α) (a b : Nat) :
    (node l v r).entriesFrom a b []
      = (v.map fun x => (b, x)).toList
        ++ (l.entriesFrom (2 * a) (a + b) [] ++ r.entriesFrom (2 * a) (2 * a + b) []) := by
  cases v with
  | none =>
    show l.entriesFrom _ _ (r.entriesFrom _ _ []) = _
    rw [entriesFrom_append]
    rfl
  | some x =>
    show (b, x) :: l.entriesFrom _ _ (r.entriesFrom _ _ []) = _
    rw [entriesFrom_append]
    rfl

/-- The walk meets the bindings and nothing else. -/
theorem mem_entriesFrom (t : NatMap α) (a b : Nat) (e : Nat × α) :
    e ∈ t.entriesFrom a b [] ↔ ∃ k, e.1 = a * k + b ∧ t.get? k = some e.2 := by
  induction t generalizing a b with
  | empty => simp [entriesFrom]
  | node l v r ihl ihr =>
    rw [entriesFrom_node, List.mem_append, List.mem_append, ihl, ihr]
    constructor
    · rintro (hv | ⟨k, hk, hg⟩ | ⟨k, hk, hg⟩)
      · obtain ⟨x, rfl, hx⟩ : ∃ x, v = some x ∧ (b, x) = e := by simpa using hv
        exact ⟨0, by rw [← hx]; omega, by rw [← hx]; rfl⟩
      · exact ⟨2 * k + 1, by rw [hk]; ring, by rw [get?_node_left, hg]⟩
      · exact ⟨2 * k + 2, by rw [hk]; ring, by rw [get?_node_right, hg]⟩
    · rintro ⟨k, hk, hg⟩
      rcases index_cases k with rfl | ⟨j, rfl⟩ | ⟨j, rfl⟩
      · have hv : v = some e.2 := hg
        refine .inl ?_
        rw [hv]
        have : e = (b, e.2) := Prod.ext (by omega) rfl
        simpa using this
      · rw [get?_node_left] at hg
        exact .inr (.inl ⟨j, by rw [hk]; ring, hg⟩)
      · rw [get?_node_right] at hg
        exact .inr (.inr ⟨j, by rw [hk]; ring, hg⟩)

/-- No index is met twice. -/
theorem nodup_entriesFrom (t : NatMap α) {a : Nat} (ha : 0 < a) (b : Nat) :
    ((t.entriesFrom a b []).map Prod.fst).Nodup := by
  induction t generalizing a b with
  | empty => exact List.nodup_nil
  | node l v r ihl ihr =>
    have at_left : ∀ i ∈ (l.entriesFrom (2 * a) (a + b) []).map Prod.fst, ∃ k, i = a * (2 * k + 1) + b := by
      intro i hi
      obtain ⟨e, he, rfl⟩ := List.mem_map.mp hi
      obtain ⟨k, hk, -⟩ := (mem_entriesFrom l _ _ e).mp he
      exact ⟨k, by rw [hk]; ring⟩
    have at_right : ∀ i ∈ (r.entriesFrom (2 * a) (2 * a + b) []).map Prod.fst, ∃ k, i = a * (2 * k + 2) + b := by
      intro i hi
      obtain ⟨e, he, rfl⟩ := List.mem_map.mp hi
      obtain ⟨k, hk, -⟩ := (mem_entriesFrom r _ _ e).mp he
      exact ⟨k, by rw [hk]; ring⟩
    have branches : ((l.entriesFrom (2 * a) (a + b) [] ++ r.entriesFrom (2 * a) (2 * a + b) []).map
        Prod.fst).Nodup := by
      rw [List.map_append]
      refine List.Nodup.append (ihl (by omega) _) (ihr (by omega) _) ?_
      intro i hl hr
      obtain ⟨j, rfl⟩ := at_left i hl
      obtain ⟨k, hk⟩ := at_right _ hr
      have : 2 * j + 1 = 2 * k + 2 := Nat.eq_of_mul_eq_mul_left ha (by omega)
      omega
    rw [entriesFrom_node]
    cases v with
    | none => exact branches
    | some x =>
      show ((b, x) :: (l.entriesFrom _ _ [] ++ r.entriesFrom _ _ [])).map Prod.fst |>.Nodup
      rw [List.map_cons, List.nodup_cons]
      refine ⟨?_, branches⟩
      intro hb
      rw [List.map_append, List.mem_append] at hb
      -- the root's own index is `b`, and neither branch comes back to it
      rcases hb with hb | hb
      · obtain ⟨k, hk⟩ := at_left _ hb
        have : 0 < a * (2 * k + 1) := Nat.mul_pos ha (by omega)
        simp only at hk
        omega
      · obtain ⟨k, hk⟩ := at_right _ hb
        have : 0 < a * (2 * k + 2) := Nat.mul_pos ha (by omega)
        simp only at hk
        omega

/-! ### The sorted walk -/

theorem merge_perm (fuel : Nat) (xs ys : List (Nat × α)) : (merge fuel xs ys).Perm (xs ++ ys) := by
  induction fuel generalizing xs ys with
  | zero => exact .refl _
  | succ fuel ih =>
    rcases xs with - | ⟨x, xs⟩
    · exact .refl _
    · rcases ys with - | ⟨y, ys⟩
      · rw [List.append_nil]
        exact .refl _
      · rw [merge]
        split
        · exact (ih xs (y :: ys)).cons x
        · exact ((ih (x :: xs) ys).cons y).trans List.perm_middle.symm

theorem sortedFrom_perm (t : NatMap α) (a b : Nat) :
    (t.sortedFrom a b).Perm (t.entriesFrom a b []) := by
  induction t generalizing a b with
  | empty => exact .refl _
  | node l v r ihl ihr =>
    rw [entriesFrom_node]
    have branches (fuel : Nat) := (merge_perm fuel (l.sortedFrom (2 * a) (a + b))
      (r.sortedFrom (2 * a) (2 * a + b))).trans ((ihl _ _).append (ihr _ _))
    cases v with
    | none => exact branches _
    | some x => exact (branches _).cons (b, x)

/-! ### Bindings -/

theorem mem_entries {t : NatMap α} {e : Nat × α} : e ∈ t.entries ↔ t.get? e.1 = some e.2 := by
  rw [entries, mem_entriesFrom]
  constructor
  · rintro ⟨k, hk, hg⟩
    have : e.1 = k := by omega
    rwa [this]
  · intro hg
    exact ⟨e.1, by omega, hg⟩

theorem nodup_entries (t : NatMap α) : (t.entries.map Prod.fst).Nodup :=
  nodup_entriesFrom t Nat.one_pos 0

theorem toList_perm (t : NatMap α) : t.toList.Perm t.entries := sortedFrom_perm t 1 0

theorem mem_toList {t : NatMap α} {e : Nat × α} : e ∈ t.toList ↔ t.get? e.1 = some e.2 :=
  (toList_perm t).mem_iff.trans mem_entries

theorem nodup_toList (t : NatMap α) : (t.toList.map Prod.fst).Nodup :=
  ((toList_perm t).map Prod.fst).nodup_iff.mpr (nodup_entries t)

end ScriptBridge.Data.NatMap
