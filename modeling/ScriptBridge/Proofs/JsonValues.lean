import Mathlib.Data.List.Induction
import Mathlib.Data.String.Basic
import ScriptBridge.Proofs.JsonReaders

/-!
Values of free form.

A tree stands for a value when it is `Proper`: the members of its objects are in the order of their keys, each key
once, and what counts as a negative number is below zero.  The reader of any value takes the text of such a tree for
the tree itself, as long as no number in it is a float (`takes_tree`).  A float is out of this, because its text is
read by way of the decimal digits, which need not come back to the same double.
-/
namespace ScriptBridge

open Source JsonTree

namespace JsonTree

/-! ### Parts -/

mutual

/-- The tree, and all that stands in it. -/
def parts : JsonTree → List JsonTree
  | .list items => .list items :: itemsParts items
  | .object members => .object members :: membersParts members
  | t => [t]

def itemsParts : List JsonTree → List JsonTree
  | [] => []
  | t :: rest => t.parts ++ itemsParts rest

def membersParts : List (String × JsonTree) → List JsonTree
  | [] => []
  | (_, t) :: rest => t.parts ++ membersParts rest

end

/-- The members are in the order of their keys, each key once. -/
def Sorted (members : List (String × JsonTree)) : Prop := members.Pairwise fun m m' => m.1 < m'.1

instance (members : List (String × JsonTree)) : Decidable (Sorted members) :=
  inferInstanceAs (Decidable (members.Pairwise _))

/-- Held as values are held, what stands in the tree apart. -/
def IsProper : JsonTree → Prop
  | .number (.negative n) => n < 0
  | .object members => Sorted members
  | _ => True

instance : DecidablePred IsProper
  | .number (.negative n) => inferInstanceAs (Decidable (n < 0))
  | .object members => inferInstanceAs (Decidable (Sorted members))
  | .number (.unsigned _) | .number (.float _) => isTrue trivial
  | .null | .bool _ | .text _ | .list _ => isTrue trivial

def isFloat : JsonTree → Bool
  | .number (.float _) => true
  | _ => false

/-- Held as values are held: members in the order of their keys, and negative numbers below zero. -/
def Proper (t : JsonTree) : Prop := ∀ s ∈ t.parts, s.IsProper

instance (t : JsonTree) : Decidable t.Proper := inferInstanceAs (Decidable (∀ s ∈ t.parts, s.IsProper))

/-- No number in the tree is a float. -/
def Whole (t : JsonTree) : Prop := ∀ s ∈ t.parts, s.isFloat = false

instance (t : JsonTree) : Decidable t.Whole := inferInstanceAs (Decidable (∀ s ∈ t.parts, s.isFloat = false))

/-! ### Keys in order -/

theorem keyBefore_iff {a b : List Char} : keyBefore a b ↔ a < b := by
  induction a generalizing b with
  | nil => cases b <;> simp [keyBefore]
  | cons c a ih =>
    cases b with
    | nil => simp [keyBefore]
    | cons d b =>
      rw [keyBefore, List.cons_lt_cons_iff, ← ih]
      by_cases hcd : c = d
      · simp [hcd]
      · simp [hcd]
        rfl

variable {key k : String} {v w : JsonTree} {members : List (String × JsonTree)}

/-- Entering goes by the order of texts. -/
theorem enter_cons : enter key v ((k, w) :: members)
    = if k = key then (key, v) :: members
      else if key < k then (key, v) :: (k, w) :: members
      else (k, w) :: enter key v members := by
  rw [enter]
  simp only [beq_iff_eq, keyBefore_iff, String.lt_iff_toList_lt]

/-- A member whose key comes after all others is entered at the end. -/
theorem enter_last (h : ∀ m ∈ members, m.1 < key) : enter key v members = members ++ [(key, v)] := by
  induction members with
  | nil => rfl
  | cons m members ih =>
    have hm : m.1 < key := h m List.mem_cons_self
    rw [enter_cons, if_neg hm.ne, if_neg hm.asymm, ih fun m' hm' => h m' (List.mem_cons_of_mem _ hm')]
    rfl

theorem ofMembers_of_sorted (h : Sorted members) : ofMembers members = .object members := by
  suffices hfold : members.foldl (fun sorted m => enter m.1 m.2 sorted) [] = members by rw [ofMembers, hfold]
  induction members using List.reverseRecOn with
  | nil => rfl
  | append_singleton members m ih =>
    obtain ⟨hbefore, -, hlast⟩ := List.pairwise_append.mp h
    rw [List.foldl_append, ih hbefore, List.foldl_cons, List.foldl_nil,
      enter_last fun m' hm' => hlast m' hm' m (List.mem_singleton.mpr rfl)]

/-! ### Texts that come back -/

/-- Held as values are held, and no float, what stands in the tree apart. -/
def ComesBack (t : JsonTree) : Prop := t.IsProper ∧ t.isFloat = false

theorem comesBack_of_proper {t : JsonTree} (hproper : t.Proper) (hwhole : t.Whole) : ∀ s ∈ t.parts, s.ComesBack :=
  fun s hs => ⟨hproper s hs, hwhole s hs⟩

theorem wholeNumeral_of_comesBack {n : JsonNumeral} (h : (JsonTree.number n).ComesBack) : WholeNumeral n := by
  cases n with
  | unsigned => trivial
  | negative => exact h.1
  | float => cases h.2

end JsonTree

namespace JsonReader

theorem opens_of_comesBack {t : JsonTree} (h : ∀ s ∈ t.parts, s.ComesBack) (g : Spacing) (level : Nat) :
    Opens (laid g level t) := by
  cases t with
  | null => exact opens_laid .null g level
  | bool b => exact opens_laid (.bool b) g level
  | number n => exact opens_laid (.number (wholeNumeral_of_comesBack (h _ List.mem_cons_self))) g level
  | text s => exact opens_laid (.text s) g level
  | list items => exact ⟨_, _, rfl, rfl, by decide⟩
  | object members => exact ⟨_, _, rfl, rfl, by decide⟩

variable {g : Spacing} {level depth fuel : Nat} {first : Bool} {blanks rest : Source}

theorem treeOf_plain {t : JsonTree} (ht : Plain t) (hb : Blank blanks) (hend : Ends rest)
    (hfuel : 2 * (laid g level t).length ≤ fuel) :
    treeOf fuel depth (blanks ++ (laid g level t ++ rest)) = .ok (t, rest) := by
  have hpos := (opens_laid ht g level).length_pos
  obtain ⟨fuel, rfl⟩ := Nat.exists_eq_add_one_of_ne_zero (n := fuel) (by omega)
  rw [treeOf, head_append hb, head_laid ht hend]
  cases ht <;> rfl

-- each level costs one of the fuel and so does each item, and both have signs of their own in the text
mutual

theorem treeOf_laid : ∀ (t : JsonTree) (level fuel : Nat) {depth : Nat} {blanks rest : Source},
    (∀ s ∈ t.parts, s.ComesBack) → Blank blanks → t.depth < depth → Ends rest →
    2 * (laid g level t).length ≤ fuel →
    treeOf fuel depth (blanks ++ (laid g level t ++ rest)) = .ok (t, rest)
  | .null, _, _, _, _, _, _, hb, _, hend, hfuel => treeOf_plain .null hb hend hfuel
  | .bool b, _, _, _, _, _, _, hb, _, hend, hfuel => treeOf_plain (.bool b) hb hend hfuel
  | .number n, _, _, _, _, _, h, hb, _, hend, hfuel =>
    treeOf_plain (.number (wholeNumeral_of_comesBack (h _ List.mem_cons_self))) hb hend hfuel
  | .text s, _, _, _, _, _, _, hb, _, hend, hfuel => treeOf_plain (.text s) hb hend hfuel
  | .list items, level, fuel, depth, blanks, rest, h, hb, hdepth, _, hfuel => by
    rw [parts, List.forall_mem_cons] at h
    obtain ⟨inner, hdescend, hinner⟩ := descend_of_lt hdepth
    rw [laid, List.length_append, List.length_cons, List.length_singleton] at hfuel
    obtain ⟨fuel, rfl⟩ := Nat.exists_eq_add_one_of_ne_zero (n := fuel) (by omega)
    obtain ⟨closing, hclosing, hitems⟩ := treeItems_laid items level fuel true rest h.2 hinner (by omega)
    rw [laid_list_append, treeOf, head_append hb, head_list]
    simp only [hdescend, bind, Except.bind, hitems, endList_end hclosing]
    rfl
  | .object members, level, fuel, depth, blanks, rest, h, hb, hdepth, _, hfuel => by
    rw [parts, List.forall_mem_cons] at h
    have hsorted : Sorted members := h.1.1
    obtain ⟨inner, hdescend, hinner⟩ := descend_of_lt hdepth
    rw [laid, List.length_append, List.length_cons, List.length_singleton] at hfuel
    obtain ⟨fuel, rfl⟩ := Nat.exists_eq_add_one_of_ne_zero (n := fuel) (by omega)
    obtain ⟨closing, hclosing, hmembers⟩ := treeMembers_laid members level fuel true rest h.2 hinner (by omega)
    rw [laid_object_append, treeOf, head_append hb, head_object]
    simp only [hdescend, bind, Except.bind, hmembers, endObject_end hclosing, ofMembers_of_sorted hsorted]
    rfl

theorem treeItems_laid : ∀ (items : List JsonTree) (level fuel : Nat) (first : Bool) (rest : Source) {depth : Nat},
    (∀ s ∈ itemsParts items, s.ComesBack) → itemsDepth items < depth →
    2 * (laidItems g level first items).length < fuel →
    ∃ closing, Blank closing ∧ treeItems fuel depth first (laidItems g level first items ++ some ']' :: rest)
      = .ok (items, closing ++ some ']' :: rest)
  | [], level, fuel, first, rest, depth, _, _, hfuel => by
    obtain ⟨fuel, rfl⟩ := Nat.exists_eq_add_one_of_ne_zero (n := fuel) (by omega)
    have hclosing : Blank (laidItems g level first []) := blank_laidItems_nil
    refine ⟨_, hclosing, ?_⟩
    rw [treeItems, nextItem_end hclosing]
    rfl
  | t :: items, level, fuel, first, rest, depth, h, hdepth, hfuel => by
    rw [itemsParts, List.forall_mem_append] at h
    rw [itemsDepth, Nat.max_lt] at hdepth
    have hopens := opens_of_comesBack h.1 g (level + 1)
    have hpos := hopens.length_pos
    simp only [laidItems, List.length_append] at hfuel
    obtain ⟨fuel, rfl⟩ := Nat.exists_eq_add_one_of_ne_zero (n := fuel) (by omega)
    obtain ⟨closing, hclosing, hmore⟩ := treeItems_laid items level fuel false rest h.2 hdepth.2 (by omega)
    have hread := treeOf_laid t (level + 1) fuel h.1 blank_nil hdepth.1 (ends_laidItems g level items rest)
      (by omega)
    refine ⟨closing, hclosing, ?_⟩
    simp only [laidItems, List.append_assoc]
    rw [treeItems, nextItem_comma (blank_line g _) hopens]
    rw [List.nil_append] at hread
    simp only [bind, Except.bind, hread, hmore]
    rfl

theorem treeMembers_laid : ∀ (members : List (String × JsonTree)) (level fuel : Nat) (first : Bool) (rest : Source)
    {depth : Nat}, (∀ s ∈ membersParts members, s.ComesBack) → membersDepth members < depth →
    2 * (laidMembers g level first members).length < fuel →
    ∃ closing, Blank closing ∧
      treeMembers fuel depth first (laidMembers g level first members ++ some '\x7d' :: rest)
        = .ok (members, closing ++ some '\x7d' :: rest)
  | [], level, fuel, first, rest, depth, _, _, hfuel => by
    obtain ⟨fuel, rfl⟩ := Nat.exists_eq_add_one_of_ne_zero (n := fuel) (by omega)
    have hclosing : Blank (laidMembers g level first []) := blank_laidMembers_nil
    refine ⟨_, hclosing, ?_⟩
    rw [treeMembers, nextKey_end hclosing]
    rfl
  | (k, t) :: members, level, fuel, first, rest, depth, h, hdepth, hfuel => by
    rw [membersParts, List.forall_mem_append] at h
    rw [membersDepth, Nat.max_lt] at hdepth
    simp only [laidMembers, List.length_append, List.length_cons] at hfuel
    obtain ⟨fuel, rfl⟩ := Nat.exists_eq_add_one_of_ne_zero (n := fuel) (by omega)
    obtain ⟨closing, hclosing, hmore⟩ := treeMembers_laid members level fuel false rest h.2 hdepth.2 (by omega)
    have hread := treeOf_laid t (level + 1) fuel h.1 (blank_value g) hdepth.1 (ends_laidMembers g level members rest)
      (by omega)
    refine ⟨closing, hclosing, ?_⟩
    rw [laidMembers_cons_append, treeMembers, nextKey_comma (blank_line g _)]
    simp only [bind, Except.bind, quoted_flatMap, colon_cons, hread, hmore]
    rfl

end

/-- **A value of free form comes back.** -/
theorem takes_tree {t : JsonTree} (hproper : t.Proper) (hwhole : t.Whole) : Takes tree t t where
  opens := opens_of_comesBack (comesBack_of_proper hproper hwhole)
  reads g level depth blanks rest hb hdepth hend := by
    refine treeOf_laid t level _ (comesBack_of_proper hproper hwhole) hb hdepth hend ?_
    simp only [List.length_append]
    omega

end JsonReader

end ScriptBridge
