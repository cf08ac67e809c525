/-!
Finite maps from natural numbers, as binary tries.

Index `0` is the root, `2 k + 1` lies in the left branch at `k`, `2 k + 2` in the right one.
A map is read through `get?`; `get?_insert` and `get?_erase` say what the two updates do to
that view.
-/
namespace ScriptBridge.Data

inductive NatMap (α : Type) where
  | empty
  | node (left : NatMap α) (value : Option α) (right : NatMap α)

namespace NatMap

variable {α β : Type}

instance : Inhabited (NatMap α) := ⟨.empty⟩

def get? : NatMap α → Nat → Option α
  | .empty, _ => none
  | .node l v r, n =>
    if n == 0 then v else if n % 2 == 1 then l.get? (n / 2) else r.get? (n / 2 - 1)

/-- Overwrites index `n`; `fuel` bounds the depth of `n`. -/
def put (v : Option α) : Nat → Nat → NatMap α → NatMap α
  | 0, _, t => t
  | fuel + 1, n, t =>
    let (l, x, r) := match t with
      | .empty => (.empty, none, .empty)
      | .node l x r => (l, x, r)
    if n == 0 then .node l v r
    else if n % 2 == 1 then .node (put v fuel (n / 2) l) x r
    else .node l x (put v fuel (n / 2 - 1) r)

def insert (t : NatMap α) (n : Nat) (v : α) : NatMap α := put (some v) (n + 1) n t

def erase (t : NatMap α) (n : Nat) : NatMap α := if (t.get? n).isSome then put none (n + 1) n t else t

def contains (t : NatMap α) (n : Nat) : Bool := (t.get? n).isSome

/-- Entries in front of `acc`; index `k` of `t` stands for `a * k + b`. -/
def entriesFrom : NatMap α → Nat → Nat → List (Nat × α) → List (Nat × α)
  | .empty, _, _, acc => acc
  | .node l v r, a, b, acc =>
    let acc := r.entriesFrom (2 * a) (2 * a + b) acc
    let acc := l.entriesFrom (2 * a) (a + b) acc
    match v with
    | some x => (b, x) :: acc
    | none => acc

/-- All entries, in no particular order. -/
def entries (t : NatMap α) : List (Nat × α) := t.entriesFrom 1 0 []

/-- Two lists by rising index become one; `fuel` bounds their joint length. -/
def merge : Nat → List (Nat × α) → List (Nat × α) → List (Nat × α)
  | 0, xs, ys => xs ++ ys
  | _ + 1, [], ys => ys
  | _ + 1, xs, [] => xs
  | fuel + 1, x :: xs, y :: ys =>
    if x.1 ≤ y.1 then x :: merge fuel xs (y :: ys) else y :: merge fuel (x :: xs) ys

/-- Entries by rising index; index `k` of `t` stands for `a * k + b`. -/
def sortedFrom : NatMap α → Nat → Nat → List (Nat × α)
  | .empty, _, _ => []
  | .node l v r, a, b =>
    let left := l.sortedFrom (2 * a) (a + b)
    let right := r.sortedFrom (2 * a) (2 * a + b)
    let below := merge (left.length + right.length) left right
    match v with
    | some x => (b, x) :: below
    | none => below

/-- All entries, by rising index. -/
def toList (t : NatMap α) : List (Nat × α) := t.sortedFrom 1 0

def size (t : NatMap α) : Nat := t.entries.length

def modify (t : NatMap α) (n : Nat) (f : α → α) : NatMap α :=
  match t.get? n with
  | some v => t.insert n (f v)
  | none => t

def ofList (l : List (Nat × α)) : NatMap α := l.foldl (fun t e => t.insert e.1 e.2) .empty

/-! ### The view -/

@[simp] theorem get?_empty (n : Nat) : (empty : NatMap α).get? n = none := rfl

theorem get?_put (v : Option α) (fuel n m : Nat) (t : NatMap α) (h : n < fuel) :
    (put v fuel n t).get? m = if m = n then v else t.get? m := by
  induction fuel generalizing n m t with
  | zero => omega
  | succ fuel ih =>
    have key : ∀ (l : NatMap α) (x : Option α) (r : NatMap α),
        (if n == 0 then node l v r
          else if n % 2 == 1 then node (put v fuel (n / 2) l) x r
          else node l x (put v fuel (n / 2 - 1) r)).get? m
          = if m = n then v else (node l x r).get? m := by
      intro l x r
      rcases Nat.eq_zero_or_pos n with hn | hn
      · subst hn
        rcases Nat.eq_zero_or_pos m with hm | hm
        · simp [hm, get?]
        · simp [get?, Nat.pos_iff_ne_zero.mp hm]
      · have hn0 : n ≠ 0 := Nat.pos_iff_ne_zero.mp hn
        rcases Nat.mod_two_eq_zero_or_one n with hp | hp
        · simp only [hn0, hp, beq_iff_eq, if_false, Nat.zero_ne_one, get?]
          rcases Nat.eq_zero_or_pos m with hm | hm
          · simp [hm, Ne.symm hn0]
          · have hm0 : m ≠ 0 := Nat.pos_iff_ne_zero.mp hm
            rcases Nat.mod_two_eq_zero_or_one m with hq | hq
            · simp only [hm0, hq, if_false, Nat.zero_ne_one]
              rw [ih (n / 2 - 1) (m / 2 - 1) r (by omega)]
              by_cases hmn : m = n
              · simp [hmn]
              · have : m / 2 - 1 ≠ n / 2 - 1 := by omega
                simp [hmn, this]
            · have : m ≠ n := by omega
              simp [hm0, hq, this]
        · simp only [hn0, hp, beq_iff_eq, if_false, if_true, get?]
          rcases Nat.eq_zero_or_pos m with hm | hm
          · simp [hm, Ne.symm hn0]
          · have hm0 : m ≠ 0 := Nat.pos_iff_ne_zero.mp hm
            rcases Nat.mod_two_eq_zero_or_one m with hq | hq
            · have : m ≠ n := by omega
              simp [hm0, hq, this]
            · simp only [hm0, hq, if_false, if_true]
              rw [ih (n / 2) (m / 2) l (by omega)]
              by_cases hmn : m = n
              · simp [hmn]
              · have : m / 2 ≠ n / 2 := by omega
                simp [hmn, this]
    cases t with
    | empty =>
      have := key empty none empty
      simp only [put]
      rw [this]
      by_cases hmn : m = n <;> simp [hmn, get?]
    | node l x r => simpa only [put] using key l x r

@[simp] theorem get?_insert (t : NatMap α) (n m : Nat) (v : α) :
    (t.insert n v).get? m = if m = n then some v else t.get? m :=
  get?_put (some v) (n + 1) n m t (Nat.lt_succ_self n)

@[simp] theorem get?_erase (t : NatMap α) (n m : Nat) :
    (t.erase n).get? m = if m = n then none else t.get? m := by
  unfold erase
  split
  · exact get?_put none (n + 1) n m t (Nat.lt_succ_self n)
  · next h =>
    by_cases hmn : m = n
    · subst hmn
      simpa using h
    · simp [hmn]

end NatMap

end ScriptBridge.Data
