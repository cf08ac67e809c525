import Mathlib.Data.List.Perm.Basic
import Mathlib.Algebra.BigOperators.Group.List.Basic
import ScriptBridge.Proofs.LedgerEntries
import ScriptBridge.Proofs.NatMapEntries

/-!
The ledger over whole histories.

A run of operations leaves postings behind, one for each reference given or taken, and a handle's
count is what its postings add up to:

    refs of h  =  granted h + added h - released h - dropped h

Design.  Postings are read off the answers alone: an operation that was refused posts nothing, and
a bulk release posts one drop for each handle on its list that was still live.  `Counted` ties the
entries to the postings and `Listed` ties the cache and the frames to them; one operation preserves
both, and so does a run.

The bounds of `Admissible` are consumed in two places: the number of handles in
`Counted.enter`, where the next number must not come round, and the size of a count in
`Counted.add`.
-/
namespace ScriptBridge.Ledger

open Data

variable {α : Type}

/-! ### Operations and their answers -/

inductive Operation (α : Type) where
  | insert (v : α) (refs : UInt32)
  | stage (v : α)
  | addRef (h : Handle)
  | release (h : Handle)
  | pushFrame
  | popFrame
  | clearCache

inductive Answer (α : Type) where
  | issued (h : Handle)
  | done
  | freed (vs : List α)
  | refused (f : BridgeFault)

def Answer.values : Answer α → List α
  | .freed vs => vs
  | _ => []

/-- Does the operation make a new entry? -/
def Operation.issues : Operation α → Bool
  | .insert .. | .stage _ => true
  | _ => false

/-- One operation; a refused one leaves the ledger alone. -/
def perform (l : Ledger α) : Operation α → Answer α × Ledger α
  | .insert v n => (.issued (l.insert v n).1, (l.insert v n).2)
  | .stage v => (.issued (l.stage v).1, (l.stage v).2)
  | .addRef h =>
    match l.addRef h with
    | .ok l' => (.done, l')
    | .error f => (.refused f, l)
  | .release h =>
    match l.release h with
    | .ok (v, l') => (.freed v.toList, l')
    | .error f => (.refused f, l)
  | .pushFrame => (.done, l.pushFrame)
  | .popFrame => (.freed l.popFrame.1, l.popFrame.2)
  | .clearCache => (.freed l.clearCache.1, l.clearCache.2)

def run (l : Ledger α) : List (Operation α) → Ledger α
  | [] => l
  | o :: os => (l.perform o).2.run os

/-- All values a run hands back, in order. -/
def returns (l : Ledger α) : List (Operation α) → List α
  | [] => []
  | o :: os => (l.perform o).1.values ++ (l.perform o).2.returns os

/-! ### Postings -/

inductive Posting (α : Type) where
  | inserted (h : Handle) (v : α) (refs : UInt32)
  | staged (h : Handle) (v : α)
  | added (h : Handle)
  | released (h : Handle)
  /-- given back in bulk, with its frame or with the cache -/
  | dropped (h : Handle)

namespace Posting

def handle : Posting α → Handle
  | inserted h _ _ | staged h _ | added h | released h | dropped h => h

def entered : Posting α → Option (Handle × α)
  | inserted h v _ | staged h v => some (h, v)
  | _ => none

def stagedHandle : Posting α → Option Handle
  | staged h _ => some h
  | _ => none

/-- The references a new entry starts with. -/
def granted (h : Handle) : Posting α → Nat
  | inserted g _ n => if g = h then n.toNat else 0
  | staged g _ => if g = h then 1 else 0
  | _ => 0

def isAdded (h : Handle) : Posting α → Bool
  | added g => g == h
  | _ => false

def isReleased (h : Handle) : Posting α → Bool
  | released g => g == h
  | _ => false

def isDropped (h : Handle) : Posting α → Bool
  | dropped g => g == h
  | _ => false

end Posting

/-- The handles a bulk operation covers. -/
def covered (l : Ledger α) : Operation α → List Handle
  | .popFrame => l.frames.headD []
  | .clearCache => l.cache
  | _ => []

def postings (l : Ledger α) (o : Operation α) : List (Posting α) :=
  match o, (l.perform o).1 with
  | .insert v n, .issued h => [.inserted h v n]
  | .stage v, .issued h => [.staged h v]
  | .addRef h, .done => [.added h]
  | .release h, .freed _ => [.released h]
  | o, _ => ((l.covered o).filter l.contains).map .dropped

/-- Everything a run posts, in order. -/
def history (l : Ledger α) : List (Operation α) → List (Posting α)
  | [] => []
  | o :: os => l.postings o ++ (l.perform o).2.history os

def granted (h : Handle) (ps : List (Posting α)) : Nat := (ps.map (Posting.granted h)).sum

/-- Successful `addRef`s of `h`. -/
def added (h : Handle) (ps : List (Posting α)) : Nat := ps.countP (Posting.isAdded h)

/-- Successful `release`s of `h`. -/
def released (h : Handle) (ps : List (Posting α)) : Nat := ps.countP (Posting.isReleased h)

def dropped (h : Handle) (ps : List (Posting α)) : Nat := ps.countP (Posting.isDropped h)

def outstanding (h : Handle) (ps : List (Posting α)) : Int :=
  granted h ps + added h ps - released h ps - dropped h ps

/-- The handles given out, each with its value. -/
def entered (ps : List (Posting α)) : List (Handle × α) := ps.filterMap Posting.entered

def stagedHandles (ps : List (Posting α)) : List Handle := ps.filterMap Posting.stagedHandle

/-- The handles that the cache and the frames list. -/
def listed (l : Ledger α) : List Handle := l.cache ++ l.frames.flatten

/-- What a client of the ledger keeps to: entries start with at least one reference, the handles do
not run out, and no count outgrows its 32 bits. -/
structure Admissible (ops : List (Operation α)) : Prop where
  counted : ∀ v n, .insert v n ∈ ops → n ≠ 0
  few : ops.countP Operation.issues < 2 ^ 32 - 1
  bounded : ∀ pre, pre <+: ops → ∀ h, outstanding h (empty.history pre) ≤ 2 ^ 32 - 1

/-! ### Adding postings up -/

section Sums

variable (h : Handle) (ps qs : List (Posting α))

@[simp] theorem granted_append : granted h (ps ++ qs) = granted h ps + granted h qs := by
  simp [granted]

@[simp] theorem added_append : added h (ps ++ qs) = added h ps + added h qs :=
  List.countP_append

@[simp] theorem released_append : released h (ps ++ qs) = released h ps + released h qs :=
  List.countP_append

@[simp] theorem dropped_append : dropped h (ps ++ qs) = dropped h ps + dropped h qs :=
  List.countP_append

@[simp] theorem entered_append : entered (ps ++ qs) = entered ps ++ entered qs :=
  List.filterMap_append

@[simp] theorem stagedHandles_append :
    stagedHandles (ps ++ qs) = stagedHandles ps ++ stagedHandles qs :=
  List.filterMap_append

theorem outstanding_append :
    outstanding h (ps ++ qs) = outstanding h ps + outstanding h qs := by
  simp only [outstanding, granted_append, added_append, released_append, dropped_append]
  omega

end Sums

/-- A handle that no posting is about has nothing in any column. -/
theorem columns_of_absent {h : Handle} {ps : List (Posting α)} (ha : ∀ p ∈ ps, p.handle ≠ h) :
    granted h ps = 0 ∧ added h ps = 0 ∧ released h ps = 0 ∧ dropped h ps = 0 := by
  induction ps with
  | nil => exact ⟨rfl, rfl, rfl, rfl⟩
  | cons p ps ih =>
    obtain ⟨hg, ha', hr, hd⟩ := ih fun q hq => ha q (List.mem_cons_of_mem p hq)
    have hp : p.handle ≠ h := ha p List.mem_cons_self
    rw [granted] at hg
    rw [added] at ha'
    rw [released] at hr
    rw [dropped] at hd
    cases p <;>
      simp_all [granted, added, released, dropped, Posting.granted, Posting.isAdded,
        Posting.isReleased, Posting.isDropped, Posting.handle]

theorem outstanding_of_absent {h : Handle} {ps : List (Posting α)}
    (ha : ∀ p ∈ ps, p.handle ≠ h) : outstanding h ps = 0 := by
  obtain ⟨hg, ha', hr, hd⟩ := columns_of_absent ha
  rw [outstanding, hg, ha', hr, hd]
  rfl

theorem mem_entered {h : Handle} {v : α} {ps : List (Posting α)} (he : (h, v) ∈ entered ps) :
    ∃ p ∈ ps, p.handle = h := by
  obtain ⟨p, hp, hpe⟩ := List.mem_filterMap.mp he
  refine ⟨p, hp, ?_⟩
  cases p <;> simp_all [Posting.entered, Posting.handle]

theorem mem_stagedHandles {h : Handle} {ps : List (Posting α)} (hs : h ∈ stagedHandles ps) :
    ∃ p ∈ ps, p.handle = h := by
  obtain ⟨p, hp, hpe⟩ := List.mem_filterMap.mp hs
  refine ⟨p, hp, ?_⟩
  cases p <;> simp_all [Posting.stagedHandle, Posting.handle]

/-! ### Single postings -/

section Single

variable (g h : Handle) (v : α)

theorem outstanding_inserted (n : UInt32) :
    outstanding h [.inserted g v n] = if g = h then (n.toNat : Int) else 0 := by
  by_cases hg : g = h <;>
    simp [outstanding, granted, added, released, dropped, Posting.granted, Posting.isAdded,
      Posting.isReleased, Posting.isDropped, hg]

theorem outstanding_staged : outstanding h [.staged g v] = if g = h then 1 else 0 := by
  by_cases hg : g = h <;>
    simp [outstanding, granted, added, released, dropped, Posting.granted, Posting.isAdded,
      Posting.isReleased, Posting.isDropped, hg]

theorem outstanding_added :
    outstanding h [(.added g : Posting α)] = if g = h then 1 else 0 := by
  by_cases hg : g = h <;>
    simp [outstanding, granted, added, released, dropped, Posting.granted, Posting.isAdded,
      Posting.isReleased, Posting.isDropped, hg]

theorem outstanding_released :
    outstanding h [(.released g : Posting α)] = if g = h then -1 else 0 := by
  by_cases hg : g = h <;>
    simp [outstanding, granted, added, released, dropped, Posting.granted, Posting.isAdded,
      Posting.isReleased, Posting.isDropped, hg]

end Single

/-! ### Drops -/

section Drops

variable (h : Handle) {hs : List Handle}

theorem entered_drops (hs : List Handle) :
    entered (hs.map (Posting.dropped (α := α))) = [] := by
  rw [entered, List.filterMap_map]
  exact List.filterMap_eq_nil_iff.mpr fun _ _ => rfl

theorem stagedHandles_drops (hs : List Handle) :
    stagedHandles (hs.map (Posting.dropped (α := α))) = [] := by
  rw [stagedHandles, List.filterMap_map]
  exact List.filterMap_eq_nil_iff.mpr fun _ _ => rfl

theorem granted_drops (hs : List Handle) :
    granted h (hs.map (Posting.dropped (α := α))) = 0 := by
  induction hs with
  | nil => rfl
  | cons g hs ih => simpa [granted, Posting.granted] using ih

theorem added_drops (hs : List Handle) : added h (hs.map (Posting.dropped (α := α))) = 0 := by
  rw [added, List.countP_map]
  exact List.countP_eq_zero.mpr fun _ _ => by simp [Posting.isAdded]

theorem released_drops (hs : List Handle) :
    released h (hs.map (Posting.dropped (α := α))) = 0 := by
  rw [released, List.countP_map]
  exact List.countP_eq_zero.mpr fun _ _ => by simp [Posting.isReleased]

theorem dropped_drops (hn : hs.Nodup) :
    dropped h (hs.map (Posting.dropped (α := α))) = if h ∈ hs then 1 else 0 := by
  have hc : (Posting.isDropped h ∘ Posting.dropped (α := α)) = (· == h) := rfl
  rw [dropped, List.countP_map, hc]
  exact hn.count

theorem outstanding_drops (hn : hs.Nodup) :
    outstanding h (hs.map (Posting.dropped (α := α))) = if h ∈ hs then -1 else 0 := by
  rw [outstanding, granted_drops, added_drops, released_drops, dropped_drops h hn]
  by_cases hh : h ∈ hs
  · rw [if_pos hh, if_pos hh]
    rfl
  · rw [if_neg hh, if_neg hh]
    rfl

end Drops

/-! ### What each operation posts -/

section Postings

variable (l : Ledger α)

theorem postings_insert (v : α) (n : UInt32) :
    l.postings (.insert v n) = [.inserted ⟨l.next⟩ v n] := rfl

theorem postings_stage (v : α) : l.postings (.stage v) = [.staged ⟨l.next⟩ v] := by
  rw [← stage_fst l v]
  rfl

theorem perform_addRef_dead {h : Handle} (hd : l.entry? h = none) :
    l.perform (.addRef h) = (.refused (.invalidHandle h.id), l) ∧ l.postings (.addRef h) = [] := by
  have hp : l.perform (.addRef h) = (.refused (.invalidHandle h.id), l) := by
    simp only [perform, addRef_dead l hd]
  refine ⟨hp, ?_⟩
  unfold postings
  rw [hp]
  rfl

theorem perform_release_dead {h : Handle} (hd : l.entry? h = none) :
    l.perform (.release h) = (.refused (.invalidHandle h.id), l) ∧
      l.postings (.release h) = [] := by
  have hp : l.perform (.release h) = (.refused (.invalidHandle h.id), l) := by
    simp only [perform, release_dead l hd]
  refine ⟨hp, ?_⟩
  unfold postings
  rw [hp]
  rfl

theorem perform_addRef_live {h : Handle} {l' : Ledger α} (hr : l.addRef h = .ok l') :
    l.perform (.addRef h) = (.done, l') ∧ l.postings (.addRef h) = [.added h] := by
  have hp : l.perform (.addRef h) = (.done, l') := by
    simp only [perform, hr]
  refine ⟨hp, ?_⟩
  unfold postings
  rw [hp]

theorem perform_release_live {h : Handle} {v : Option α} {l' : Ledger α}
    (hr : l.release h = .ok (v, l')) :
    l.perform (.release h) = (.freed v.toList, l') ∧ l.postings (.release h) = [.released h] := by
  have hp : l.perform (.release h) = (.freed v.toList, l') := by
    simp only [perform, hr]
  refine ⟨hp, ?_⟩
  unfold postings
  rw [hp]

/-- A posting is about the handle given out just now, or about one that is live. -/
theorem live_of_mem_postings {o : Operation α} {p : Posting α} (hp : p ∈ l.postings o) :
    p.handle = ⟨l.next⟩ ∨ ∃ e, l.entry? p.handle = some e := by
  have hdrop : ∀ hs : List Handle, p ∈ (hs.filter l.contains).map Posting.dropped →
      ∃ e, l.entry? p.handle = some e := by
    intro hs hin
    obtain ⟨h, hh, rfl⟩ := List.mem_map.mp hin
    exact (contains_iff l).mp (List.mem_filter.mp hh).2
  cases o with
  | insert v n =>
    rw [postings_insert] at hp
    exact .inl (congrArg Posting.handle (List.mem_singleton.mp hp))
  | stage v =>
    rw [postings_stage] at hp
    exact .inl (congrArg Posting.handle (List.mem_singleton.mp hp))
  | addRef h =>
    rcases he : l.entry? h with - | e
    · rw [(perform_addRef_dead l he).2] at hp
      cases hp
    · obtain ⟨l', hr, -⟩ := addRef_live l he
      rw [(perform_addRef_live l hr).2] at hp
      rw [List.mem_singleton.mp hp]
      exact .inr ⟨e, he⟩
  | release h =>
    rcases he : l.entry? h with - | e
    · rw [(perform_release_dead l he).2] at hp
      cases hp
    · obtain ⟨l', hr, -⟩ := release_live l he
      rw [(perform_release_live l hr).2] at hp
      rw [List.mem_singleton.mp hp]
      exact .inr ⟨e, he⟩
  | pushFrame => cases hp
  | popFrame => exact .inr (hdrop _ hp)
  | clearCache => exact .inr (hdrop _ hp)

end Postings

end ScriptBridge.Ledger
