import Mathlib.Data.List.Nodup
import Mathlib.Logic.Function.Iterate
import ScriptBridge.Ledger

/-!
The ledger through its entries.

Every operation is described by what it does to `entry?` and to the three other parts (`next`,
`cache`, `frames`); nothing after this module opens the map of entries.  Giving one reference back
is one function on entries, `LedgerEntry.less`, and giving back a list of handles is that function
at each handle of the list:

    entry? (l.releaseAll hs).2 g = if g ∈ hs then (l.entry? g).bind less else l.entry? g

for a list without repetitions.
-/
namespace ScriptBridge

open Data

theorem Handle.toNat_inj {g h : Handle} : g.id.toNat = h.id.toNat ↔ g = h := by
  rcases g with ⟨g⟩
  rcases h with ⟨h⟩
  rw [UInt32.toNat_inj, Handle.mk.injEq]

variable {α : Type}

/-- The entry with one reference less; with the last one it goes. -/
def LedgerEntry.less (e : LedgerEntry α) : Option (LedgerEntry α) :=
  if e.refs - 1 = 0 then none else some { e with refs := e.refs - 1 }

namespace Ledger

variable (l : Ledger α)

theorem contains_iff {h : Handle} : l.contains h = true ↔ ∃ e, l.entry? h = some e := by
  rw [contains, Option.isSome_iff_exists]

/-! ### New entries -/

theorem entry?_insert (v : α) (n : UInt32) (g : Handle) :
    entry? (l.insert v n).2 g = if g = ⟨l.next⟩ then some ⟨v, n⟩ else l.entry? g := by
  show (l.entries.insert l.next.toNat ⟨v, n⟩).get? g.id.toNat = _
  rw [NatMap.get?_insert]
  by_cases hg : g = ⟨l.next⟩
  · rw [if_pos hg, if_pos (by rw [hg])]
  · have : g.id.toNat ≠ l.next.toNat := fun h => hg (Handle.toNat_inj.mp h)
    rw [if_neg hg, if_neg this]
    rfl

theorem stage_fst (v : α) : (l.stage v).1 = ⟨l.next⟩ := by
  rcases hf : l.frames with - | ⟨frame, rest⟩ <;> simp [stage, insert, hf]

theorem entry?_stage (v : α) (g : Handle) :
    entry? (l.stage v).2 g = if g = ⟨l.next⟩ then some ⟨v, 1⟩ else l.entry? g := by
  rw [← entry?_insert l v 1 g]
  rcases hf : l.frames with - | ⟨frame, rest⟩ <;> simp [stage, insert, hf, entry?]

theorem stage_next (v : α) : (l.stage v).2.next = following l.next := by
  rcases hf : l.frames with - | ⟨frame, rest⟩ <;> simp [stage, insert, hf]

theorem stage_cache (v : α) :
    (l.stage v).2.cache = if l.frames = [] then l.cache ++ [⟨l.next⟩] else l.cache := by
  rcases hf : l.frames with - | ⟨frame, rest⟩ <;> simp [stage, insert, hf]

theorem stage_frames (v : α) :
    (l.stage v).2.frames = match l.frames with
      | [] => []
      | frame :: rest => (frame ++ [⟨l.next⟩]) :: rest := by
  rcases hf : l.frames with - | ⟨frame, rest⟩ <;> simp [stage, insert, hf]

/-! ### More and fewer references -/

theorem addRef_dead {h : Handle} (hd : l.entry? h = none) :
    l.addRef h = .error (.invalidHandle h.id) := by
  rw [addRef, hd]

theorem addRef_live {h : Handle} {e : LedgerEntry α} (he : l.entry? h = some e) :
    ∃ l', l.addRef h = .ok l' ∧ l'.next = l.next ∧ l'.cache = l.cache ∧ l'.frames = l.frames ∧
      ∀ g, l'.entry? g = if g = h then some { e with refs := e.refs + 1 } else l.entry? g := by
  refine ⟨{ l with entries := l.entries.insert h.id.toNat { e with refs := e.refs + 1 } },
    by simp only [addRef, he], rfl, rfl, rfl, ?_⟩
  intro g
  show (l.entries.insert h.id.toNat _).get? g.id.toNat = _
  rw [NatMap.get?_insert]
  simp only [Handle.toNat_inj]
  rfl

theorem release_dead {h : Handle} (hd : l.entry? h = none) :
    l.release h = .error (.invalidHandle h.id) := by
  rw [release, hd]

/-- A live handle loses one reference, and its value comes out exactly when that was the last. -/
theorem release_live {h : Handle} {e : LedgerEntry α} (he : l.entry? h = some e) :
    ∃ l', l.release h = .ok (if e.refs - 1 = 0 then some e.value else none, l') ∧
      l'.next = l.next ∧ l'.cache = l.cache ∧ l'.frames = l.frames ∧
      ∀ g, l'.entry? g = if g = h then e.less else l.entry? g := by
  by_cases hr : e.refs - 1 = 0
  · refine ⟨{ l with entries := l.entries.erase h.id.toNat }, ?_, rfl, rfl, rfl, ?_⟩
    · simp [release, he, hr]
    · intro g
      show (l.entries.erase h.id.toNat).get? g.id.toNat = _
      rw [NatMap.get?_erase, LedgerEntry.less, if_pos hr]
      simp only [Handle.toNat_inj]
      rfl
  · refine ⟨{ l with entries := l.entries.insert h.id.toNat { e with refs := e.refs - 1 } },
      ?_, rfl, rfl, rfl, ?_⟩
    · simp [release, he, hr]
    · intro g
      show (l.entries.insert h.id.toNat _).get? g.id.toNat = _
      rw [NatMap.get?_insert, LedgerEntry.less, if_neg hr]
      simp only [Handle.toNat_inj]
      rfl

theorem get_dead {h : Handle} (hd : l.entry? h = none) :
    l.get h = .error (.invalidHandle h.id) := by
  rw [get, hd]

theorem get_live {h : Handle} {e : LedgerEntry α} (he : l.entry? h = some e) :
    l.get h = .ok e.value := by
  rw [get, he]

/-! ### Many handles at once -/

/-- The handles of a list that give their last reference back. -/
def lastRefs (hs : List Handle) : List Handle := hs.filter fun h => l.refs? h == some 1

theorem releaseAll_cons_dead {h : Handle} {hs : List Handle} (hd : l.entry? h = none) :
    l.releaseAll (h :: hs) = l.releaseAll hs := by
  rw [releaseAll, release_dead l hd]

theorem releaseAll_cons_live {h : Handle} {hs : List Handle} {freed : Option α} {l' : Ledger α}
    (hr : l.release h = .ok (freed, l')) :
    l.releaseAll (h :: hs) = (freed.toList ++ (l'.releaseAll hs).1, (l'.releaseAll hs).2) := by
  rw [releaseAll, hr]

/-- Releasing touches entries only. -/
theorem releaseAll_rest (hs : List Handle) :
    (l.releaseAll hs).2.next = l.next ∧ (l.releaseAll hs).2.cache = l.cache ∧
      (l.releaseAll hs).2.frames = l.frames := by
  induction hs generalizing l with
  | nil => exact ⟨rfl, rfl, rfl⟩
  | cons h hs ih =>
    rcases he : l.entry? h with - | e
    · rw [releaseAll_cons_dead l he]
      exact ih l
    · obtain ⟨l', hr, hn, hc, hf, -⟩ := release_live l he
      rw [releaseAll_cons_live l hr]
      obtain ⟨in_, ic, if_⟩ := ih l'
      exact ⟨in_.trans hn, ic.trans hc, if_.trans hf⟩

/-- A handle loses a reference for each time that it is listed. -/
theorem entry?_releaseAll_count (hs : List Handle) (g : Handle) :
    entry? (l.releaseAll hs).2 g
      = (fun e => Option.bind e LedgerEntry.less)^[hs.count g] (l.entry? g) := by
  induction hs generalizing l with
  | nil => rfl
  | cons h hs ih =>
    rcases he : l.entry? h with - | e
    · rw [releaseAll_cons_dead l he, ih l]
      by_cases hg : g = h
      · rw [hg, List.count_cons_self, Function.iterate_succ_apply, he]
        rfl
      · rw [List.count_cons_of_ne fun heq => hg heq.symm]
    · obtain ⟨l', hr, -, -, -, hl'⟩ := release_live l he
      rw [releaseAll_cons_live l hr]
      show entry? (l'.releaseAll hs).2 g = _
      rw [ih l', hl' g]
      by_cases hg : g = h
      · rw [if_pos hg, hg, List.count_cons_self, Function.iterate_succ_apply, he]
        rfl
      · rw [if_neg hg, List.count_cons_of_ne fun heq => hg heq.symm]

theorem entry?_releaseAll {hs : List Handle} (hn : hs.Nodup) (g : Handle) :
    entry? (l.releaseAll hs).2 g
      = if g ∈ hs then (l.entry? g).bind LedgerEntry.less else l.entry? g := by
  rw [entry?_releaseAll_count, hn.count]
  by_cases hg : g ∈ hs
  · rw [if_pos hg, if_pos hg]
    rfl
  · rw [if_neg hg, if_neg hg]
    rfl

/-- The values that come out are those of the handles that give their last reference back, in the
order of the list. -/
theorem releaseAll_fst {hs : List Handle} (hn : hs.Nodup) :
    (l.releaseAll hs).1.map some
      = (l.lastRefs hs).map fun h => (l.entry? h).map LedgerEntry.value := by
  induction hs generalizing l with
  | nil => rfl
  | cons h hs ih =>
    obtain ⟨hh, hn⟩ := List.nodup_cons.mp hn
    rcases he : l.entry? h with - | e
    · rw [releaseAll_cons_dead l he, ih l hn]
      simp [lastRefs, refs?, he]
    · obtain ⟨l', hr, -, -, -, hl'⟩ := release_live l he
      -- each handle comes once, so the first release does not touch the others
      have same : ∀ g ∈ hs, l'.entry? g = l.entry? g := by
        intro g hg
        have hgh : g ≠ h := by
          rintro rfl
          exact hh hg
        rw [hl' g, if_neg hgh]
      have hlast : l'.lastRefs hs = l.lastRefs hs :=
        List.filter_congr fun g hg => by rw [refs?, refs?, same g hg]
      have hvalues : (l'.lastRefs hs).map (fun g => (l'.entry? g).map LedgerEntry.value)
          = (l.lastRefs hs).map fun g => (l.entry? g).map LedgerEntry.value := by
        rw [hlast]
        exact List.map_congr_left fun g hg => by rw [same g (List.mem_of_mem_filter hg)]
      rw [releaseAll_cons_live l hr]
      show (_ ++ (l'.releaseAll hs).1).map some = _
      rw [List.map_append, ih l' hn, hvalues]
      have hone : e.refs - 1 = 0 ↔ e.refs = 1 := by
        constructor
        · intro h0
          have := congrArg (· + 1) h0
          simpa using this
        · rintro h1
          rw [h1]
          rfl
      by_cases h1 : e.refs = 1
      · simp [lastRefs, refs?, he, h1]
      · simp [lastRefs, refs?, he, h1, hone]

/-! ### No entry lies beyond the handles -/

/-- Every key of the map is the number of some handle. -/
def Within : Prop := ∀ n, UInt32.size ≤ n → l.entries.get? n = none

variable {l}

theorem Within.insert (hw : l.Within) (v : α) (n : UInt32) : (l.insert v n).2.Within := by
  intro m hm
  show (l.entries.insert l.next.toNat ⟨v, n⟩).get? m = none
  have hne : m ≠ l.next.toNat := by
    have : l.next.toNat < UInt32.size := l.next.toNat_lt_size
    omega
  rw [NatMap.get?_insert, if_neg hne]
  exact hw m hm

theorem Within.stage (hw : l.Within) (v : α) : (l.stage v).2.Within := by
  have := hw.insert v 1
  rcases hf : l.frames with - | ⟨frame, rest⟩ <;> simpa [Within, Ledger.stage, Ledger.insert, hf]

theorem Within.addRef (hw : l.Within) {h : Handle} {l' : Ledger α} (hr : l.addRef h = .ok l') :
    l'.Within := by
  rcases he : l.entry? h with - | e
  · rw [addRef_dead l he] at hr
    cases hr
  · simp only [Ledger.addRef, he, Except.ok.injEq] at hr
    subst hr
    intro m hm
    have hne : m ≠ h.id.toNat := by
      have : h.id.toNat < UInt32.size := h.id.toNat_lt_size
      omega
    show (l.entries.insert h.id.toNat _).get? m = none
    rw [NatMap.get?_insert, if_neg hne]
    exact hw m hm

theorem Within.release (hw : l.Within) {h : Handle} {freed : Option α} {l' : Ledger α}
    (hr : l.release h = .ok (freed, l')) : l'.Within := by
  rcases he : l.entry? h with - | e
  · rw [release_dead l he] at hr
    cases hr
  · intro m hm
    have hne : m ≠ h.id.toNat := by
      have : h.id.toNat < UInt32.size := h.id.toNat_lt_size
      omega
    by_cases hlast : e.refs - 1 = 0
    · simp only [Ledger.release, he, hlast, beq_self_eq_true, if_true, Except.ok.injEq,
        Prod.mk.injEq] at hr
      rw [← hr.2]
      show (l.entries.erase h.id.toNat).get? m = none
      rw [NatMap.get?_erase, if_neg hne]
      exact hw m hm
    · simp only [Ledger.release, he, beq_iff_eq, hlast, if_false, Except.ok.injEq,
        Prod.mk.injEq] at hr
      rw [← hr.2]
      show (l.entries.insert h.id.toNat _).get? m = none
      rw [NatMap.get?_insert, if_neg hne]
      exact hw m hm

theorem Within.releaseAll (hw : l.Within) (hs : List Handle) : (l.releaseAll hs).2.Within := by
  induction hs generalizing l with
  | nil => exact hw
  | cons h hs ih =>
    rcases he : l.entry? h with - | e
    · rw [releaseAll_cons_dead l he]
      exact ih hw
    · obtain ⟨l', hr, -⟩ := release_live l he
      rw [releaseAll_cons_live l hr]
      exact ih (hw.release hr)

variable (l)

/-! ### Frames -/

theorem popFrame_cons {frame : List Handle} {rest : List (List Handle)}
    (hf : l.frames = frame :: rest) :
    l.popFrame = { l with frames := rest }.releaseAll frame := by
  rw [popFrame, hf]

end Ledger

end ScriptBridge
