import Mathlib.Data.List.Nodup
import ScriptBridge.Proofs.LedgerBalance

/-!
The numbers of handles.

    the handles of a course from the empty ledger  =  nth 0, nth 1, nth 2, ...
    nth k  =  the handle with the number  k mod (2³² - 1) + 1

Design.  A `Course` is whatever can happen to a ledger, in any number of steps, with the handles that
it gives out and the values that they were given out for.  Every entry of a ledger comes from where the
course began or from a handle that it gave out (`Course.origin`), and the handles come by number
(`Course.numbered`); everything about reuse is read off these two.

The counter has 32 bits and leaves out zero, so the handles of a course differ exactly as long as there
are no more than 2³² - 1 of them.
-/
namespace ScriptBridge

open Data

/-- The handle that comes out after `k` others, counted from the empty ledger. -/
def Handle.nth (k : Nat) : Handle := ⟨UInt32.ofNat (k % (2 ^ 32 - 1) + 1)⟩

namespace Handle

theorem nth_toNat (k : Nat) : (nth k).id.toNat = k % (2 ^ 32 - 1) + 1 := by
  have : k % (2 ^ 32 - 1) < 2 ^ 32 - 1 := Nat.mod_lt _ (by omega)
  show (UInt32.ofNat _).toNat = _
  rw [UInt32.toNat_ofNat']
  exact Nat.mod_eq_of_lt (by omega)

theorem nth_eq_iff {i j : Nat} : nth i = nth j ↔ i % (2 ^ 32 - 1) = j % (2 ^ 32 - 1) := by
  rw [← toNat_inj, nth_toNat, nth_toNat, Nat.add_right_cancel_iff]

/-- The counter goes from each handle's number to the next one's, also where it comes round. -/
theorem following_nth (k : Nat) : Ledger.following (nth k).id = (nth (k + 1)).id := by
  have hnth := nth_toNat k
  have hlt : k % (2 ^ 32 - 1) < 2 ^ 32 - 1 := Nat.mod_lt _ (by omega)
  rw [← UInt32.toNat_inj, nth_toNat]
  by_cases hlast : k % (2 ^ 32 - 1) = 2 ^ 32 - 2
  · have hmax : (nth k).id = UInt32.ofNat (2 ^ 32 - 1) := by
      rw [← UInt32.toNat_inj, hnth, hlast]
      rfl
    rw [hmax]
    show 1 = _
    omega
  · rw [Ledger.following_toNat (by omega), hnth]
    omega

/-- The handles from the `k`-th on differ just as long as there are not too many of them. -/
theorem nodup_nth (k n : Nat) : ((List.range' k n).map nth).Nodup ↔ n ≤ 2 ^ 32 - 1 := by
  constructor
  · intro hn
    by_contra hmany
    have hk : k ∈ List.range' k n := List.mem_range'_1.mpr (by omega)
    have hj : k + (2 ^ 32 - 1) ∈ List.range' k n := List.mem_range'_1.mpr (by omega)
    have hsame : nth k = nth (k + (2 ^ 32 - 1)) := nth_eq_iff.mpr (by omega)
    have := List.inj_on_of_nodup_map hn hk hj hsame
    omega
  · intro hn
    refine (List.nodup_range').map_on fun i hi j hj heq => ?_
    rw [List.mem_range'_1] at hi hj
    have := nth_eq_iff.mp heq
    omega

end Handle

namespace Ledger

variable {α : Type}

/-! ### What is given out -/

/-- The handle that an operation gives out, with its value. -/
def gives (l : Ledger α) : Operation α → List (Handle × α)
  | .insert v n => [((l.insert v n).1, v)]
  | .stage v => [((l.stage v).1, v)]
  | _ => []

/-- A course of a ledger, with what was given out on it, in order. -/
inductive Course : Ledger α → List (Handle × α) → Ledger α → Prop where
  | start (l : Ledger α) : Course l [] l
  | perform {l l' : Ledger α} {given} (o : Operation α) :
      Course l given l' → Course l (given ++ l'.gives o) (l'.perform o).2
  | drain {l l' : Ledger α} {given} : Course l given l' → Course l given l'.drain.2

/-! ### Where entries come from -/

theorem value_of_iterate_less {o : Option (LedgerEntry α)} {e' : LedgerEntry α} (n : Nat)
    (h : (fun e => Option.bind e LedgerEntry.less)^[n] o = some e') :
    ∃ e, o = some e ∧ e.value = e'.value := by
  induction n generalizing o with
  | zero => exact ⟨e', h, rfl⟩
  | succ n ih =>
    obtain ⟨e₁, he₁, hv₁⟩ := ih h
    obtain ⟨e, rfl, hless⟩ := Option.bind_eq_some_iff.mp he₁
    unfold LedgerEntry.less at hless
    split at hless
    · cases hless
    · cases hless
      exact ⟨e, rfl, hv₁⟩

theorem value_of_releaseAll {l : Ledger α} (l₀ : Ledger α) (hentries : ∀ g, l₀.entry? g = l.entry? g)
    {hs : List Handle} {h : Handle} {e' : LedgerEntry α}
    (he : entry? (l₀.releaseAll hs).2 h = some e') : ∃ e, l.entry? h = some e ∧ e.value = e'.value := by
  rw [entry?_releaseAll_count, hentries] at he
  exact value_of_iterate_less _ he

/-- An entry after an operation was there before it with the same value, or was just given out. -/
theorem origin_perform (l : Ledger α) (o : Operation α) {h : Handle} {e' : LedgerEntry α}
    (he : entry? (l.perform o).2 h = some e') :
    (h, e'.value) ∈ l.gives o ∨ ∃ e, l.entry? h = some e ∧ e.value = e'.value := by
  cases o with
  | insert v n =>
    have hnew : entry? (l.insert v n).2 h = some e' := he
    rw [entry?_insert] at hnew
    split at hnew
    · rename_i hh
      cases hnew
      exact .inl (List.mem_singleton.mpr (by rw [hh]; rfl))
    · exact .inr ⟨e', hnew, rfl⟩
  | stage v =>
    have hnew : entry? (l.stage v).2 h = some e' := he
    rw [entry?_stage] at hnew
    split at hnew
    · rename_i hh
      cases hnew
      exact .inl (List.mem_singleton.mpr (by rw [hh, stage_fst]))
    · exact .inr ⟨e', hnew, rfl⟩
  | addRef g =>
    rcases hg : l.entry? g with - | e
    · rw [(perform_addRef_dead l hg).1] at he
      exact .inr ⟨e', he, rfl⟩
    · obtain ⟨l', hr, -, -, -, hl'⟩ := addRef_live l hg
      rw [(perform_addRef_live l hr).1] at he
      have he : l'.entry? h = some e' := he
      rw [hl' h] at he
      split at he
      · rename_i hh
        cases he
        exact .inr ⟨e, hh ▸ hg, rfl⟩
      · exact .inr ⟨e', he, rfl⟩
  | release g =>
    rcases hg : l.entry? g with - | e
    · rw [(perform_release_dead l hg).1] at he
      exact .inr ⟨e', he, rfl⟩
    · obtain ⟨l', hr, -, -, -, hl'⟩ := release_live l hg
      rw [(perform_release_live l hr).1] at he
      have he : l'.entry? h = some e' := he
      rw [hl' h] at he
      split at he
      · rename_i hh
        exact .inr (hh ▸ value_of_iterate_less 1 (by rw [hg]; exact he))
      · exact .inr ⟨e', he, rfl⟩
  | pushFrame => exact .inr ⟨e', he, rfl⟩
  | popFrame =>
    refine .inr ?_
    rcases hf : l.frames with - | ⟨frame, rest⟩
    · have hpop : l.popFrame = ([], l) := by rw [popFrame, hf]
      have he : entry? l.popFrame.2 h = some e' := he
      rw [hpop] at he
      exact ⟨e', he, rfl⟩
    · have he : entry? l.popFrame.2 h = some e' := he
      rw [popFrame_cons l hf] at he
      exact value_of_releaseAll { l with frames := rest } (fun _ => rfl) he
  | clearCache => exact .inr (value_of_releaseAll { l with cache := [] } (fun _ => rfl) he)

namespace Course

variable {l l' l'' : Ledger α} {given later : List (Handle × α)}

theorem trans (h : Course l given l') (h' : Course l' later l'') : Course l (given ++ later) l'' := by
  induction h' with
  | start => rwa [List.append_nil]
  | perform o _ ih =>
    rw [← List.append_assoc]
    exact ih.perform o
  | drain _ ih => exact ih.drain

theorem single (l : Ledger α) (o : Operation α) : Course l (l.gives o) (l.perform o).2 :=
  (start l).perform o

/-- **Every entry was there from the start, or was given out on the way for this very value.** -/
theorem origin (hc : Course l given l') {h : Handle} {e' : LedgerEntry α}
    (he : l'.entry? h = some e') :
    (h, e'.value) ∈ given ∨ ∃ e, l.entry? h = some e ∧ e.value = e'.value := by
  induction hc generalizing e' with
  | start => exact .inr ⟨e', he, rfl⟩
  | perform o hc ih =>
    rcases origin_perform _ o he with hnew | ⟨e, hold, hv⟩
    · exact .inl (List.mem_append_right _ hnew)
    · rcases ih hold with hin | ⟨e₀, he₀, hv₀⟩
      · exact .inl (List.mem_append_left _ (hv ▸ hin))
      · exact .inr ⟨e₀, he₀, hv₀.trans hv⟩
  | drain =>
    have hnone : (NatMap.empty : NatMap (LedgerEntry α)).get? h.id.toNat = some e' := he
    cases hnone.symm.trans (NatMap.get?_empty _)

/-- A handle that is not given out anew keeps its value while it lives. -/
theorem lasts (hc : Course l given l') {h : Handle} (hnew : h ∉ given.map Prod.fst)
    {e' : LedgerEntry α} (he : l'.entry? h = some e') :
    ∃ e, l.entry? h = some e ∧ e.value = e'.value :=
  (hc.origin he).resolve_left fun hin => hnew (List.mem_map.mpr ⟨_, hin, rfl⟩)

end Course

/-! ### Handles by number -/

/-- What an operation does to the counter. -/
theorem numbered_perform (l : Ledger α) (o : Operation α) {k : Nat} (hk : l.next = (Handle.nth k).id) :
    (l.gives o).map Prod.fst = (List.range' k (l.gives o).length).map Handle.nth ∧
      (l.perform o).2.next = (Handle.nth (k + (l.gives o).length)).id := by
  have hnth : (⟨l.next⟩ : Handle) = Handle.nth k := congrArg Handle.mk hk
  cases o with
  | insert v n =>
    refine ⟨congrArg (· :: []) hnth, ?_⟩
    show following l.next = _
    rw [hk, Handle.following_nth]
    rfl
  | stage v =>
    refine ⟨congrArg (· :: []) ((stage_fst l v).trans hnth), ?_⟩
    show (l.stage v).2.next = _
    rw [stage_next, hk, Handle.following_nth]
    rfl
  | addRef h =>
    refine ⟨rfl, Eq.trans ?_ hk⟩
    rcases he : l.entry? h with - | e
    · rw [(perform_addRef_dead l he).1]
    · obtain ⟨l', hr, hnext, -⟩ := addRef_live l he
      rw [(perform_addRef_live l hr).1]
      exact hnext
  | release h =>
    refine ⟨rfl, Eq.trans ?_ hk⟩
    rcases he : l.entry? h with - | e
    · rw [(perform_release_dead l he).1]
    · obtain ⟨l', hr, hnext, -⟩ := release_live l he
      rw [(perform_release_live l hr).1]
      exact hnext
  | pushFrame => exact ⟨rfl, hk⟩
  | popFrame =>
    refine ⟨rfl, Eq.trans ?_ hk⟩
    rcases hf : l.frames with - | ⟨frame, rest⟩
    · show l.popFrame.2.next = _
      rw [popFrame, hf]
    · show l.popFrame.2.next = _
      rw [popFrame_cons l hf]
      exact (releaseAll_rest _ _).1
  | clearCache => exact ⟨rfl, (releaseAll_rest { l with cache := [] } l.cache).1.trans hk⟩

namespace Course

variable {l l' : Ledger α} {given later : List (Handle × α)}

/-- The handles of a course come by number. -/
theorem numbered (hc : Course l given l') {k : Nat} (hk : l.next = (Handle.nth k).id) :
    given.map Prod.fst = (List.range' k given.length).map Handle.nth ∧
      l'.next = (Handle.nth (k + given.length)).id := by
  induction hc with
  | start => exact ⟨rfl, hk⟩
  | perform o hc ih =>
    obtain ⟨hgiven, hnext⟩ := ih
    obtain ⟨hone, hone'⟩ := numbered_perform _ o hnext
    constructor
    · rw [List.map_append, hgiven, hone, List.length_append, ← List.range'_append_1, List.map_append]
    · rw [hone', List.length_append, Nat.add_assoc]
  | drain hc ih => exact ih

/-- The handles of a course differ from each other. -/
theorem nodup (hc : Course l given l') {k : Nat} (hk : l.next = (Handle.nth k).id) :
    (given.map Prod.fst).Nodup ↔ given.length ≤ 2 ^ 32 - 1 := by
  rw [(hc.numbered hk).1]
  exact Handle.nodup_nth k _

theorem empty_next : (empty (α := α)).next = (Handle.nth 0).id := rfl

/-- A handle that was just given out is not given out again before its number comes round. -/
theorem comes_round (hc : Course l given l') {h : Handle} (hl : l.next = following h.id)
    (hin : h ∈ given.map Prod.fst) : 2 ^ 32 - 1 ≤ given.length := by
  by_cases hzero : h.id = 0
  · -- zero is left out, whatever came first
    have hfirst : l.next = (Handle.nth 0).id := by rw [hl, hzero]; rfl
    rw [(hc.numbered hfirst).1] at hin
    obtain ⟨i, -, hi⟩ := List.mem_map.mp hin
    have := Handle.nth_toNat i
    rw [hi, hzero] at this
    cases this
  · have hpos : h.id.toNat ≠ 0 := fun h0 => hzero (UInt32.toNat_inj.mp h0)
    have hlt := h.id.toNat_lt
    have hh : h = Handle.nth (h.id.toNat - 1) := by
      rw [← Handle.toNat_inj, Handle.nth_toNat]
      omega
    have hnext : l.next = (Handle.nth h.id.toNat).id := by
      rw [hl, hh, Handle.following_nth, ← hh]
      congr 2
      omega
    rw [(hc.numbered hnext).1] at hin
    obtain ⟨i, hi, heq⟩ := List.mem_map.mp hin
    rw [List.mem_range'_1] at hi
    have := Handle.nth_eq_iff.mp (heq.trans hh)
    omega

/-- A live handle was given out. -/
theorem mem_given (hc : Course empty given l) {h : Handle} {e : LedgerEntry α}
    (he : l.entry? h = some e) : h ∈ given.map Prod.fst := by
  rcases hc.origin he with hin | ⟨e₀, he₀, -⟩
  · exact List.mem_map.mpr ⟨_, hin, rfl⟩
  · cases he₀.symm.trans (NatMap.get?_empty _)

/-- A handle is new when it is given out, as long as there are numbers left. -/
theorem new_handle (hc : Course empty given l) (hfew : given.length < 2 ^ 32 - 1) {o : Operation α}
    {h : Handle} {v : α} (ho : (h, v) ∈ l.gives o) :
    h ∉ given.map Prod.fst ∧ l.entry? h = none := by
  have hone : (l.gives o).length ≤ 1 := by
    cases o <;> exact Nat.le_of_ble_eq_true rfl
  have hnodup := ((hc.perform o).nodup empty_next).mpr (by rw [List.length_append]; omega)
  rw [List.map_append] at hnodup
  have hnew : h ∉ given.map Prod.fst := fun hin =>
    (List.disjoint_of_nodup_append hnodup) hin (List.mem_map.mpr ⟨_, ho, rfl⟩)
  refine ⟨hnew, ?_⟩
  rcases he : l.entry? h with - | e
  · rfl
  · exact absurd (hc.mem_given he) hnew

/-- A handle that is dead stays dead, as long as its number does not come round. -/
theorem stays_dead (hc : Course empty given l) {h : Handle} (hin : h ∈ given.map Prod.fst)
    (hdead : l.entry? h = none) (hl : Course l later l')
    (hfew : given.length + later.length ≤ 2 ^ 32 - 1) : l'.entry? h = none := by
  have hnodup := ((hc.trans hl).nodup empty_next).mpr (by rw [List.length_append]; omega)
  rw [List.map_append] at hnodup
  rcases he : l'.entry? h with - | e'
  · rfl
  · obtain ⟨e, he, -⟩ := hl.lasts (List.disjoint_of_nodup_append hnodup hin) he
    cases hdead.symm.trans he

end Course

/-! ### Runs as courses -/

/-- What a run gives out, in order. -/
def given (l : Ledger α) : List (Operation α) → List (Handle × α)
  | [] => []
  | o :: os => l.gives o ++ (l.perform o).2.given os

theorem Course.of_run (l : Ledger α) (ops : List (Operation α)) :
    Course l (l.given ops) (l.run ops) := by
  induction ops generalizing l with
  | nil => exact .start l
  | cons o os ih => exact (single l o).trans (ih _)

/-! ### The law -/

/-- An entry is not touched when a handle is given out for another. -/
theorem entry?_perform_gives (l : Ledger α) {o : Operation α} {h : Handle} {v : α}
    (ho : (h, v) ∈ l.gives o) {g : Handle} (hg : g ≠ h) : entry? (l.perform o).2 g = l.entry? g := by
  cases o with
  | insert u n =>
    have hh : h = ⟨l.next⟩ := congrArg Prod.fst (List.mem_singleton.mp ho)
    show entry? (l.insert u n).2 g = _
    rw [entry?_insert, if_neg (hh ▸ hg)]
  | stage u =>
    have hh : h = ⟨l.next⟩ := (congrArg Prod.fst (List.mem_singleton.mp ho)).trans (stage_fst l u)
    show entry? (l.stage u).2 g = _
    rw [entry?_stage, if_neg (hh ▸ hg)]
  | _ => cases ho

/-- **Handles are handed out by number, and come back only when the numbers are used up.**  On every
course from the empty ledger, however long:

1. the handles given out are those with the numbers 1, 2, 3, ... up to 2³² - 1, and then 1 again;
2. they all differ exactly as long as there are at most 2³² - 1 of them;
3. as long as there are fewer, a further one differs from all of them, is not live, and the entries of
   the others stay as they are;
4. a handle that has died is refused from then on, until its number comes round. -/
theorem Course.handles_by_number {given : List (Handle × α)} {l : Ledger α}
    (hc : Course empty given l) :
    given.map Prod.fst = (List.range given.length).map Handle.nth ∧
    ((given.map Prod.fst).Nodup ↔ given.length ≤ 2 ^ 32 - 1) ∧
    (given.length < 2 ^ 32 - 1 → ∀ o h v, (h, v) ∈ l.gives o →
      h ∉ given.map Prod.fst ∧ l.contains h = false ∧
        ∀ g e, l.entry? g = some e → entry? (l.perform o).2 g = some e) ∧
    (∀ h ∈ given.map Prod.fst, l.contains h = false → ∀ later l', Course l later l' →
      given.length + later.length ≤ 2 ^ 32 - 1 →
        l'.get h = .error (.invalidHandle h.id) ∧ l'.addRef h = .error (.invalidHandle h.id) ∧
          l'.release h = .error (.invalidHandle h.id)) := by
  refine ⟨?_, hc.nodup empty_next, ?_, ?_⟩
  · rw [(hc.numbered empty_next).1, List.range_eq_range']
  · intro hfew o h v ho
    obtain ⟨hnew, hdead⟩ := hc.new_handle hfew ho
    refine ⟨hnew, by rw [contains, hdead]; rfl, ?_⟩
    intro g e he
    rw [entry?_perform_gives l ho, he]
    rintro rfl
    cases hdead.symm.trans he
  · intro h hin hdead later l' hl hfew
    have hdead : l.entry? h = none := Option.isNone_iff_eq_none.mp (by simpa [contains] using hdead)
    have hstill := hc.stays_dead hin hdead hl hfew
    exact ⟨get_dead _ hstill, addRef_dead _ hstill, release_dead _ hstill⟩

theorem Course.handles_by_number_released :
    Course empty [(⟨1⟩, 7)] (empty.run [.insert 7 1, .release ⟨1⟩]) ∧
      ∀ later l', Course (empty.run [.insert 7 1, .release ⟨1⟩]) later l' →
        1 + later.length ≤ 2 ^ 32 - 1 → l'.get ⟨1⟩ = .error (.invalidHandle 1) := by
  have hc : Course empty [(⟨1⟩, 7)] (empty.run [.insert 7 1, .release ⟨1⟩]) :=
    of_run empty [.insert 7 1, .release ⟨1⟩]
  obtain ⟨-, -, -, hdead⟩ := handles_by_number hc
  refine ⟨hc, ?_⟩
  intro later l' hl hfew
  exact (hdead ⟨1⟩ List.mem_cons_self rfl later l' hl hfew).1

/-! ### Where the numbers run out -/

/-- An entry outlasts any number of insertions, until its handle is given out again. -/
theorem entry?_run_inserts (l : Ledger α) (v : α) (refs : UInt32) (n : Nat) {h : Handle}
    (hh : h ∉ (l.given (List.replicate n (.insert v refs))).map Prod.fst) :
    entry? (l.run (List.replicate n (.insert v refs))) h = l.entry? h := by
  induction n generalizing l with
  | zero => rfl
  | succ n ih =>
    rw [List.replicate_succ] at hh ⊢
    have hcons : h ≠ ⟨l.next⟩ ∧
        h ∉ ((l.insert v refs).2.given (List.replicate n (.insert v refs))).map Prod.fst := by
      simpa [given, gives, insert, perform] using hh
    show entry? ((l.insert v refs).2.run (List.replicate n (.insert v refs))) h = _
    rw [ih _ hcons.2, entry?_insert, if_neg hcons.1]

theorem length_given_inserts (l : Ledger α) (v : α) (refs : UInt32) (n : Nat) :
    (l.given (List.replicate n (.insert v refs))).length = n := by
  induction n generalizing l with
  | zero => rfl
  | succ n ih =>
    rw [List.replicate_succ, given, List.length_append, ih, Nat.add_comm]
    rfl

/-- When each number has been given out once, the first entry is still there and its number is next. -/
theorem run_inserts_all (v : α) (refs : UInt32) {n : Nat} (hn : n + 1 = 2 ^ 32 - 1) :
    entry? (empty.run (List.replicate (n + 1) (.insert v refs))) ⟨1⟩ = some ⟨v, refs⟩ ∧
      (empty.run (List.replicate (n + 1) (.insert v refs))).next = 1 := by
  have hc := Course.of_run (empty (α := α)) (List.replicate (n + 1) (.insert v refs))
  constructor
  · have hnodup := (hc.nodup Course.empty_next).mpr (by rw [length_given_inserts]; omega)
    rw [List.replicate_succ] at hnodup ⊢
    have hfirst : (⟨1⟩ : Handle) ∉ (((empty (α := α)).insert v refs).2.given
        (List.replicate n (.insert v refs))).map Prod.fst := by
      have hcons : (((⟨1⟩ : Handle), v) :: ((empty (α := α)).insert v refs).2.given
          (List.replicate n (.insert v refs))).map Prod.fst |>.Nodup := hnodup
      exact (List.nodup_cons.mp hcons).1
    show entry? (((empty (α := α)).insert v refs).2.run (List.replicate n (.insert v refs))) ⟨1⟩ = _
    rw [entry?_run_inserts _ v refs n hfirst, entry?_insert]
    exact if_pos rfl
  · rw [(hc.numbered Course.empty_next).2, length_given_inserts, Nat.zero_add, hn]
    rfl

/-- Beyond the last number a handle comes back: the next insertion is given the number 1 again, and
replaces the entry that is still live there. -/
theorem handle_comes_back :
    let ops : List (Operation Nat) := List.replicate (2 ^ 32 - 1) (.insert 7 1)
    let l := empty.run ops
    ⟨1⟩ ∈ (empty.given ops).map Prod.fst ∧ l.get ⟨1⟩ = .ok 7 ∧
      (l.insert 8 1).1 = ⟨1⟩ ∧ (l.insert 8 1).2.get ⟨1⟩ = .ok 8 := by
  intro ops l
  obtain ⟨hlive, hnext⟩ := run_inserts_all (7 : Nat) 1 (n := 2 ^ 32 - 2) rfl
  have hlive : l.entry? ⟨1⟩ = some ⟨7, 1⟩ := hlive
  have hhandle : (⟨l.next⟩ : Handle) = ⟨1⟩ := congrArg Handle.mk hnext
  refine ⟨(Course.of_run empty ops).mem_given hlive, get_live l hlive, hhandle, ?_⟩
  refine get_live _ (e := ⟨8, 1⟩) ?_
  rw [entry?_insert, hhandle, if_pos rfl]

end Ledger

end ScriptBridge
