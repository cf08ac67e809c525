import Mathlib.Data.List.Nodup
import ScriptBridge.Proofs.LedgerBalance

/-!
What the ledger hands back.

    values issued  =  values handed back  +  values still live

as multisets, after every admissible run; each value comes back with the operation that gives its
last reference back, and with no other.  Whatever hands values back does so for a list of distinct
handles, in the order of that list (`HandsBack`), so that it is enough to say which handles these
are.
-/
namespace ScriptBridge.Ledger

open Data

variable {α : Type}

/-- The values `vs` are those of the handles `hs`. -/
structure HandsBack (l : Ledger α) (hs : List Handle) (vs : List α) : Prop where
  once : hs.Nodup
  values : vs.map some = hs.map fun h => (l.entry? h).map LedgerEntry.value

theorem HandsBack.nothing (l : Ledger α) : HandsBack l [] [] := ⟨List.nodup_nil, rfl⟩

section HandsBack

variable {l : Ledger α} {ps : List (Posting α)}

/-- With the postings at hand, the handles can be looked up among those issued. -/
theorem HandsBack.perm (hc : Counted l ps) {hs : List Handle} {vs : List α}
    (hb : HandsBack l hs vs) {P : Handle → Prop} [DecidablePred P]
    (hlive : ∀ h ∈ hs, ∃ e, l.entry? h = some e)
    (hP : ∀ e ∈ entered ps, e.1 ∈ hs ↔ P e.1) :
    vs.Perm (((entered ps).filter fun e => P e.1).map Prod.snd) := by
  have hkeys : hs.Perm (((entered ps).filter fun e => P e.1).map Prod.fst) := by
    refine (List.perm_ext_iff_of_nodup hb.once ?_).mpr ?_
    · exact hc.distinct.sublist (List.filter_sublist.map _)
    · intro h
      constructor
      · intro hh
        obtain ⟨e, he⟩ := hlive h hh
        have hm := (hc.live h e he).2.2
        exact List.mem_map.mpr ⟨(h, e.value), List.mem_filter.mpr
          ⟨hm, decide_eq_true ((hP _ hm).mp hh)⟩, rfl⟩
      · intro hh
        obtain ⟨e, he, rfl⟩ := List.mem_map.mp hh
        obtain ⟨hm, hp⟩ := List.mem_filter.mp he
        exact (hP e hm).mpr (of_decide_eq_true hp)
  have hsome : (vs.map some).Perm
      ((((entered ps).filter fun e => P e.1).map Prod.snd).map some) := by
    rw [hb.values]
    refine (hkeys.map _).trans (.of_eq ?_)
    rw [List.map_map, List.map_map]
    refine List.map_congr_left fun e he => ?_
    obtain ⟨hm, hp⟩ := List.mem_filter.mp he
    obtain ⟨e', he'⟩ := hlive e.1 ((hP e hm).mpr (of_decide_eq_true hp))
    have hm' := (hc.live e.1 e' he').2.2
    -- a handle is issued for one value only
    have heq : (e.1, e'.value) = e := List.inj_on_of_nodup_map hc.distinct hm' hm rfl
    show (l.entry? e.1).map LedgerEntry.value = some e.2
    rw [he', ← heq]
    rfl
  have := hsome.filterMap id
  rwa [List.filterMap_map, List.filterMap_map, Function.id_comp, List.filterMap_some,
    List.filterMap_some] at this

/-- The handles that an operation closes. -/
def closing (l : Ledger α) : Operation α → List Handle
  | .release h => l.lastRefs [h]
  | o => l.lastRefs (l.covered o)

theorem HandsBack.releaseAll (l₀ : Ledger α) (hentries : l₀.entries = l.entries) {hs : List Handle}
    (hn : hs.Nodup) : HandsBack l (l.lastRefs hs) (l₀.releaseAll hs).1 := by
  have hsame : l₀.entry? = l.entry? := by
    funext h
    rw [ entry?, entry?, hentries]
  have hlast : l₀.lastRefs hs = l.lastRefs hs := by
    simp only [lastRefs, refs?, hsame]
  refine ⟨hn.filter _, ?_⟩
  rw [releaseAll_fst l₀ hn, hsame, hlast]

theorem handsBack_perform (hb : Balanced l ps) (o : Operation α) :
    HandsBack l (l.closing o) (l.perform o).1.values := by
  have hn := hb.nodup_covered o
  cases o with
  | insert v n => exact .nothing l
  | stage v => exact .nothing l
  | pushFrame => exact .nothing l
  | addRef h =>
    rcases he : l.entry? h with - | e
    · rw [(perform_addRef_dead l he).1]
      exact .nothing l
    · obtain ⟨l', hr, -⟩ := addRef_live l he
      rw [(perform_addRef_live l hr).1]
      exact .nothing l
  | release h =>
    have hall := HandsBack.releaseAll (l := l) l rfl (List.nodup_singleton h)
    rcases he : l.entry? h with - | e
    · rw [releaseAll_cons_dead l he] at hall
      rw [(perform_release_dead l he).1]
      exact hall
    · obtain ⟨l', hr, -⟩ := release_live l he
      rw [releaseAll_cons_live l hr] at hall
      have hnil : (l'.releaseAll []).1 = [] := rfl
      rw [hnil, List.append_nil] at hall
      rw [(perform_release_live l hr).1]
      exact hall
  | popFrame =>
    rcases hf : l.frames with - | ⟨frame, rest⟩
    · have hp : l.popFrame = ([], l) := by rw [popFrame, hf]
      show HandsBack l (l.lastRefs (l.frames.headD [])) l.popFrame.1
      rw [hp, hf]
      exact .nothing l
    · show HandsBack l (l.lastRefs (l.frames.headD [])) l.popFrame.1
      rw [covered, hf] at hn
      rw [popFrame_cons l hf, hf]
      exact HandsBack.releaseAll (l := l) { l with frames := rest } rfl hn
  | clearCache => exact HandsBack.releaseAll (l := l) { l with cache := [] } rfl hn

/-! ### All handles at once -/

def liveHandles (l : Ledger α) : List Handle :=
  l.entries.toList.map fun e => ⟨UInt32.ofNat e.1⟩

theorem Within.toNat_key (hw : l.Within) {e : Nat × LedgerEntry α} (he : e ∈ l.entries.toList) :
    (UInt32.ofNat e.1).toNat = e.1 := by
  have hlt : e.1 < UInt32.size := by
    by_contra hge
    have := hw e.1 (Nat.le_of_not_lt hge)
    rw [NatMap.mem_toList.mp he] at this
    cases this
  exact UInt32.toNat_ofNat_of_lt' hlt

theorem Within.mem_liveHandles (hw : l.Within) {h : Handle} :
    h ∈ l.liveHandles ↔ ∃ e, l.entry? h = some e := by
  constructor
  · intro hh
    obtain ⟨e, he, rfl⟩ := List.mem_map.mp hh
    refine ⟨e.2, ?_⟩
    show l.entries.get? (UInt32.ofNat e.1).toNat = some e.2
    rw [hw.toNat_key he]
    exact NatMap.mem_toList.mp he
  · rintro ⟨x, hx⟩
    refine List.mem_map.mpr ⟨(h.id.toNat, x), NatMap.mem_toList.mpr hx, ?_⟩
    show (⟨UInt32.ofNat h.id.toNat⟩ : Handle) = h
    rw [UInt32.ofNat_toNat]

theorem handsBack_drain (hw : l.Within) : HandsBack l l.liveHandles l.drain.1 := by
  refine ⟨?_, ?_⟩
  · refine List.Nodup.of_map (fun h => h.id.toNat) ?_
    have : l.liveHandles.map (fun h => h.id.toNat) = l.entries.toList.map Prod.fst := by
      rw [liveHandles, List.map_map]
      exact List.map_congr_left fun e he => hw.toNat_key he
    rw [this]
    exact NatMap.nodup_toList _
  · show (l.entries.toList.map fun e => e.2.value).map some = _
    rw [liveHandles, List.map_map, List.map_map]
    refine List.map_congr_left fun e he => ?_
    show some e.2.value = (l.entries.get? (UInt32.ofNat e.1).toNat).map _
    rw [hw.toNat_key he, NatMap.mem_toList.mp he]
    rfl

end HandsBack

/-! ### The operation that closes a handle -/

section Closing

variable {l : Ledger α} {ps : List (Posting α)}

theorem Counted.contains_iff (hc : Counted l ps) (h : Handle) :
    l.contains h = true ↔ 0 < outstanding h ps := by
  rw [Ledger.contains_iff]
  constructor
  · rintro ⟨e, he⟩
    obtain ⟨hout, hne, -⟩ := hc.live h e he
    have : e.refs.toNat ≠ 0 := fun h0 => hne (UInt32.toNat_inj.mp h0)
    omega
  · intro hpos
    rcases he : l.entry? h with - | e
    · rw [hc.dead h he] at hpos
      exact absurd hpos (Int.lt_irrefl 0)
    · exact ⟨e, rfl⟩

theorem Counted.mem_lastRefs (hc : Counted l ps) {hs : List Handle} {g : Handle} :
    g ∈ l.lastRefs hs ↔ g ∈ hs ∧ outstanding g ps = 1 := by
  rw [lastRefs, List.mem_filter, beq_iff_eq, refs?]
  refine and_congr_right fun _ => ?_
  rcases he : l.entry? g with - | e
  · rw [hc.dead g he]
    exact ⟨(fun h => by cases h), (fun h => by cases h)⟩
  · rw [(hc.live g e he).1]
    show some e.refs = some 1 ↔ _
    rw [Option.some_inj, ← UInt32.toNat_inj]
    exact Int.ofNat_inj.symm

/-- Postings that take nothing back close nothing. -/
theorem not_closed_of_nonneg {g : Handle} {qs : List (Posting α)} (hq : 0 ≤ outstanding g qs) :
    ¬ (0 < outstanding g ps ∧ outstanding g (ps ++ qs) = 0) := by
  rw [outstanding_append]
  omega

theorem Balanced.mem_lastRefs_covered (hb : Balanced l ps) (o : Operation α) {g : Handle} :
    g ∈ l.lastRefs (l.covered o) ↔ 0 < outstanding g ps ∧
      outstanding g (ps ++ ((l.covered o).filter l.contains).map .dropped) = 0 := by
  have hmem : g ∈ (l.covered o).filter l.contains ↔ g ∈ l.covered o ∧ 0 < outstanding g ps := by
    rw [List.mem_filter, hb.counted.contains_iff]
  rw [hb.counted.mem_lastRefs, outstanding_append,
    outstanding_drops g ((hb.nodup_covered o).filter l.contains)]
  by_cases hg : g ∈ (l.covered o).filter l.contains
  · rw [if_pos hg]
    constructor
    · rintro ⟨-, h1⟩
      rw [h1]
      exact ⟨by decide, rfl⟩
    · rintro ⟨-, h1⟩
      exact ⟨(hmem.mp hg).1, by omega⟩
  · rw [if_neg hg]
    constructor
    · rintro ⟨hin, h1⟩
      exact absurd (hmem.mpr ⟨hin, by omega⟩) hg
    · rintro ⟨hpos, h1⟩
      omega

/-- An operation closes the handles whose count it brings down to nothing. -/
theorem Balanced.mem_closing (hb : Balanced l ps) (o : Operation α) {g : Handle}
    (hg : g ∈ (entered ps).map Prod.fst) :
    g ∈ l.closing o ↔ 0 < outstanding g ps ∧ outstanding g (ps ++ l.postings o) = 0 := by
  -- a handle that was given out is not the next one, so a new entry leaves its count alone
  have hold : ∀ p : Posting α, p.handle = ⟨l.next⟩ → outstanding g [p] = 0 := by
    intro p hp
    refine outstanding_of_absent fun p' hp' heq => ?_
    obtain ⟨⟨h, w⟩, hw, hwg⟩ := List.mem_map.mp hg
    obtain ⟨q, hq, hqh⟩ := mem_entered hw
    rw [List.mem_singleton.mp hp'] at heq
    exact hb.counted.fresh q hq (hqh.trans (hwg.trans (heq.symm.trans hp)))
  have hnone : ∀ {qs : List (Posting α)}, 0 ≤ outstanding g qs →
      (g ∈ ([] : List Handle) ↔ 0 < outstanding g ps ∧ outstanding g (ps ++ qs) = 0) := by
    intro qs hq
    exact ⟨(fun h => by cases h), fun h => absurd h (not_closed_of_nonneg hq)⟩
  cases o with
  | insert v n =>
    rw [postings_insert]
    exact hnone (Int.le_of_eq (hold _ rfl).symm)
  | stage v =>
    rw [postings_stage]
    exact hnone (Int.le_of_eq (hold _ rfl).symm)
  | pushFrame => exact hnone (Int.le_refl 0)
  | addRef h =>
    refine hnone ?_
    rcases he : l.entry? h with - | e
    · rw [(perform_addRef_dead l he).2]
      exact Int.le_refl 0
    · obtain ⟨l', hr, -⟩ := addRef_live l he
      rw [(perform_addRef_live l hr).2]
      rw [outstanding_added]
      split <;> omega
  | release h =>
    show g ∈ l.lastRefs [h] ↔ _
    rw [hb.counted.mem_lastRefs, List.mem_singleton]
    rcases he : l.entry? h with - | e
    · rw [(perform_release_dead l he).2, List.append_nil]
      have h0 := hb.counted.dead h he
      constructor
      · rintro ⟨rfl, h1⟩
        omega
      · rintro ⟨hpos, h1⟩
        omega
    · obtain ⟨l', hr, -⟩ := release_live l he
      rw [(perform_release_live l hr).2, outstanding_append]
      rw [outstanding_released]
      by_cases hgh : g = h
      · rw [if_pos hgh.symm]
        constructor
        · rintro ⟨-, h1⟩
          omega
        · rintro ⟨-, h1⟩
          exact ⟨hgh, by omega⟩
      · rw [if_neg fun heq => hgh heq.symm]
        constructor
        · rintro ⟨heq, -⟩
          exact absurd heq hgh
        · rintro ⟨hpos, h1⟩
          omega
  | popFrame => exact hb.mem_lastRefs_covered .popFrame
  | clearCache => exact hb.mem_lastRefs_covered .clearCache

/-- No count goes below nothing. -/
theorem Counted.nonneg (hc : Counted l ps) (h : Handle) : 0 ≤ outstanding h ps := by
  rcases he : l.entry? h with - | e
  · exact Int.le_of_eq (hc.dead h he).symm
  · rw [(hc.live h e he).1]
    exact Int.natCast_nonneg _

/-- The values an operation hands back are those whose last reference it gives back. -/
theorem Balanced.perform_values (hb : Balanced l ps) (o : Operation α) :
    (l.perform o).1.values.Perm (((entered ps).filter fun e =>
      0 < outstanding e.1 ps ∧ outstanding e.1 (ps ++ l.postings o) = 0).map Prod.snd) := by
  refine HandsBack.perm hb.counted (handsBack_perform hb o)
    (P := fun h => 0 < outstanding h ps ∧ outstanding h (ps ++ l.postings o) = 0) ?_ ?_
  · intro h hh
    have : h ∈ l.lastRefs (match o with
        | .release h => [h]
        | o => l.covered o) := by
      cases o <;> exact hh
    obtain ⟨-, h1⟩ := hb.counted.mem_lastRefs.mp this
    exact (Ledger.contains_iff l).mp ((hb.counted.contains_iff h).mpr (by omega))
  · intro e he
    exact hb.mem_closing o (List.mem_map.mpr ⟨e, he, rfl⟩)

theorem Counted.drain_values (hc : Counted l ps) :
    l.drain.1.Perm (((entered ps).filter fun e => 0 < outstanding e.1 ps).map Prod.snd) := by
  refine HandsBack.perm hc (handsBack_drain hc.within) (P := fun h => 0 < outstanding h ps) ?_ ?_
  · exact fun h hh => hc.within.mem_liveHandles.mp hh
  · intro e _
    rw [hc.within.mem_liveHandles, ← Ledger.contains_iff, hc.contains_iff]

end Closing

/-! ### Whole runs -/

/-- A closed handle stays closed. -/
theorem Balanced.stays_closed {l : Ledger α} {ps : List (Posting α)} (hb : Balanced l ps)
    (o : Operation α) {e : Handle × α} (he : e ∈ entered ps) (h0 : outstanding e.1 ps = 0) :
    outstanding e.1 (ps ++ l.postings o) = 0 := by
  rw [outstanding_append, h0, Int.zero_add]
  refine outstanding_of_absent fun p hp heq => ?_
  rcases live_of_mem_postings l hp with hn | ⟨x, hx⟩
  · obtain ⟨q, hq, hqe⟩ := mem_entered he
    exact hb.counted.fresh q hq (hqe.trans (heq.symm.trans hn))
  · rw [heq] at hx
    obtain ⟨hout, hne, -⟩ := hb.counted.live e.1 x hx
    rw [h0] at hout
    exact hne (UInt32.toNat_inj.mp (by exact_mod_cast hout.symm))

/-- The handles given out that are closed by now, after one more operation: those that were closed
before it, and those it closes. -/
theorem Balanced.closed_perm {l : Ledger α} {ps : List (Posting α)} (hb : Balanced l ps)
    {o : Operation α} (hf : Fits l ps o) :
    ((entered (ps ++ l.postings o)).filter fun e => outstanding e.1 (ps ++ l.postings o) = 0).Perm
      (((entered ps).filter fun e => outstanding e.1 ps = 0) ++
        (entered ps).filter fun e =>
          0 < outstanding e.1 ps ∧ outstanding e.1 (ps ++ l.postings o) = 0) := by
  have hb' := hb.perform hf
  -- what the operation gives out has references, so it is not closed
  have hnew : (entered (l.postings o)).filter
      (fun e => outstanding e.1 (ps ++ l.postings o) = 0) = [] := by
    refine List.filter_eq_nil_iff.mpr fun e he => ?_
    have hpos : outstanding e.1 (ps ++ l.postings o) ≠ 0 := by
      obtain ⟨h, v⟩ := e
      cases o with
      | insert w n =>
        obtain ⟨rfl, rfl⟩ := Prod.mk.inj (List.mem_singleton.mp he)
        have := entry?_insert l v n ⟨l.next⟩
        rw [if_pos rfl] at this
        have := (hb'.counted.contains_iff _).mp ((Ledger.contains_iff _).mpr ⟨_, this⟩)
        exact (Int.ne_of_lt this).symm
      | stage w =>
        rw [postings_stage] at he
        obtain ⟨rfl, rfl⟩ := Prod.mk.inj (List.mem_singleton.mp he)
        have := entry?_stage l v ⟨l.next⟩
        rw [if_pos rfl] at this
        have := (hb'.counted.contains_iff _).mp ((Ledger.contains_iff _).mpr ⟨_, this⟩)
        exact (Int.ne_of_lt this).symm
      | _ =>
        have hlen := List.length_pos_of_mem he
        rw [entered_postings] at hlen
        exact absurd hlen (Nat.lt_irrefl 0)
    simpa using hpos
  -- the closed ones split into those that were closed before, which stay so, and those closed now
  have hstay : ∀ e ∈ entered ps, outstanding e.1 ps = 0 →
      outstanding e.1 (ps ++ l.postings o) = 0 := fun e he h0 => hb.stays_closed o he h0
  rw [entered_append, List.filter_append, hnew, List.append_nil]
  refine (List.filter_append_perm (fun e => decide (outstanding e.1 ps = 0)) _).symm.trans ?_
  rw [List.filter_filter, List.filter_filter]
  refine .of_eq (congrArg₂ (· ++ ·) ?_ ?_)
  · refine List.filter_congr fun e he => ?_
    have := hstay e he
    by_cases h0 : outstanding e.1 ps = 0 <;> simp_all
  · refine List.filter_congr fun e he => ?_
    have hpos := hb.counted.nonneg e.1
    rw [← decide_not, ← Bool.decide_and]
    refine decide_eq_decide.mpr (and_congr_left fun _ => ?_)
    omega

theorem Admissible.returns_perm (ops : List (Operation α)) (ha : Admissible ops) :
    (empty.returns ops).Perm (((entered (empty.history ops)).filter fun e =>
      outstanding e.1 (empty.history ops) = 0).map Prod.snd) := by
  induction ops using List.reverseRecOn with
  | nil => exact .refl _
  | append_singleton ops o ih =>
    -- induction from the end, since an operation is judged by the history before it
    have hb := balanced_run ops ha.before
    rw [returns_append, history_append]
    refine ((ih ha.before).append (hb.perform_values o)).trans ?_
    rw [← List.map_append]
    exact (hb.closed_perm ha.fits).symm.map _

/-- **The ledger over whole runs.**  After any admissible run, with `l` the ledger and `ps` the
postings of the run:

a handle is in the table exactly when references are left over, with that many references and with
the one value it was given out for; the next operation hands back the values whose count it brings
down to nothing, the whole run has handed back each closed value once, and draining hands back the
values still live; whatever is asked of a handle that is not live is refused and changes nothing;
the cache and the frames list a staged handle at most once.  A staged handle that is still listed
is live as long as the releases do not exceed the additions, and one that is no longer listed as
long as they are fewer. -/
theorem run_balances (ops : List (Operation α)) (ha : Admissible ops) :
    let l := empty.run ops
    let ps := empty.history ops
    (∀ h, l.contains h = true ↔ 0 < outstanding h ps) ∧
    (∀ h e, l.entry? h = some e →
      (e.refs.toNat : Int) = outstanding h ps ∧ (h, e.value) ∈ entered ps) ∧
    ((entered ps).map Prod.fst).Nodup ∧
    (∀ o, (l.perform o).1.values.Perm (((entered ps).filter fun e =>
      0 < outstanding e.1 ps ∧ outstanding e.1 (ps ++ l.postings o) = 0).map Prod.snd)) ∧
    (empty.returns ops).Perm
      (((entered ps).filter fun e => outstanding e.1 ps = 0).map Prod.snd) ∧
    l.drain.1.Perm (((entered ps).filter fun e => 0 < outstanding e.1 ps).map Prod.snd) ∧
    (∀ h, l.contains h = false →
      l.get h = .error (.invalidHandle h.id) ∧
      l.perform (.addRef h) = (.refused (.invalidHandle h.id), l) ∧
      l.perform (.release h) = (.refused (.invalidHandle h.id), l)) ∧
    (l.cache ++ l.frames.flatten).Nodup ∧
    (∀ h ∈ l.cache ++ l.frames.flatten, h ∈ stagedHandles ps) ∧
    (∀ h ∈ stagedHandles ps, l.contains h = true ↔
      if h ∈ l.cache ++ l.frames.flatten then released h ps ≤ added h ps
      else released h ps < added h ps) := by
  intro l ps
  have hb : Balanced l ps := balanced_run ops ha
  refine ⟨hb.counted.contains_iff, ?_, hb.counted.distinct, hb.perform_values,
    ha.returns_perm, hb.counted.drain_values, ?_, hb.listed.once, ?_, ?_⟩
  · intro h e he
    obtain ⟨hout, -, hm⟩ := hb.counted.live h e he
    exact ⟨hout.symm, hm⟩
  · intro h hdead
    have he : l.entry? h = none := by
      rw [contains, Option.isSome_eq_false_iff, Option.isNone_iff_eq_none] at hdead
      exact hdead
    exact ⟨get_dead l he, (perform_addRef_dead l he).1, (perform_release_dead l he).1⟩
  · exact fun h hh => (hb.listed.pending h hh).1
  · intro h hs
    have hg := hb.listed.opened h hs
    rw [hb.counted.contains_iff]
    by_cases hh : h ∈ l.cache ++ l.frames.flatten
    · obtain ⟨-, hd⟩ := hb.listed.pending h hh
      rw [if_pos hh, outstanding, hg, hd]
      omega
    · rw [if_neg hh]
      rcases hb.listed.settled h hs hh with h1 | ⟨h0, hz⟩
      · rw [outstanding, hg, h1]
        omega
      · -- dead before its frame ended: one release more than additions
        rw [hz]
        rw [outstanding, hg, h0] at hz
        omega

/-! ### Runs that stay small -/

/-- The references an operation can bring in. -/
def supply : Operation α → Nat
  | .insert _ n => n.toNat
  | .stage _ | .addRef _ => 1
  | _ => 0

theorem outstanding_postings_le (l : Ledger α) (o : Operation α) (h : Handle) :
    outstanding h (l.postings o) ≤ supply o := by
  have hdrop : ∀ hs : List Handle, outstanding h (hs.map (Posting.dropped (α := α))) ≤ 0 := by
    intro hs
    rw [outstanding, granted_drops, added_drops]
    omega
  cases o with
  | insert v n =>
    rw [postings_insert, outstanding_inserted, supply]
    split <;> omega
  | stage v =>
    rw [postings_stage, outstanding_staged, supply]
    split <;> omega
  | addRef g =>
    rcases he : l.entry? g with - | e
    · rw [(perform_addRef_dead l he).2]
      exact Int.zero_le_ofNat 1
    · obtain ⟨l', hr, -⟩ := addRef_live l he
      rw [(perform_addRef_live l hr).2, outstanding_added, supply]
      split <;> omega
  | release g =>
    rcases he : l.entry? g with - | e
    · rw [(perform_release_dead l he).2]
      exact Int.le_refl 0
    · obtain ⟨l', hr, -⟩ := release_live l he
      rw [(perform_release_live l hr).2, outstanding_released]
      show _ ≤ ((0 : Nat) : Int)
      split <;> omega
  | pushFrame => exact Int.le_refl 0
  | popFrame => exact hdrop _
  | clearCache => exact hdrop _

theorem outstanding_history_le (l : Ledger α) (os : List (Operation α)) (h : Handle) :
    outstanding h (l.history os) ≤ (os.map supply).sum := by
  induction os generalizing l with
  | nil => exact Int.le_refl 0
  | cons o os ih =>
    show outstanding h (l.postings o ++ (l.perform o).2.history os) ≤ _
    have h1 := outstanding_postings_le l o h
    have h2 := ih (l.perform o).2
    rw [outstanding_append, List.map_cons, List.sum_cons]
    omega

/-- A run that brings in few enough references altogether is admissible. -/
theorem Admissible.of_supply {ops : List (Operation α)}
    (hc : ∀ v n, .insert v n ∈ ops → n ≠ 0) (hs : (ops.map supply).sum < 2 ^ 32 - 1) :
    Admissible ops where
  counted := hc
  few := by
    refine Nat.lt_of_le_of_lt ?_ hs
    induction ops with
    | nil => exact Nat.le_refl 0
    | cons o os ih =>
      have ho : (if o.issues then 1 else 0) ≤ supply o := by
        cases o with
        | insert v n =>
          have : n.toNat ≠ 0 := fun h0 =>
            hc v n List.mem_cons_self (UInt32.toNat_inj.mp h0)
          exact Nat.one_le_iff_ne_zero.mpr this
        | stage v => exact Nat.le_refl 1
        | _ => exact Nat.zero_le _
      rw [List.map_cons, List.sum_cons] at hs
      have := ih (fun v n hin => hc v n (List.mem_cons_of_mem _ hin)) (by omega)
      rw [List.countP_cons, List.map_cons, List.sum_cons]
      omega
  bounded := by
    intro pre hpre h
    have h1 := outstanding_history_le empty pre h
    obtain ⟨rest, rfl⟩ := hpre
    rw [List.map_append, List.sum_append] at hs
    omega

/-- Two staged values, one kept past the clearing of the cache and one released behind its frame's
back, and one value that is still owed when the run ends. -/
def mixedRun : List (Operation Nat) :=
  [.stage 10, .addRef ⟨1⟩, .clearCache, .pushFrame, .stage 20, .release ⟨2⟩, .popFrame,
    .insert 30 2, .release ⟨1⟩, .release ⟨1⟩, .release ⟨3⟩]

theorem run_balances_mixedRun :
    Admissible mixedRun ∧ (empty.returns mixedRun).Perm [10, 20] ∧
      (empty.run mixedRun).drain.1.Perm [30] := by
  have ha : Admissible mixedRun := by
    refine Admissible.of_supply ?_ (by decide)
    intro v n hin
    simp only [mixedRun, List.mem_cons, reduceCtorEq, Operation.insert.injEq, List.not_mem_nil,
      false_or, or_false] at hin
    rw [hin.2]
    decide
  obtain ⟨-, -, -, -, hreturns, hdrain, -⟩ := run_balances mixedRun ha
  exact ⟨ha, hreturns, hdrain⟩

end ScriptBridge.Ledger
