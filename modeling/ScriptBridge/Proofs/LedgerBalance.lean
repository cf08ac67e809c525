import Mathlib.Data.List.Induction
import ScriptBridge.Proofs.LedgerHistory

/-!
The ledger balances: after every admissible run the entries, the cache and the frames are what the
postings say.

`Counted` is about the entries: a handle is live exactly while its postings leave references over,
with that many references and with the value it was issued for.  `Listed` is about the cache and
the frames: together they name each staged handle at most once, and a handle they no longer name
has given its staged reference back (or was dead by then).  Each operation preserves both
(`Counted.perform`, `Listed.perform`), hence each run (`balanced_run`).
-/
namespace ScriptBridge.Ledger

open Data

variable {α : Type}

/-! ### The entries -/

structure Counted (l : Ledger α) (ps : List (Posting α)) : Prop where
  next : l.next.toNat = (entered ps).length + 1
  known : ∀ p ∈ ps, p.handle.id.toNat < l.next.toNat
  distinct : ((entered ps).map Prod.fst).Nodup
  live : ∀ h e, l.entry? h = some e →
    outstanding h ps = e.refs.toNat ∧ e.refs ≠ 0 ∧ (h, e.value) ∈ entered ps
  dead : ∀ h, l.entry? h = none → outstanding h ps = 0
  within : l.Within

theorem Counted.empty : Counted (α := α) .empty [] where
  next := rfl
  known := by intro p hp; cases hp
  distinct := List.nodup_nil
  live := by
    intro h e he
    rw [ entry?, Ledger.empty, NatMap.get?_empty] at he
    cases he
  dead := by intro h _; rfl
  within := by intro n _; exact NatMap.get?_empty n

section Counted

variable {l l' : Ledger α} {ps : List (Posting α)}

theorem Counted.fresh (hc : Counted l ps) : ∀ p ∈ ps, p.handle ≠ ⟨l.next⟩ := by
  intro p hp heq
  have := hc.known p hp
  rw [heq] at this
  exact Nat.lt_irrefl _ this

theorem following_toNat {n : UInt32} (hn : n.toNat + 1 < 2 ^ 32) :
    (following n).toNat = n.toNat + 1 := by
  have h1 : (n + 1).toNat = n.toNat + 1 := by
    rw [UInt32.toNat_add]
    exact Nat.mod_eq_of_lt hn
  have h0 : ¬ (n + 1 == 0) = true := by
    intro h
    have := congrArg UInt32.toNat (beq_iff_eq.mp h)
    rw [h1] at this
    exact Nat.succ_ne_zero _ this
  rw [following, if_neg h0, h1]

/-- A new entry: its handle has no postings yet, and the next number does not come round. -/
theorem Counted.enter (hc : Counted l ps) {p : Posting α} {v : α} {n : UInt32}
    (hp : p.handle = ⟨l.next⟩) (he : p.entered = some (⟨l.next⟩, v)) (hn : n ≠ 0)
    (ho : outstanding ⟨l.next⟩ [p] = n.toNat)
    (hfew : (Ledger.entered ps).length + 1 < 2 ^ 32 - 1)
    (hnext : l'.next = following l.next)
    (hent : ∀ g, l'.entry? g = if g = ⟨l.next⟩ then some ⟨v, n⟩ else l.entry? g)
    (hwithin : l'.Within) :
    Counted l' (ps ++ [p]) := by
  -- the next number is above all that were given out, so `p` is the only posting of its handle
  have hep : Ledger.entered [p] = [(⟨l.next⟩, v)] := by simp [Ledger.entered, he]
  have hnn : l'.next.toNat = l.next.toNat + 1 := by
    rw [hnext]
    apply following_toNat
    have := hc.next
    omega
  have hother : ∀ g, g ≠ ⟨l.next⟩ → outstanding g (ps ++ [p]) = outstanding g ps := by
    intro g hg
    have h0 : outstanding g [p] = 0 := outstanding_of_absent fun q hq => by
      rw [List.mem_singleton.mp hq, hp]
      exact fun h => hg h.symm
    rw [outstanding_append, h0, Int.add_zero]
  refine ⟨?_, ?_, ?_, ?_, ?_, hwithin⟩
  · rw [entered_append, hep, List.length_append, hnn, hc.next]
    rfl
  · intro q hq
    rw [hnn]
    rcases List.mem_append.mp hq with hq | hq
    · exact Nat.lt_succ_of_lt (hc.known q hq)
    · rw [List.mem_singleton.mp hq, hp]
      exact Nat.lt_succ_self _
  · rw [entered_append, hep, List.map_append, List.nodup_append]
    refine ⟨hc.distinct, List.nodup_singleton _, ?_⟩
    intro g hg g' hg' heq
    obtain ⟨⟨h, w⟩, hw, rfl⟩ := List.mem_map.mp hg
    obtain ⟨q, hq, hqh⟩ := mem_entered hw
    exact hc.fresh q hq (hqh.trans (heq.trans (List.mem_singleton.mp hg')))
  · intro g e hge
    rw [hent g] at hge
    by_cases hg : g = ⟨l.next⟩
    · rw [if_pos hg] at hge
      cases hge
      rw [hg, outstanding_append, ho, outstanding_of_absent hc.fresh, entered_append, hep]
      exact ⟨Int.zero_add _, hn, List.mem_append_right _ List.mem_cons_self⟩
    · rw [if_neg hg] at hge
      obtain ⟨h1, h2, h3⟩ := hc.live g e hge
      rw [hother g hg, entered_append]
      exact ⟨h1, h2, List.mem_append_left _ h3⟩
  · intro g hge
    rw [hent g] at hge
    by_cases hg : g = ⟨l.next⟩
    · rw [if_pos hg] at hge
      cases hge
    · rw [if_neg hg] at hge
      rw [hother g hg]
      exact hc.dead g hge

/-- Postings that issue nothing: it is enough to follow the entries. -/
theorem Counted.follow (hc : Counted l ps) {qs : List (Posting α)}
    (hno : Ledger.entered qs = []) (hqs : ∀ q ∈ qs, ∃ e, l.entry? q.handle = some e)
    (hnext : l'.next = l.next)
    (hent : ∀ g, match l'.entry? g with
      | some e' => ∃ e, l.entry? g = some e ∧ e'.value = e.value ∧ e'.refs ≠ 0 ∧
          (e'.refs.toNat : Int) = e.refs.toNat + outstanding g qs
      | none => outstanding g (ps ++ qs) = 0)
    (hwithin : l'.Within) :
    Counted l' (ps ++ qs) := by
  -- what was issued stays as it is, so only the counts have to be followed
  have hent' : Ledger.entered (ps ++ qs) = Ledger.entered ps := by
    rw [entered_append, hno, List.append_nil]
  refine ⟨?_, ?_, ?_, ?_, ?_, hwithin⟩
  · rw [hent', hnext, hc.next]
  · intro q hq
    rw [hnext]
    rcases List.mem_append.mp hq with hq | hq
    · exact hc.known q hq
    · obtain ⟨e, he⟩ := hqs q hq
      obtain ⟨-, -, hm⟩ := hc.live _ e he
      obtain ⟨p, hp, hph⟩ := mem_entered hm
      rw [← hph]
      exact hc.known p hp
  · rw [hent']
    exact hc.distinct
  · intro g e' hge
    have := hent g
    rw [hge] at this
    obtain ⟨e, he, hv, hr, hsum⟩ := this
    obtain ⟨h1, -, h3⟩ := hc.live g e he
    rw [outstanding_append, h1, hent', hv]
    exact ⟨hsum.symm, hr, h3⟩
  · intro g hge
    have := hent g
    rw [hge] at this
    exact this

theorem toNat_sub_one {n : UInt32} (hn : n ≠ 0) : (n - 1).toNat + 1 = n.toNat := by
  have h0 : n.toNat ≠ 0 := fun h => hn (UInt32.toNat_inj.mp h)
  have h1 : (1 : UInt32) ≤ n := by
    rw [UInt32.le_iff_toNat_le]
    show 1 ≤ n.toNat
    omega
  rw [UInt32.toNat_sub_of_le n 1 h1]
  show n.toNat - 1 + 1 = n.toNat
  omega

/-- A handle the postings leave alone. -/
theorem Counted.keep (hc : Counted l ps) {g : Handle} {qs : List (Posting α)}
    (hown : outstanding g qs = 0) :
    match l.entry? g with
      | some e' => ∃ e, l.entry? g = some e ∧ e'.value = e.value ∧ e'.refs ≠ 0 ∧
          (e'.refs.toNat : Int) = e.refs.toNat + outstanding g qs
      | none => outstanding g (ps ++ qs) = 0 := by
  rcases he : l.entry? g with - | e
  · show outstanding g (ps ++ qs) = 0
    rw [outstanding_append, hc.dead g he, hown]
    rfl
  · exact ⟨e, rfl, rfl, (hc.live g e he).2.1, by rw [hown, Int.add_zero]⟩

/-- One reference of `g` less, as the entries see it. -/
theorem Counted.less (hc : Counted l ps) (g : Handle) (qs : List (Posting α))
    (hown : outstanding g qs = if (l.entry? g).isSome then -1 else 0) :
    match (l.entry? g).bind LedgerEntry.less with
      | some e' => ∃ e, l.entry? g = some e ∧ e'.value = e.value ∧ e'.refs ≠ 0 ∧
          (e'.refs.toNat : Int) = e.refs.toNat + outstanding g qs
      | none => outstanding g (ps ++ qs) = 0 := by
  rcases he : l.entry? g with - | e
  · show outstanding g (ps ++ qs) = 0
    rw [he] at hown
    rw [outstanding_append, hc.dead g he, hown]
    rfl
  · obtain ⟨hout, hne, -⟩ := hc.live g e he
    have hpred := toNat_sub_one hne
    rw [he] at hown
    rw [Option.bind_some, LedgerEntry.less]
    -- the entry goes with its last reference
    by_cases hlast : e.refs - 1 = 0
    · rw [if_pos hlast]
      rw [hlast] at hpred
      rw [outstanding_append, hout, hown, ← hpred]
      rfl
    · rw [if_neg hlast]
      refine ⟨e, rfl, rfl, hlast, ?_⟩
      rw [hown, ← hpred]
      show ((e.refs - 1).toNat : Int) = ((e.refs - 1).toNat + 1 : Nat) + (-1)
      omega

theorem Counted.add (hc : Counted l ps) {h : Handle} {e : LedgerEntry α}
    (he : l.entry? h = some e) (hr : l.addRef h = .ok l')
    (hbound : outstanding h (ps ++ [.added h]) ≤ 2 ^ 32 - 1) :
    Counted l' (ps ++ [.added h]) := by
  obtain ⟨l'', hr', hnext, -, -, hent⟩ := addRef_live l he
  cases hr.symm.trans hr'
  have hown : outstanding h [(.added h : Posting α)] = 1 := by
    rw [outstanding_added, if_pos rfl]
  obtain ⟨hout, hne, -⟩ := hc.live h e he
  rw [outstanding_append, hown, hout] at hbound
  -- this is where the bound is needed: a full count would wrap to nothing
  have hsum : (e.refs + 1).toNat = e.refs.toNat + 1 := by
    rw [UInt32.toNat_add]
    exact Nat.mod_eq_of_lt (by show e.refs.toNat + 1 < 2 ^ 32; omega)
  refine hc.follow rfl ?_ hnext ?_ (hc.within.addRef hr)
  · intro q hq
    rw [List.mem_singleton.mp hq]
    exact ⟨e, he⟩
  · intro g
    rw [hent g]
    by_cases hg : g = h
    · rw [if_pos hg, hg]
      refine ⟨e, he, rfl, ?_, ?_⟩
      · intro h0
        have := congrArg UInt32.toNat h0
        rw [hsum] at this
        exact Nat.succ_ne_zero _ this
      · rw [hown, hsum]
        rfl
    · rw [if_neg hg]
      exact hc.keep (outstanding_of_absent fun q hq => by
        rw [List.mem_singleton.mp hq]
        exact fun heq => hg heq.symm)

theorem Counted.release (hc : Counted l ps) {h : Handle} {e : LedgerEntry α} {v : Option α}
    (he : l.entry? h = some e) (hr : l.release h = .ok (v, l')) :
    Counted l' (ps ++ [.released h]) := by
  obtain ⟨l'', hr', hnext, -, -, hent⟩ := release_live l he
  cases hr.symm.trans hr'
  have hown : outstanding h [(.released h : Posting α)] = -1 := by
    rw [outstanding_released, if_pos rfl]
  refine hc.follow rfl ?_ hnext ?_ (hc.within.release hr)
  · intro q hq
    rw [List.mem_singleton.mp hq]
    exact ⟨e, he⟩
  · intro g
    rw [hent g]
    by_cases hg : g = h
    · have := hc.less h [.released h] (by rw [hown, he]; rfl)
      rw [he] at this
      rw [if_pos hg, hg, he]
      exact this
    · rw [if_neg hg]
      exact hc.keep (outstanding_of_absent fun q hq => by
        rw [List.mem_singleton.mp hq]
        exact fun heq => hg heq.symm)

/-- Giving back a list of handles: one reference of each that is live. -/
theorem Counted.drop (hc : Counted l ps) {l₀ : Ledger α} {hs : List Handle} (hn : hs.Nodup)
    (hentries : l₀.entries = l.entries) (hnext : l₀.next = l.next) :
    Counted (l₀.releaseAll hs).2 (ps ++ (hs.filter l.contains).map .dropped) := by
  have hsame : ∀ g, l₀.entry? g = l.entry? g := by
    intro g
    rw [ entry?, entry?, hentries]
  have hwithin : l₀.Within := by
    rw [Within, hentries]
    exact hc.within
  refine hc.follow (entered_drops _) ?_ ?_ ?_ (hwithin.releaseAll hs)
  · intro q hq
    obtain ⟨h, hh, rfl⟩ := List.mem_map.mp hq
    exact (contains_iff l).mp (List.mem_filter.mp hh).2
  · rw [(releaseAll_rest l₀ hs).1, hnext]
  · intro g
    rw [entry?_releaseAll l₀ hn, hsame g]
    have hown := outstanding_drops (α := α) g (hn.filter l.contains)
    by_cases hg : g ∈ hs
    · rw [if_pos hg]
      apply hc.less
      rw [hown]
      simp [hg, contains]
    · rw [if_neg hg]
      apply hc.keep
      rw [hown, if_neg fun h => hg (List.mem_of_mem_filter h)]

end Counted

/-! ### The cache and the frames -/

structure Listed (l : Ledger α) (ps : List (Posting α)) : Prop where
  once : l.listed.Nodup
  pending : ∀ h ∈ l.listed, h ∈ stagedHandles ps ∧ dropped h ps = 0
  settled : ∀ h ∈ stagedHandles ps, h ∉ l.listed →
    dropped h ps = 1 ∨ dropped h ps = 0 ∧ outstanding h ps = 0
  opened : ∀ h ∈ stagedHandles ps, granted h ps = 1

theorem Listed.empty : Listed (α := α) .empty [] where
  once := List.nodup_nil
  pending := by intro h hh; cases hh
  settled := by intro h hh; cases hh
  opened := by intro h hh; cases hh

section Listed

variable {l l' : Ledger α} {ps : List (Posting α)}

theorem listed_stage (v : α) : (l.stage v).2.listed.Perm (⟨l.next⟩ :: l.listed) := by
  rw [listed, stage_cache, stage_frames, listed]
  rcases hf : l.frames with - | ⟨frame, rest⟩
  · rw [if_pos rfl]
    simp
  · have hne : ¬ frame :: rest = [] := List.cons_ne_nil _ _
    rw [if_neg hne]
    simp only [List.flatten_cons, List.append_assoc, List.singleton_append]
    rw [← List.append_assoc, ← List.append_assoc]
    exact List.perm_middle

theorem listed_covered_popFrame :
    l.listed.Perm (l.covered .popFrame ++ l.popFrame.2.listed) := by
  rcases hf : l.frames with - | ⟨frame, rest⟩
  · simp [covered, popFrame, listed, hf]
  · obtain ⟨-, hc, hfr⟩ := releaseAll_rest { l with frames := rest } frame
    rw [popFrame_cons l hf, listed, listed, hc, hfr, covered, hf]
    show (l.cache ++ (frame ++ rest.flatten)).Perm (frame ++ (l.cache ++ rest.flatten))
    rw [← List.append_assoc, ← List.append_assoc]
    exact List.perm_append_comm.append_right _

theorem listed_covered_clearCache :
    l.listed.Perm (l.covered .clearCache ++ l.clearCache.2.listed) := by
  obtain ⟨-, hc, hfr⟩ := releaseAll_rest { l with cache := [] } l.cache
  rw [clearCache, listed, listed, hc, hfr]
  exact .refl _

/-- Nothing staged and nothing dropped. -/
theorem Listed.keep (hl : Listed l ps) {qs : List (Posting α)} (hsame : l'.listed = l.listed)
    (hno : stagedHandles qs = [])
    (hqs : ∀ g ∈ stagedHandles ps, granted g qs = 0 ∧ dropped g qs = 0 ∧
      (outstanding g ps = 0 → outstanding g qs = 0)) :
    Listed l' (ps ++ qs) := by
  have hst : stagedHandles (ps ++ qs) = stagedHandles ps := by
    rw [stagedHandles_append, hno, List.append_nil]
  refine ⟨?_, ?_, ?_, ?_⟩
  · rw [hsame]
    exact hl.once
  · intro h hh
    rw [hsame] at hh
    obtain ⟨hs, hd⟩ := hl.pending h hh
    rw [hst, dropped_append, hd, (hqs h hs).2.1]
    exact ⟨hs, rfl⟩
  · intro h hs hh
    rw [hst] at hs
    rw [hsame] at hh
    obtain ⟨-, hd, ho⟩ := hqs h hs
    rw [dropped_append, hd, outstanding_append]
    rcases hl.settled h hs hh with h1 | ⟨h0, hz⟩
    · exact .inl h1
    · exact .inr ⟨h0, by rw [hz, ho hz]; rfl⟩
  · intro h hs
    rw [hst] at hs
    rw [granted_append, hl.opened h hs, (hqs h hs).1]

theorem Listed.stage (hl : Listed l ps) (hc : Counted l ps) (v : α) :
    Listed (l.stage v).2 (ps ++ [.staged ⟨l.next⟩ v]) := by
  have hperm := listed_stage (l := l) v
  have hst : stagedHandles (ps ++ [.staged ⟨l.next⟩ v]) = stagedHandles ps ++ [⟨l.next⟩] := by
    rw [stagedHandles_append]
    rfl
  -- the new handle is listed once, and nothing that was staged before has its number
  have hold : ∀ g ∈ stagedHandles ps, g ≠ ⟨l.next⟩ := by
    rintro g hg rfl
    obtain ⟨p, hp, hph⟩ := mem_stagedHandles hg
    exact hc.fresh p hp hph
  have hzero : ∀ g, g ≠ ⟨l.next⟩ → ∀ p ∈ [(.staged ⟨l.next⟩ v : Posting α)], p.handle ≠ g := by
    intro g hg p hp
    rw [List.mem_singleton.mp hp]
    exact fun h => hg h.symm
  refine ⟨?_, ?_, ?_, ?_⟩
  · refine hperm.nodup_iff.mpr (List.nodup_cons.mpr ⟨?_, hl.once⟩)
    exact fun hn => hold _ (hl.pending _ hn).1 rfl
  · intro h hh
    rw [hst, dropped_append]
    rcases List.mem_cons.mp (hperm.mem_iff.mp hh) with rfl | hh
    · obtain ⟨-, -, -, hd⟩ := columns_of_absent hc.fresh
      rw [hd]
      exact ⟨List.mem_append_right _ List.mem_cons_self, rfl⟩
    · obtain ⟨hs, hd⟩ := hl.pending h hh
      obtain ⟨-, -, -, hd'⟩ := columns_of_absent (hzero h (hold h hs))
      rw [hd, hd']
      exact ⟨List.mem_append_left _ hs, rfl⟩
  · intro h hs hh
    rw [hst] at hs
    rcases List.mem_append.mp hs with hs | hs
    · have hnl : h ∉ l.listed := fun hin =>
        hh (hperm.mem_iff.mpr (List.mem_cons_of_mem _ hin))
      have habs := hzero h (hold h hs)
      obtain ⟨-, -, -, hd'⟩ := columns_of_absent habs
      rw [dropped_append, outstanding_append, hd', outstanding_of_absent habs, Int.add_zero]
      exact hl.settled h hs hnl
    · rw [List.mem_singleton.mp hs] at hh
      exact absurd (hperm.mem_iff.mpr List.mem_cons_self) hh
  · intro h hs
    rw [hst] at hs
    rw [granted_append]
    rcases List.mem_append.mp hs with hs | hs
    · obtain ⟨hg, -⟩ := columns_of_absent (hzero h (hold h hs))
      rw [hl.opened h hs, hg]
    · obtain ⟨hg, -⟩ := columns_of_absent hc.fresh
      rw [List.mem_singleton.mp hs, hg]
      simp [granted, Posting.granted]

theorem Listed.drop (hl : Listed l ps) (hc : Counted l ps) {hs : List Handle}
    (hperm : l.listed.Perm (hs ++ l'.listed)) :
    Listed l' (ps ++ (hs.filter l.contains).map .dropped) := by
  obtain ⟨hnhs, hnl', hdisj⟩ := List.nodup_append.mp (hperm.nodup_iff.mp hl.once)
  have hin : ∀ g, g ∈ l.listed ↔ g ∈ hs ∨ g ∈ l'.listed := fun g =>
    hperm.mem_iff.trans List.mem_append
  have hst : stagedHandles (ps ++ (hs.filter l.contains).map .dropped) = stagedHandles ps := by
    rw [stagedHandles_append, stagedHandles_drops, List.append_nil]
  have hdrop := fun g => dropped_drops (α := α) g (hnhs.filter l.contains)
  refine ⟨hnl', ?_, ?_, ?_⟩
  · intro h hh
    obtain ⟨hs', hd⟩ := hl.pending h ((hin h).mpr (.inr hh))
    have hout : h ∉ hs.filter l.contains := fun hm =>
      hdisj h (List.mem_of_mem_filter hm) h hh rfl
    rw [hst, dropped_append, hd, hdrop h, if_neg hout]
    exact ⟨hs', rfl⟩
  · intro h hs' hh
    rw [hst] at hs'
    rw [dropped_append, hdrop h]
    by_cases hcov : h ∈ hs
    · obtain ⟨-, hd⟩ := hl.pending h ((hin h).mpr (.inl hcov))
      rcases he : l.entry? h with - | e
      · -- already dead when its turn came: passed over
        have hout : h ∉ hs.filter l.contains := by
          intro hm
          have := (List.mem_filter.mp hm).2
          rw [contains, he] at this
          cases this
        rw [hd, if_neg hout, outstanding_append, hc.dead h he,
          outstanding_drops h (hnhs.filter _), if_neg hout]
        exact .inr ⟨rfl, rfl⟩
      · have hm : h ∈ hs.filter l.contains :=
          List.mem_filter.mpr ⟨hcov, (contains_iff l).mpr ⟨e, he⟩⟩
        rw [hd, if_pos hm]
        exact .inl rfl
    -- not among those that are given back: it was not listed before either
    · have hout : h ∉ hs.filter l.contains := fun hm => hcov (List.mem_of_mem_filter hm)
      have hnl : h ∉ l.listed := by
        intro hl'
        rcases (hin h).mp hl' with h1 | h1
        · exact hcov h1
        · exact hh h1
      rw [if_neg hout, outstanding_append, outstanding_drops h (hnhs.filter _), if_neg hout,
        Int.add_zero]
      exact hl.settled h hs' hnl
  · intro h hs'
    rw [hst] at hs'
    rw [granted_append, granted_drops, hl.opened h hs']

end Listed

/-! ### One operation, and any run -/

structure Balanced (l : Ledger α) (ps : List (Posting α)) : Prop where
  counted : Counted l ps
  listed : Listed l ps

section Steps

variable {l : Ledger α} {ps : List (Posting α)}

/-- What one more operation has to respect. -/
structure Fits (l : Ledger α) (ps : List (Posting α)) (o : Operation α) : Prop where
  counted : ∀ v n, o = .insert v n → n ≠ 0
  few : o.issues = true → (entered ps).length + 1 < 2 ^ 32 - 1
  bounded : ∀ h, outstanding h (ps ++ l.postings o) ≤ 2 ^ 32 - 1

theorem Balanced.insert (hb : Balanced l ps) {v : α} {n : UInt32} (hf : Fits l ps (.insert v n)) :
    Balanced (l.insert v n).2 (ps ++ [.inserted ⟨l.next⟩ v n]) := by
  have hown : outstanding ⟨l.next⟩ [.inserted ⟨l.next⟩ v n] = n.toNat := by
    rw [outstanding_inserted, if_pos rfl]
  refine ⟨?_, ?_⟩
  · exact hb.counted.enter rfl rfl (hf.counted v n rfl) hown (hf.few rfl) rfl
      (entry?_insert l v n) (hb.counted.within.insert v n)
  · refine hb.listed.keep rfl rfl ?_
    intro g hg
    have habs : ∀ p ∈ [Posting.inserted ⟨l.next⟩ v n], p.handle ≠ g := by
      intro p hp heq
      obtain ⟨q, hq, hqg⟩ := mem_stagedHandles hg
      rw [List.mem_singleton.mp hp] at heq
      exact hb.counted.fresh q hq (hqg.trans heq.symm)
    obtain ⟨hgr, -, -, hd⟩ := columns_of_absent habs
    exact ⟨hgr, hd, fun _ => outstanding_of_absent habs⟩

theorem Balanced.stage (hb : Balanced l ps) {v : α} (hf : Fits l ps (.stage v)) :
    Balanced (l.stage v).2 (ps ++ [.staged ⟨l.next⟩ v]) := by
  have hown : outstanding ⟨l.next⟩ [.staged ⟨l.next⟩ v] = (1 : UInt32).toNat := by
    rw [outstanding_staged, if_pos rfl]
    rfl
  refine ⟨?_, hb.listed.stage hb.counted v⟩
  exact hb.counted.enter rfl rfl (by decide) hown (hf.few rfl) (stage_next l v)
    (entry?_stage l v) (hb.counted.within.stage v)

/-- One reference more or less of a handle that is live: no staged handle is dead and touched. -/
theorem Balanced.touch (hb : Balanced l ps) {l' : Ledger α} {h : Handle} {e : LedgerEntry α}
    (he : l.entry? h = some e) {p : Posting α} (hp : p.handle = h) (hst : p.stagedHandle = none)
    (hgd : ∀ g, granted g [p] = 0 ∧ dropped g [p] = 0) (hlisted : l'.listed = l.listed)
    (hc : Counted l' (ps ++ [p])) : Balanced l' (ps ++ [p]) := by
  refine ⟨hc, hb.listed.keep hlisted (by simp [stagedHandles, hst]) ?_⟩
  intro g hg
  refine ⟨(hgd g).1, (hgd g).2, ?_⟩
  intro hz
  have hgh : g ≠ h := by
    rintro rfl
    obtain ⟨hout, hne, -⟩ := hb.counted.live g e he
    rw [hz] at hout
    exact hne (UInt32.toNat_inj.mp (by exact_mod_cast hout.symm))
  exact outstanding_of_absent fun q hq => by
    rw [List.mem_singleton.mp hq, hp]
    exact hgh.symm

theorem Balanced.addRef (hb : Balanced l ps) {h : Handle} (hf : Fits l ps (.addRef h)) :
    Balanced (l.perform (.addRef h)).2 (ps ++ l.postings (.addRef h)) := by
  rcases he : l.entry? h with - | e
  · obtain ⟨hp, hq⟩ := perform_addRef_dead l he
    rw [hp, hq, List.append_nil]
    exact hb
  · obtain ⟨l', hr, -, hcache, hframes, -⟩ := addRef_live l he
    obtain ⟨hp, hq⟩ := perform_addRef_live l hr
    have hbound := hf.bounded h
    rw [hq] at hbound
    rw [hp, hq]
    refine hb.touch he rfl rfl ?_ ?_ (hb.counted.add he hr hbound)
    · intro g
      simp [granted, dropped, Posting.granted, Posting.isDropped]
    · rw [Ledger.listed, Ledger.listed, hcache, hframes]

theorem Balanced.release (hb : Balanced l ps) (h : Handle) :
    Balanced (l.perform (.release h)).2 (ps ++ l.postings (.release h)) := by
  rcases he : l.entry? h with - | e
  · obtain ⟨hp, hq⟩ := perform_release_dead l he
    rw [hp, hq, List.append_nil]
    exact hb
  · obtain ⟨l', hr, -, hcache, hframes, -⟩ := release_live l he
    obtain ⟨hp, hq⟩ := perform_release_live l hr
    rw [hp, hq]
    refine hb.touch he rfl rfl ?_ ?_ (hb.counted.release he hr)
    · intro g
      simp [granted, dropped, Posting.granted, Posting.isDropped]
    · rw [Ledger.listed, Ledger.listed, hcache, hframes]

/-- The handles that a bulk operation covers are listed once. -/
theorem Balanced.nodup_covered (hb : Balanced l ps) (o : Operation α) : (l.covered o).Nodup := by
  have hpop := listed_covered_popFrame (l := l)
  have hclear := listed_covered_clearCache (l := l)
  cases o with
  | popFrame => exact (List.nodup_append.mp (hpop.nodup_iff.mp hb.listed.once)).1
  | clearCache => exact (List.nodup_append.mp (hclear.nodup_iff.mp hb.listed.once)).1
  | _ => exact List.nodup_nil

theorem Balanced.popFrame (hb : Balanced l ps) :
    Balanced l.popFrame.2 (ps ++ l.postings .popFrame) := by
  refine ⟨?_, hb.listed.drop hb.counted listed_covered_popFrame⟩
  rcases hf : l.frames with - | ⟨frame, rest⟩
  · have hp : l.popFrame = ([], l) := by rw [Ledger.popFrame, hf]
    have hq : l.postings .popFrame = [] := by
      show ((l.frames.headD []).filter l.contains).map _ = _
      rw [hf]
      rfl
    rw [hp, hq, List.append_nil]
    exact hb.counted
  · have hn := hb.nodup_covered .popFrame
    have hq : l.postings .popFrame = (frame.filter l.contains).map .dropped := by
      show ((l.frames.headD []).filter l.contains).map _ = _
      rw [hf]
      rfl
    rw [covered, hf] at hn
    rw [popFrame_cons l hf, hq]
    exact hb.counted.drop hn rfl rfl

theorem Balanced.clearCache (hb : Balanced l ps) :
    Balanced l.clearCache.2 (ps ++ l.postings .clearCache) :=
  ⟨hb.counted.drop (hb.nodup_covered .clearCache) rfl rfl,
    hb.listed.drop hb.counted listed_covered_clearCache⟩

theorem Balanced.pushFrame (hb : Balanced l ps) : Balanced l.pushFrame ps := by
  have hlisted : l.pushFrame.listed = l.listed := rfl
  refine ⟨⟨hb.counted.next, hb.counted.known, hb.counted.distinct, hb.counted.live,
    hb.counted.dead, hb.counted.within⟩, ?_⟩
  exact ⟨hlisted ▸ hb.listed.once, hlisted ▸ hb.listed.pending, hlisted ▸ hb.listed.settled,
    hb.listed.opened⟩

theorem Balanced.perform (hb : Balanced l ps) {o : Operation α} (hf : Fits l ps o) :
    Balanced (l.perform o).2 (ps ++ l.postings o) := by
  cases o with
  | insert v n => exact hb.insert hf
  | stage v =>
    rw [postings_stage]
    exact hb.stage hf
  | addRef h => exact hb.addRef hf
  | release h => exact hb.release h
  | pushFrame =>
    have hq : l.postings .pushFrame = [] := rfl
    rw [hq, List.append_nil]
    exact hb.pushFrame
  | popFrame => exact hb.popFrame
  | clearCache => exact hb.clearCache

end Steps

theorem run_append (l : Ledger α) (os : List (Operation α)) (o : Operation α) :
    l.run (os ++ [o]) = ((l.run os).perform o).2 := by
  induction os generalizing l with
  | nil => rfl
  | cons a os ih => exact ih _

theorem history_append (l : Ledger α) (os : List (Operation α)) (o : Operation α) :
    l.history (os ++ [o]) = l.history os ++ (l.run os).postings o := by
  induction os generalizing l with
  | nil => exact List.append_nil _
  | cons a os ih =>
    show l.postings a ++ (l.perform a).2.history (os ++ [o]) = _
    rw [ih, ← List.append_assoc]
    rfl

theorem returns_append (l : Ledger α) (os : List (Operation α)) (o : Operation α) :
    l.returns (os ++ [o]) = l.returns os ++ ((l.run os).perform o).1.values := by
  induction os generalizing l with
  | nil => exact List.append_nil _
  | cons a os ih =>
    show (l.perform a).1.values ++ (l.perform a).2.returns (os ++ [o]) = _
    rw [ih, ← List.append_assoc]
    rfl

/-- An operation posts one new handle if it issues one, and none otherwise. -/
theorem entered_postings (l : Ledger α) (o : Operation α) :
    (entered (l.postings o)).length = if o.issues then 1 else 0 := by
  cases o with
  | insert v n => rfl
  | stage v =>
    rw [postings_stage]
    rfl
  | addRef h =>
    rcases he : l.entry? h with - | e
    · rw [(perform_addRef_dead l he).2]
      rfl
    · obtain ⟨l', hr, -⟩ := addRef_live l he
      rw [(perform_addRef_live l hr).2]
      rfl
  | release h =>
    rcases he : l.entry? h with - | e
    · rw [(perform_release_dead l he).2]
      rfl
    · obtain ⟨l', hr, -⟩ := release_live l he
      rw [(perform_release_live l hr).2]
      rfl
  | pushFrame => rfl
  | popFrame => exact congrArg List.length (entered_drops _)
  | clearCache => exact congrArg List.length (entered_drops _)

theorem length_entered_history (l : Ledger α) (os : List (Operation α)) :
    (entered (l.history os)).length = os.countP Operation.issues := by
  induction os generalizing l with
  | nil => rfl
  | cons o os ih =>
    show (entered (l.postings o ++ (l.perform o).2.history os)).length = _
    rw [entered_append, List.length_append, entered_postings, ih, List.countP_cons, Nat.add_comm]

section Admissible

variable {ops : List (Operation α)} {o : Operation α}

theorem Admissible.before (ha : Admissible (ops ++ [o])) : Admissible ops where
  counted := fun v n hin => ha.counted v n (List.mem_append_left _ hin)
  few := by
    have := ha.few
    rw [List.countP_append] at this
    omega
  bounded := fun pre hpre => ha.bounded pre (hpre.trans (List.prefix_append _ _))

theorem Admissible.fits (ha : Admissible (ops ++ [o])) :
    Fits (empty.run ops) (empty.history ops) o where
  counted := by
    rintro v n rfl
    exact ha.counted v n (List.mem_append_right _ List.mem_cons_self)
  few := by
    intro hi
    have := ha.few
    rw [List.countP_append] at this
    rw [length_entered_history]
    simpa [hi] using this
  bounded := by
    intro h
    rw [← history_append]
    exact ha.bounded _ (List.prefix_refl _) h

end Admissible

/-- The ledger balances after every admissible run. -/
theorem balanced_run (ops : List (Operation α)) (ha : Admissible ops) :
    Balanced (empty.run ops) (empty.history ops) := by
  induction ops using List.reverseRecOn with
  | nil => exact ⟨.empty, .empty⟩
  | append_singleton ops o ih =>
    rw [run_append, history_append]
    exact (ih ha.before).perform ha.fits

end ScriptBridge.Ledger
