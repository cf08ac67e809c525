import ScriptBridge.Proofs.LedgerTrails

/-!
References of the host's own keep a handle alive.

    releases h  <  retains h + held h      →      h is live

Design.  The postings of a trail balance (`Ledger.Balanced`), and the journal tells of all of them but those
that the cache and the frames give back.  Of these there is one for each staging at most, so whatever the
cache and the frames do, the references that the host has taken and not given back remain.

The bounds are those of the balance: there are numbers left for handles, and no count outgrows its
32 bits.
-/
namespace ScriptBridge

open Data Text Script

/-- Numbers are left for handles, and for counts. -/
structure InBounds (es : List Occurrence) : Prop where
  few : (givenOut es).length < 2 ^ 32 - 1
  counts : ∀ h, retains h es < 2 ^ 32 - 1

theorem InBounds.before {es : List Occurrence} (fs : List Occurrence) (hb : InBounds (fs ++ es)) : InBounds es where
  few := by
    have := hb.few
    rw [givenOut_append, List.length_append] at this
    omega
  counts h := by
    have := hb.counts h
    rw [retains_append] at this
    omega

namespace Ledger

variable {α : Type}

/-! ### Postings -/

def Posting.isHeld (h : Handle) : Posting α → Bool
  | inserted g _ _ => g == h
  | _ => false

/-- How often `h` was given out for a value that is in no frame and not in the cache. -/
def held (h : Handle) (ps : List (Posting α)) : Nat := ps.countP (Posting.isHeld h)

@[simp] theorem held_append (h : Handle) (ps qs : List (Posting α)) :
    held h (ps ++ qs) = held h ps + held h qs := List.countP_append

/-- What is given out is staged or held. -/
theorem count_entered (h : Handle) (ps : List (Posting α)) :
    ((entered ps).map Prod.fst).count h = (stagedHandles ps).count h + held h ps := by
  induction ps with
  | nil => rfl
  | cons p ps ih =>
    show ((entered ([p] ++ ps)).map Prod.fst).count h
      = (stagedHandles ([p] ++ ps)).count h + held h ([p] ++ ps)
    have hone : ((entered [p]).map Prod.fst).count h = (stagedHandles [p]).count h + held h [p] := by
      cases p with
      | inserted g v n =>
        show [g].count h = [].count h + held h [.inserted g v n]
        by_cases hg : g = h <;> simp [held, Posting.isHeld, hg]
      | staged g v => rfl
      | _ => rfl
    rw [entered_append, stagedHandles_append, held_append, List.map_append, List.count_append,
      List.count_append]
    omega

/-- The postings of an operation are of one kind. -/
theorem postings_cases (l : Ledger α) (o : Operation α) :
    (∃ v n, o = .insert v n ∧ l.postings o = [.inserted ⟨l.next⟩ v n]) ∨
    (∃ v, o = .stage v ∧ l.postings o = [.staged ⟨l.next⟩ v]) ∨
    (∃ h, l.postings o = [.added h] ∨ l.postings o = [.released h]) ∨
    ∃ hs : List Handle, (∀ h ∈ hs, h ∈ l.covered o) ∧ l.postings o = hs.map .dropped := by
  have covered : ∀ o : Operation α, ∀ h ∈ (l.covered o).filter l.contains, h ∈ l.covered o :=
    fun _ _ hh => (List.mem_filter.mp hh).1
  cases o with
  | insert v n => exact .inl ⟨v, n, rfl, rfl⟩
  | stage v => exact .inr (.inl ⟨v, rfl, postings_stage l v⟩)
  | addRef h =>
    rcases he : l.entry? h with - | e
    · exact .inr (.inr (.inr ⟨[], List.forall_mem_nil _, (perform_addRef_dead l he).2⟩))
    · obtain ⟨l', hr, -⟩ := addRef_live l he
      exact .inr (.inr (.inl ⟨h, .inl (perform_addRef_live l hr).2⟩))
  | release h =>
    rcases he : l.entry? h with - | e
    · exact .inr (.inr (.inr ⟨[], List.forall_mem_nil _, (perform_release_dead l he).2⟩))
    · obtain ⟨l', hr, -⟩ := release_live l he
      exact .inr (.inr (.inl ⟨h, .inr (perform_release_live l hr).2⟩))
  | pushFrame => exact .inr (.inr (.inr ⟨_, covered .pushFrame, rfl⟩))
  | popFrame => exact .inr (.inr (.inr ⟨_, covered .popFrame, rfl⟩))
  | clearCache => exact .inr (.inr (.inr ⟨_, covered .clearCache, rfl⟩))

/-- The handles that an operation covers are listed. -/
theorem mem_listed_of_covered {l : Ledger α} {o : Operation α} {h : Handle} (hh : h ∈ l.covered o) :
    h ∈ l.listed := by
  cases o with
  | popFrame => exact listed_covered_popFrame.mem_iff.mpr (List.mem_append_left _ hh)
  | clearCache => exact listed_covered_clearCache.mem_iff.mpr (List.mem_append_left _ hh)
  | _ => cases hh

namespace Trail

variable {es : List Occurrence} {ps : List (Posting Value)} {l l' : Ledger Value}

/-! ### The balance of a trail -/

/-- Every entry starts with one reference. -/
theorem granted (ht : Trail l es ps l') (h : Handle) :
    Ledger.granted h ps = ((Ledger.entered ps).map Prod.fst).count h := by
  induction ht with
  | start => rfl
  | @perform es ps l₁ o ho _ ih =>
    rw [granted_append, entered_append, List.map_append, List.count_append, ih, Nat.add_left_cancel_iff]
    obtain ⟨v, n, rfl, hp⟩ | ⟨v, rfl, hp⟩ | ⟨g, hp | hp⟩ | ⟨hs, -, hp⟩ := l₁.postings_cases o <;> rw [hp]
    · rw [ho.2]
      by_cases hg : (⟨l₁.next⟩ : Handle) = h <;>
        simp [Ledger.granted, Posting.granted, Ledger.entered, Posting.entered, hg]
    · by_cases hg : (⟨l₁.next⟩ : Handle) = h <;>
        simp [Ledger.granted, Posting.granted, Ledger.entered, Posting.entered, hg]
    · rfl
    · rfl
    · rw [granted_drops, entered_drops]
      rfl
  | entered _ _ _ _ ih => exact ih
  | aside _ _ _ ih => exact ih

variable (ht : Trail .empty es ps l)

include ht

/-- No handle is given out twice. -/
theorem nodup (hfew : (givenOut es).length < 2 ^ 32 - 1) : ((Ledger.entered ps).map Prod.fst).Nodup := by
  refine (ht.course.nodup Course.empty_next).mpr ?_
  rw [ht.told.1, List.length_map] at hfew
  omega

theorem outstanding_eq (h : Handle) : outstanding h ps = (stagedHandles ps).count h + held h ps
    + retains h es - releases h es - dropped h ps := by
  rw [outstanding, ht.granted, count_entered, (ht.told.2 h).1, (ht.told.2 h).2]
  omega

/-- The postings balance, and what is given back in bulk was staged. -/
theorem balanced (hb : InBounds es) :
    Balanced l ps ∧ ∀ h, h ∉ stagedHandles ps → dropped h ps = 0 := by
  induction ht with
  | start => exact ⟨⟨.empty, .empty⟩, fun _ _ => rfl⟩
  | @perform es ps l o ho ht ih =>
    obtain ⟨hbalanced, hdropped⟩ := ih (hb.before _)
    have ht' := ht.perform o ho
    have hfits : Fits l ps o := by
      refine ⟨?_, fun hi => ?_, fun h => ?_⟩
      · rintro v n rfl
        rw [ho.2]
        decide
      · have hfew := hb.few
        rw [ht'.told.1, List.length_map, entered_append, List.length_append, entered_postings, hi] at hfew
        simpa using hfew
      · have hone := (List.nodup_iff_count_le_one.mp (ht'.nodup hb.few)) h
        have hretained := hb.counts h
        rw [outstanding, ht'.granted, ← (ht'.told.2 h).1]
        omega
    refine ⟨hbalanced.perform hfits, fun h hh => ?_⟩
    rw [stagedHandles_append, List.mem_append, not_or] at hh
    rw [dropped_append, hdropped h hh.1, Nat.zero_add]
    -- what is covered is listed, so it was staged
    obtain ⟨v, n, rfl, hp⟩ | ⟨v, rfl, hp⟩ | ⟨g, hp | hp⟩ | ⟨hs, hcovered, hp⟩ := l.postings_cases o <;> rw [hp]
    · rfl
    · rfl
    · rfl
    · rfl
    · have hout : h ∉ hs := fun hin =>
        hh.1 (hbalanced.listed.pending h (mem_listed_of_covered (hcovered h hin))).1
      rw [dropped, List.countP_map]
      refine List.countP_eq_zero.mpr fun g hg => ?_
      have hne : g ≠ h := by
        rintro rfl
        exact hout hg
      simpa [Posting.isDropped] using hne
  | entered _ _ _ _ ih => exact ih (hb.before [_])
  | aside _ _ _ ih => exact ih (hb.before [_])

/-! ### What is live -/

theorem live_of_outstanding (hb : InBounds es) {h : Handle} (ho : 0 < outstanding h ps) :
    ∃ e, l.entry? h = some e := by
  rcases he : l.entry? h with - | e
  · rw [(ht.balanced hb).1.counted.dead h he] at ho
    cases ho
  · exact ⟨e, rfl⟩

/-- **A handle lives as long as the host has a reference of its own.** -/
theorem live_of_owned (hb : InBounds es) {h : Handle} (hown : releases h es < retains h es + held h ps) :
    ∃ e, l.entry? h = some e := by
  obtain ⟨hbalanced, hunstaged⟩ := ht.balanced hb
  refine ht.live_of_outstanding hb ?_
  have hdropped : dropped h ps ≤ (stagedHandles ps).count h := by
    by_cases hs : h ∈ stagedHandles ps
    · have hcount := List.count_pos_iff.mpr hs
      by_cases hl : h ∈ l.listed
      · have := (hbalanced.listed.pending h hl).2
        omega
      · have := hbalanced.listed.settled h hs hl
        omega
    · have := hunstaged h hs
      omega
  rw [ht.outstanding_eq]
  omega

/-- A handle lives as long as it is listed and the host has not given back more than it took. -/
theorem live_of_listed (hb : InBounds es) {h : Handle} (hl : h ∈ l.listed)
    (hfair : releases h es ≤ retains h es + held h ps) : ∃ e, l.entry? h = some e := by
  obtain ⟨hstaged, hdropped⟩ := (ht.balanced hb).1.listed.pending h hl
  have hcount := List.count_pos_iff.mpr hstaged
  refine ht.live_of_outstanding hb ?_
  rw [ht.outstanding_eq]
  omega

/-! ### What a handle stands for -/

/-- A live handle stands for the value that it was given out for. -/
theorem mem_entered {h : Handle} {e : LedgerEntry Value} (he : l.entry? h = some e) :
    (h, e.value) ∈ Ledger.entered ps := by
  rcases ht.course.origin he with hin | ⟨e₀, he₀, -⟩
  · exact hin
  · cases he₀.symm.trans (NatMap.get?_empty _)

theorem entry_kept {h : Handle} {e : LedgerEntry Value} (he : l.entry? h = some e) :
    e.value.kept = true := ht.kept _ (ht.mem_entered he)

/-- A slot tells the truth when its handle is live and was given out for a value of the slot's kind. -/
theorem truthful (hfew : (givenOut es).length < 2 ^ 32 - 1) {s : Slot} {h : Handle}
    (hs : s.handle? = some h) {v : Value} (hv : (h, v) ∈ Ledger.entered ps) (htext : s.isString = v.isText)
    (hlive : ∃ e, l.entry? h = some e) : s.Truthful l := by
  obtain ⟨e, he⟩ := hlive
  have hvalue : (h, e.value) = (h, v) :=
    List.inj_on_of_nodup_map (ht.nodup hfew) (ht.mem_entered he) hv rfl
  obtain rfl : e.value = v := (Prod.mk.inj hvalue).2
  exact Slot.truthful_of_entry hs he (ht.entry_kept he) htext

end Trail

end Ledger

end ScriptBridge
