import ScriptBridge.Proofs.CallbackFrames
import ScriptBridge.Proofs.HandleNumbers
import ScriptBridge.Proofs.Serving

/-!
The ledger of a bridge leaves a trail in the journal.

    Trail l es ps l'   :   operations that post `ps` lead from `l` to `l'`,
                           and the journal tells of them, and of nothing else of the ledger, by `es`

Design.  A bridge touches its ledger by the ledger's own operations only, and whatever it gives a handle
for is a string or an object.  The host is entered with slots that tell the truth about the ledger of that
moment; that is part of the trail, so it is known of every entering, whatever the depth of the frames.
What is known of courses and of postings is then known of every run, of every callback and of every
operation of a context.  `Follows` is any sequence of such things, and of the parts of them, so that it may
begin and end in the middle of an operation.
-/
namespace ScriptBridge

open Data Text Script Script.Script

variable {σ α : Type}

/-! ### Handles in the journal -/

namespace Occurrence

def issued? : Occurrence → Option Handle
  | issued h => some h
  | _ => none

/-- Neither about the ledger, nor an entering of the host. -/
def isAside : Occurrence → Bool
  | issued _ | retained _ | released _ | entered .. => false
  | _ => true

end Occurrence

/-- The handles that were given out, the first first. -/
def givenOut (es : List Occurrence) : List Handle := (es.filterMap Occurrence.issued?).reverse

theorem givenOut_append (fs es : List Occurrence) :
    givenOut (fs ++ es) = givenOut es ++ givenOut fs := by
  rw [givenOut, List.filterMap_append, List.reverse_append]
  rfl

theorem issues_eq_count (h : Handle) (es : List Occurrence) : issues h es = (givenOut es).count h := by
  have hissued : Occurrence.isIssued h = fun x => (x.issued?.map (· == h)).getD false := by
    funext x
    cases x <;> rfl
  rw [givenOut, List.count_reverse, List.count, List.countP_filterMap, issues, hissued]

theorem retains_append (h : Handle) (fs es : List Occurrence) :
    retains h (fs ++ es) = retains h fs + retains h es := List.countP_append

theorem releases_append (h : Handle) (fs es : List Occurrence) :
    releases h (fs ++ es) = releases h fs + releases h es := List.countP_append

namespace Ledger

/-- What the journal tells of a posting; of references that are given back in bulk it tells nothing. -/
def Posting.told : Posting Value → Option Occurrence
  | inserted h _ _ | staged h _ => some (.issued h)
  | added h => some (.retained h)
  | released h => some (.released h)
  | dropped _ => none

/-- What the journal tells of postings, the latest first. -/
def tale (ps : List (Posting Value)) : List Occurrence := (ps.filterMap Posting.told).reverse

section Tale

variable (h : Handle) (ps : List (Posting Value))

theorem retains_tale : retains h (tale ps) = added h ps := by
  have hadded : Posting.isAdded h = fun p : Posting Value =>
      (p.told.map (Occurrence.isRetained h)).getD false := by
    funext p
    cases p <;> rfl
  rw [retains, tale, List.countP_reverse, List.countP_filterMap, added, hadded]

theorem releases_tale : releases h (tale ps) = Ledger.released h ps := by
  have hreleased : Posting.isReleased h = fun p : Posting Value =>
      (p.told.map (Occurrence.isReleased h)).getD false := by
    funext p
    cases p <;> rfl
  rw [releases, tale, List.countP_reverse, List.countP_filterMap, Ledger.released, hreleased]

theorem givenOut_tale : givenOut (tale ps) = (entered ps).map Prod.fst := by
  rw [givenOut, tale, List.filterMap_reverse, List.reverse_reverse, List.filterMap_filterMap, entered,
    List.map_filterMap]
  refine congrArg (List.filterMap · ps) (funext fun p => ?_)
  cases p <;> rfl

end Tale

/-- What the bridge does to its ledger: it puts in strings and objects only, each with one reference. -/
def Operation.Proper : Operation Value → Prop
  | .insert v n => v.kept = true ∧ n = 1
  | .stage v => v.kept = true
  | _ => True

/-- A posting opens an entry just when its operation gives a handle out. -/
theorem entered_postings_eq (l : Ledger α) (o : Operation α) : entered (l.postings o) = l.gives o := by
  cases o with
  | insert v n => rfl
  | stage v =>
    rw [postings_stage]
    show [((⟨l.next⟩ : Handle), v)] = [((l.stage v).1, v)]
    rw [stage_fst]
  | _ => exact List.eq_nil_of_length_eq_zero (entered_postings l _)

end Ledger

/-! ### Slots that tell the truth -/

/-- The handle that the slot carries, if it carries one, is live; its value is a string if the slot is
a script string's, and otherwise an object. -/
def Slot.Truthful (s : Slot) (l : Ledger Value) : Prop :=
  ∀ h, s.handle? = some h →
    if s.isString then ∃ u mark, l.get h = .ok (.string u mark) else ∃ r, l.get h = .ok (.object r)

theorem Slot.truthful_of_entry {s : Slot} {l : Ledger Value} {h : Handle} (hs : s.handle? = some h)
    {e : LedgerEntry Value} (he : l.entry? h = some e) (hk : e.value.kept = true)
    (ht : s.isString = e.value.isText) : s.Truthful l := by
  intro g hg
  cases hs.symm.trans hg
  have hget := Ledger.get_live l he
  rw [ht]
  rcases e with ⟨v, n⟩
  cases v with
  | string u mark => exact ⟨u, mark, hget⟩
  | object r => exact ⟨r, hget⟩
  | _ => cases hk

/-- A slot that tells the truth has an entry, of its own kind. -/
theorem Slot.Truthful.entry {s : Slot} {l : Ledger Value} {h : Handle} (ht : s.Truthful l)
    (hs : s.handle? = some h) : ∃ e, l.entry? h = some e ∧ e.value.kept = true ∧
      s.isString = e.value.isText := by
  have hval := ht h hs
  rcases he : l.entry? h with - | e
  · rw [Ledger.get_dead l he] at hval
    split at hval <;> simp at hval
  · refine ⟨e, rfl, ?_⟩
    rw [Ledger.get_live l he] at hval
    rcases e with ⟨v, n⟩
    cases hstring : s.isString with
    | true =>
      rw [hstring] at hval
      obtain ⟨u, mark, hv⟩ := hval
      cases hv
      exact ⟨rfl, rfl⟩
    | false =>
      rw [hstring] at hval
      obtain ⟨r, hv⟩ := hval
      cases hv
      exact ⟨rfl, rfl⟩

/-! ### Trails -/

namespace Ledger

/-- From one ledger to another, with what the journal tells of it and what is posted. -/
inductive Trail (l : Ledger Value) : List Occurrence → List (Posting Value) → Ledger Value → Prop where
  | start : Trail l [] [] l
  | perform {es ps l'} (o : Operation Value) : o.Proper → Trail l es ps l' →
      Trail l (tale (l'.postings o) ++ es) (ps ++ l'.postings o) (l'.perform o).2
  /-- the host is told the truth, unless its slots' handles were given out twice -/
  | entered {es ps l'} (c : Callback) (slots : List Slot) :
      ((givenOut es).Nodup → ∀ s ∈ slots, s.Truthful l') → Trail l es ps l' →
        Trail l (.entered c slots :: es) ps l'
  | aside {es ps l'} (x : Occurrence) : x.isAside = true → Trail l es ps l' → Trail l (x :: es) ps l'

namespace Trail

variable {l l' l'' : Ledger Value} {es fs : List Occurrence} {ps qs : List (Posting Value)}

theorem trans (h : Trail l es ps l') (h' : Trail l' fs qs l'') : Trail l (fs ++ es) (ps ++ qs) l'' := by
  induction h' with
  | start => rwa [List.append_nil]
  | perform o ho _ ih =>
    rw [List.append_assoc, ← List.append_assoc ps]
    exact ih.perform o ho
  | entered c slots htrue _ ih =>
    refine ih.entered c slots fun hnodup => htrue ?_
    have hnodup : (givenOut _ ++ givenOut _).Nodup := givenOut_append _ _ ▸ hnodup
    exact hnodup.of_append_right
  | aside x hx _ ih => exact ih.aside x hx

theorem asides (hes : ∀ x ∈ es, x.isAside = true) : Trail l es [] l := by
  induction es with
  | nil => exact .start
  | cons x es ih =>
    exact (ih fun y hy => hes y (List.mem_cons_of_mem x hy)).aside x (hes x List.mem_cons_self)

/-- The journal tells of the postings. -/
theorem told (ht : Trail l es ps l') : givenOut es = (Ledger.entered ps).map Prod.fst ∧
    ∀ h, retains h es = added h ps ∧ releases h es = Ledger.released h ps := by
  -- an occurrence that is not about the ledger is told apart by its kind
  have other : ∀ {x : Occurrence} {es : List Occurrence}, x.isAside = true ∨ x.enters = true →
      givenOut (x :: es) = givenOut es ∧
        ∀ h, retains h (x :: es) = retains h es ∧ releases h (x :: es) = releases h es := by
    intro x es hx
    cases x with
    | issued g | retained g | released g => exact absurd hx nofun
    | _ => exact ⟨rfl, fun _ => ⟨rfl, rfl⟩⟩
  induction ht with
  | start => exact ⟨rfl, fun _ => ⟨rfl, rfl⟩⟩
  | perform o _ _ ih =>
    refine ⟨?_, fun h => ⟨?_, ?_⟩⟩
    · rw [givenOut_append, ih.1, givenOut_tale, entered_append, List.map_append]
    · rw [retains_append, (ih.2 h).1, retains_tale, added_append, Nat.add_comm]
    · rw [releases_append, (ih.2 h).2, releases_tale, released_append, Nat.add_comm]
  | entered c slots _ _ ih =>
    obtain ⟨hgiven, hcounts⟩ := other (x := .entered c slots) (.inr rfl)
    exact ⟨hgiven.trans ih.1, fun h => ⟨(hcounts h).1.trans (ih.2 h).1, (hcounts h).2.trans (ih.2 h).2⟩⟩
  | aside x hx _ ih =>
    obtain ⟨hgiven, hcounts⟩ := other (x := x) (.inl hx)
    exact ⟨hgiven.trans ih.1, fun h => ⟨(hcounts h).1.trans (ih.2 h).1, (hcounts h).2.trans (ih.2 h).2⟩⟩

/-- A trail is a course. -/
theorem course (ht : Trail l es ps l') : Course l (Ledger.entered ps) l' := by
  induction ht with
  | start => exact .start l
  | perform o _ _ ih =>
    rw [entered_append, entered_postings_eq]
    exact ih.perform o
  | entered _ _ _ _ ih => exact ih
  | aside _ _ _ ih => exact ih

/-- Handles are given out for strings and objects only. -/
theorem kept (ht : Trail l es ps l') : ∀ e ∈ Ledger.entered ps, e.2.kept = true := by
  induction ht with
  | start => exact nofun
  | perform o ho _ ih =>
    intro e he
    rw [entered_append, entered_postings_eq] at he
    rcases List.mem_append.mp he with he | he
    · exact ih e he
    · cases o with
      | insert v n => exact List.mem_singleton.mp he ▸ ho.1
      | stage v =>
        rw [List.mem_singleton.mp he]
        exact ho
      | _ => cases he
  | entered _ _ _ _ ih => exact ih
  | aside _ _ _ ih => exact ih

theorem split_tale {x : Occurrence} (hx : x.enters = true) {later earlier : List Occurrence}
    (h : later ++ x :: earlier = tale ps ++ es) :
    ∃ more, later = tale ps ++ more ∧ more ++ x :: earlier = es := by
  have hout : x ∉ tale ps := by
    intro hin
    obtain ⟨p, -, hp⟩ := List.mem_filterMap.mp (List.mem_reverse.mp hin)
    cases p <;> cases hp <;> cases hx
  rcases List.append_eq_append_iff.mp h with ⟨as, htale, hrest⟩ | ⟨bs, hlater, hes⟩
  · cases as with
    | nil => exact ⟨[], by rw [htale, List.append_nil, List.append_nil], hrest⟩
    | cons y as =>
      obtain ⟨rfl, -⟩ := List.cons.inj hrest
      exact absurd (htale ▸ List.mem_append_right later List.mem_cons_self) hout
  · exact ⟨bs, hlater, hes.symm⟩

/-- The ledger of the moment at which the host was entered. -/
theorem entering {c : Callback} {slots : List Slot} {later earlier : List Occurrence}
    (ht : Trail l (later ++ .entered c slots :: earlier) ps l') :
    ∃ ps₁ l₁ given, Trail l earlier ps₁ l₁ ∧ Course l₁ given l' ∧
      ((givenOut earlier).Nodup → ∀ s ∈ slots, s.Truthful l₁) := by
  generalize hes : later ++ .entered c slots :: earlier = es at ht
  induction ht generalizing later with
  | start => simp at hes
  | @perform es ps l₂ o ho ht ih =>
    obtain ⟨more, -, hrest⟩ := split_tale rfl hes
    obtain ⟨ps₁, l₁, given, hbefore, hafter, htrue⟩ := ih hrest
    exact ⟨ps₁, l₁, _, hbefore, hafter.perform o, htrue⟩
  | @entered es ps l₂ c' slots' htrue ht ih =>
    cases later with
    | nil =>
      obtain ⟨heq, rfl⟩ := List.cons.inj hes
      cases heq
      exact ⟨ps, l₂, [], ht, .start l₂, htrue⟩
    | cons y later => exact ih (List.cons.inj hes).2
  | aside x hx _ ih =>
    cases later with
    | nil =>
      cases (List.cons.inj hes).1
      cases hx
    | cons y later => exact ih (List.cons.inj hes).2

end Trail

end Ledger

/-! ### The arguments of a callback -/

namespace Bridge

/-- A slot with a handle stands for the value that was staged under it. -/
theorem encodeAll_slots (args : List Value) (b : Bridge) {s : Slot} (hs : s ∈ (b.encodeAll args).1)
    {h : Handle} (hh : s.handle? = some h) :
    ∃ v, (h, v) ∈ b.staged args ∧ v.kept = true ∧ s.isString = v.isText := by
  induction args generalizing b with
  | nil => cases hs
  | cons v rest ih =>
    have hs : s ∈ (b.encode v).1 :: ((b.encode v).2.encodeAll rest).1 := hs
    cases hv : v.kept with
    | true =>
      rw [staged, hv, if_pos rfl]
      rcases List.mem_cons.mp hs with rfl | hs
      · cases (encode_kept hv).1.symm.trans hh
        refine ⟨v, List.mem_cons_self, hv, ?_⟩
        cases v <;> rfl
      · rw [(encode_kept hv).2] at hs
        obtain ⟨u, hu, hkept⟩ := ih _ hs
        exact ⟨u, List.mem_cons_of_mem _ hu, hkept⟩
    | false =>
      rw [staged, hv]
      rcases List.mem_cons.mp hs with rfl | hs
      · cases (encode_plain hv).1.symm.trans hh
      · rw [(encode_plain hv).2] at hs
        exact ih b hs

end Bridge

/-- The host is told the truth about the arguments of a callback, unless a handle was given out twice among
them. -/
theorem Runner.openFrame_truthful {args : List Value} {w : World σ} {fixed : List Slot}
    (hfixed : ∀ s ∈ fixed, s.handle? = none) {es : List Occurrence}
    (hj : (openFrame args w).2.bridge.journal = es ++ w.bridge.journal) (hnodup : (givenOut es).Nodup) :
    ∀ s ∈ fixed ++ (openFrame args w).1, s.Truthful (openFrame args w).2.bridge.ledger := by
  have hopen := openFrame_encodes args w
  have hgiven : givenOut es = (stagedArguments args w).map Prod.fst := by
    have hes : es = ((stagedArguments args w).map fun e => Occurrence.issued e.1).reverse :=
      List.append_cancel_right (hj.symm.trans hopen.journal)
    rw [hes, givenOut, List.filterMap_reverse, List.reverse_reverse, List.filterMap_map]
    exact congrFun List.filterMap_eq_map' _
  intro s hs h hh
  rcases List.mem_append.mp hs with hs | hs
  · cases (hfixed s hs).symm.trans hh
  · obtain ⟨v, hv, hkept, htext⟩ := Bridge.encodeAll_slots args _ hs hh
    have hcount : ((stagedArguments args w).map Prod.fst).count h = 1 :=
      List.count_eq_one_of_mem (hgiven ▸ hnodup) (List.mem_map.mpr ⟨_, hv, rfl⟩)
    exact Slot.truthful_of_entry hh (hopen.entries h v hv hcount) hkept htext h hh

/-! ### Worlds -/

/-- Between two worlds the ledger leaves a trail in the journal. -/
structure Recounts (w w' : World σ) : Prop where
  busy : w'.busy = w.busy
  trail : ∃ es ps, w'.bridge.journal = es ++ w.bridge.journal ∧
    Ledger.Trail w.bridge.ledger es ps w'.bridge.ledger

namespace Recounts

/-- Occurrences that are not about the ledger. -/
theorem of_asides {w w' : World σ} (es : List Occurrence) (hl : w'.bridge.ledger = w.bridge.ledger)
    (hj : w'.bridge.journal = es ++ w.bridge.journal) (hb : w'.busy = w.busy)
    (hes : ∀ x ∈ es, x.isAside = true) : Recounts w w' :=
  ⟨hb, es, [], hj, hl ▸ .asides hes⟩

theorem of_aside {w w' : World σ} (x : Occurrence) (hl : w'.bridge.ledger = w.bridge.ledger)
    (hj : w'.bridge.journal = x :: w.bridge.journal) (hb : w'.busy = w.busy) (hx : x.isAside = true) :
    Recounts w w' := of_asides [x] hl hj hb fun _ hy => List.mem_singleton.mp hy ▸ hx

/-- Ledger, journal and busyness untouched. -/
theorem of_same {w w' : World σ} (hl : w'.bridge.ledger = w.bridge.ledger)
    (hj : w'.bridge.journal = w.bridge.journal) (hb : w'.busy = w.busy) : Recounts w w' :=
  of_asides [] hl hj hb (List.forall_mem_nil _)

/-- One operation of the ledger. -/
theorem performed {w w' : World σ} (o : Ledger.Operation Value) (ho : o.Proper)
    (hl : w'.bridge.ledger = (w.bridge.ledger.perform o).2)
    (hj : w'.bridge.journal = Ledger.tale (w.bridge.ledger.postings o) ++ w.bridge.journal)
    (hb : w'.busy = w.busy) : Recounts w w' := by
  have hone := Ledger.Trail.start.perform (l := w.bridge.ledger) o ho
  rw [List.append_nil, List.nil_append] at hone
  exact ⟨hb, _, _, hj, hl ▸ hone⟩

theorem steady : Steady (σ := σ) Recounts where
  refl _ := of_same rfl rfl rfl
  trans := by
    intro a b c hab hbc
    obtain ⟨es, ps, hj, ht⟩ := hab.trail
    obtain ⟨fs, qs, hj', ht'⟩ := hbc.trail
    exact ⟨hbc.busy.trans hab.busy, fs ++ es, ps ++ qs, by rw [hj', hj, List.append_assoc], ht.trans ht'⟩

theorem retained (w : World σ) {h : Handle} {l : Ledger Value} (ha : w.bridge.ledger.addRef h = .ok l) :
    Recounts w { w with bridge := { w.bridge with ledger := l }.note (.retained h) } := by
  obtain ⟨hperform, hpostings⟩ := Ledger.perform_addRef_live _ ha
  refine performed (.addRef h) trivial ?_ ?_ rfl
  · rw [hperform]
    rfl
  · rw [hpostings]
    rfl

theorem released (w : World σ) {h : Handle} {v : Option Value} {l : Ledger Value}
    (ha : w.bridge.ledger.release h = .ok (v, l)) :
    Recounts w { w with bridge := { w.bridge with ledger := l }.note (.released h) } := by
  obtain ⟨hperform, hpostings⟩ := Ledger.perform_release_live _ ha
  refine performed (.release h) trivial ?_ ?_ rfl
  · rw [hperform]
    rfl
  · rw [hpostings]
    rfl

theorem staged (w : World σ) {v : Value} (hv : v.kept = true) : Recounts w (w.staging v) :=
  performed (.stage v) hv rfl rfl rfl

theorem held (w : World σ) {v : Value} (hv : v.kept = true) : Recounts w (w.holding v) :=
  performed (.insert v 1) ⟨hv, rfl⟩ rfl rfl rfl

/-- Handles that are given back in bulk are not told of. -/
theorem tale_drops (hs : List Handle) : Ledger.tale (hs.map (Ledger.Posting.dropped (α := Value))) = [] := by
  rw [Ledger.tale, List.filterMap_map]
  exact congrArg List.reverse (List.filterMap_eq_nil_iff.mpr fun _ _ => rfl)

theorem closed (w : World σ) : Recounts w (Runner.closeFrame w) :=
  performed .popFrame trivial rfl (congrArg (· ++ w.bridge.journal) (tale_drops _).symm) rfl

theorem cleared (w : World σ) :
    Recounts w { w with bridge := { w.bridge with ledger := w.bridge.ledger.clearCache.2 } } :=
  performed .clearCache trivial rfl (congrArg (· ++ w.bridge.journal) (tale_drops _).symm) rfl

/-- The arguments of a callback are staged one by one. -/
theorem opened (args : List Value) (w : World σ) : Recounts w (Runner.openFrame args w).2 := by
  have encoded : ∀ (args : List Value) (w : World σ),
      Recounts w { w with bridge := (w.bridge.encodeAll args).2 } := by
    intro args
    induction args with
    | nil => exact fun w => steady.refl w
    | cons v rest ih =>
      intro w
      rw [Bridge.encodeAll_cons_snd]
      cases hv : v.kept with
      | true =>
        rw [(Bridge.encode_kept hv).2]
        exact steady.trans (staged w hv) (ih (w.staging v))
      | false =>
        rw [(Bridge.encode_plain hv).2]
        exact ih w
  have pushed : Recounts w { w with bridge := { w.bridge with ledger := w.bridge.ledger.pushFrame } } :=
    performed .pushFrame trivial rfl rfl rfl
  exact steady.trans pushed (encoded args _)

/-- The trail of a callback up to the host's turn. -/
theorem entered (c : Callback) {fixed : List Slot} (hfixed : ∀ s ∈ fixed, s.handle? = none)
    (args : List Value) (w : World σ) :
    let w' := Runner.entering c (fixed ++ (Runner.openFrame args w).1) (Runner.openFrame args w).2
    ∃ es ps, w'.bridge.journal = es ++ w.bridge.journal ∧
      Ledger.Trail w.bridge.ledger es ps w'.bridge.ledger := by
  obtain ⟨es, ps, hj, ht⟩ := (opened args w).trail
  exact ⟨.entered c (fixed ++ (Runner.openFrame args w).1) :: es, ps, congrArg (List.cons _) hj,
    ht.entered c _ (Runner.openFrame_truthful hfixed hj)⟩

theorem upkeep : Upkeep (σ := σ) Recounts where
  toSteady := steady
  memory _ _ := of_same rfl rfl rfl
  log _ _ := of_same rfl rfl rfl
  retained w _ _ ha := retained w ha
  released w _ _ _ ha := released w ha
  promised w p _ := of_aside (.promised (w.bridge.promises.insert p).1 p) rfl rfl rfl rfl

theorem reporting : Reporting (σ := σ) Recounts where
  deferred _ _ := of_same rfl rfl rfl
  rejected _ p v := of_aside (.rejected p v) rfl rfl rfl rfl
  logged _ v := of_aside (.logged v) rfl rfl rfl rfl

theorem callback {host : Host σ} {run : Runner σ} (hr : run.Obeys Recounts) (c : Callback)
    {fixed : List Slot} (hfixed : ∀ s ∈ fixed, s.handle? = none) (args : List Value)
    {finish : Reply → Act σ α} (hf : ∀ r, (finish r).Keeps Recounts) :
    Act.Keeps Recounts (run.callHost host c fixed args finish) := by
  refine fun w => upkeep.callHostSince hr hf (opened args w) (fun hb w' hw' => ?_) closed
  -- the host comes, takes its turn, and goes
  obtain ⟨es, ps, hj, ht⟩ := entered c hfixed args w
  obtain ⟨fs, qs, hj', ht'⟩ := hw'.trail
  refine ⟨hb.symm, .left :: (fs ++ es), ps ++ qs, ?_, (ht.trans ht').aside .left rfl⟩
  show Occurrence.left :: w'.bridge.journal = _
  rw [hj', hj, List.cons_append, List.append_assoc]

theorem bystander (host : Host σ) : Bystander host Recounts where
  toBackground := upkeep.toBackground
  engineChange _ _ := of_same rfl rfl rfl
  rejection _ hr := upkeep.rejection hr reporting host
  tokenDrawn _ t := of_aside (.drawn t) rfl rfl rfl rfl
  tokenMade _ t := of_aside (.made t) rfl rfl rfl rfl
  tokenRefused _ t := of_aside (.refused t) rfl rfl rfl rfl
  instanceBuilt _ r c t := of_aside (.built r c t) rfl rfl rfl rfl
  memberAsked _ c n route this := of_aside (.asked c n route this) rfl rfl rfl rfl
  callback _ hr _ c _ args _ _ hs hf := callback hr c hs args hf

/-- **Every run of the machine recounts its ledger.** -/
theorem runner (host : Host σ) (steps depth : Nat) :
    (Machine.runner host steps depth).Obeys Recounts := (bystander host).conduct.runner steps depth

theorem onlooker (host : Host σ) : Onlooker host Recounts where
  toBystander := bystander host
  retained := upkeep.retained
  released := upkeep.released
  promised := upkeep.promised
  busy h := h.busy
  withholding _ hr _ _ hm := upkeep.withholding hr reporting host hm
  valueHeld w _ hv := held w hv
  promiseTaken _ id _ _ _ := of_aside (.completed id) rfl rfl rfl rfl
  intrinsicsSet _ _ := of_same rfl rfl rfl
  deathQueued _ t := of_aside (.died t) rfl rfl rfl rfl
  dequeued _ _ := of_same rfl rfl rfl
  notice _ hr t w _ := callback hr .delete (by simp [Slot.handle?]) [] (fun _ => steady.pure ()) w

theorem usage (host : Host σ) : Usage host Recounts where
  toAttendance := (onlooker host).attendance
  valueStaged w _ hv := staged w hv
  cacheCleared w := cleared w

theorem enrolled (w : World σ) (e : Int32 × ClassEntry) : Recounts w (w.enrolling e) := of_same rfl rfl rfl

end Recounts

/-! ### Whatever follows -/

/-- What a world of a bridge may come to until its context ends, from anywhere in an operation and at any
depth of frames: by runs of scripts, the host's coming to a callback and its turns there, the closing
of callbacks, values put into the ledger, whole operations of a context, and whatever leaves the ledger alone. -/
inductive Follows (host : Host σ) : World σ → World σ → Prop where
  | trans {a b c : World σ} : Follows host a b → Follows host b c → Follows host a c
  | aside {w w' : World σ} (es : List Occurrence) : w'.bridge.ledger = w.bridge.ledger →
      w'.bridge.journal = es ++ w.bridge.journal → (∀ x ∈ es, x.isAside = true) → Follows host w w'
  | run (steps depth : Nat) {ρ : Type} (p : Prog ρ) (w : World σ) :
      Follows host w (Machine.run host steps depth p w).2
  | entered (c : Callback) {fixed : List Slot} (args : List Value) (w : World σ) :
      (∀ s ∈ fixed, s.handle? = none) → Follows host w
        (Runner.entering c (fixed ++ (Runner.openFrame args w).1) (Runner.openFrame args w).2)
  | turn (steps depth : Nat) (t : Turn σ) (w : World σ) :
      Follows host w (((Machine.runner host steps depth).takeTurn t).after w)
  | closed (w : World σ) : Follows host w (Runner.closeFrame w)
  | staged (v : Value) (w : World σ) : v.kept = true → Follows host w (w.staging v)
  | held (v : Value) (w : World σ) : v.kept = true → Follows host w (w.holding v)
  | operation (c : Context σ) {op : HostOp} : c.host = host → c.world.busy = false → op ≠ .close →
      Follows host c.world (c.apply op).world

namespace Follows

variable {host : Host σ} {w w' : World σ}

/-- The ledger leaves a trail, whatever follows. -/
theorem trail (h : Follows host w w') : ∃ es ps, w'.bridge.journal = es ++ w.bridge.journal ∧
    Ledger.Trail w.bridge.ledger es ps w'.bridge.ledger := by
  induction h with
  | trans _ _ ih ih' =>
    obtain ⟨es, ps, hj, ht⟩ := ih
    obtain ⟨fs, qs, hj', ht'⟩ := ih'
    exact ⟨fs ++ es, ps ++ qs, by rw [hj', hj, List.append_assoc], ht.trans ht'⟩
  | aside es hl hj hes => exact ⟨es, [], hj, hl ▸ .asides hes⟩
  | run steps depth p w => exact ((Recounts.runner host steps depth).keeps p w).trail
  | entered c args w hfixed => exact Recounts.entered c hfixed args w
  | turn steps depth t w =>
    exact (Recounts.upkeep.takeTurn (Recounts.runner host steps depth) t w).trail
  | closed w => exact (Recounts.closed w).trail
  | staged v w hv => exact (Recounts.staged w hv).trail
  | held v w hv => exact (Recounts.held w hv).trail
  | operation c hhost hb hop => exact ((Recounts.usage c.host).operation hb hop fun _ => Recounts.enrolled).trail

/-- **A handle keeps its value while it lives**, whatever follows, unless it is given out anew. -/
theorem lasts (h : Follows host w w') {g : Handle}
    (hnew : issues g w'.bridge.journal = issues g w.bridge.journal) {e' : LedgerEntry Value}
    (he : w'.bridge.ledger.entry? g = some e') :
    ∃ e, w.bridge.ledger.entry? g = some e ∧ e.value = e'.value := by
  obtain ⟨es, ps, hj, ht⟩ := h.trail
  refine ht.course.lasts ?_ he
  rw [hj, Tidy.issues_append] at hnew
  rw [← ht.told.1, ← List.count_eq_zero, ← issues_eq_count]
  omega

end Follows

end ScriptBridge
