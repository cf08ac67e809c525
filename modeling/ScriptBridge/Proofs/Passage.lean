import ScriptBridge.Proofs.LedgerBalance
import ScriptBridge.Proofs.Running

/-!
What a run does to the ledger of the callbacks under way.

    Tidy w w'   :   frames, cache and busyness as before,
                    and every entry moved on by the journal alone

Design.  The journal tells which handles were given out, retained and released.  `Passes h es o o'`
says that the entry of `h` went from `o` to `o'` by the occurrences `es`, in which `h` was not given
out; `Passage.counts` reads the count off the journal.  `Tidy` is kept by every run of the machine:
a callback opens a frame, stages handles that are given out on the way, and closes that very frame.
-/
namespace ScriptBridge

open Data Text Script Script.Script

variable {σ : Type}

/-! ### Occurrences -/

namespace Occurrence

def isIssued (h : Handle) : Occurrence → Bool
  | issued g => g == h
  | _ => false

def isRetained (h : Handle) : Occurrence → Bool
  | retained g => g == h
  | _ => false

def isReleased (h : Handle) : Occurrence → Bool
  | released g => g == h
  | _ => false

def enters : Occurrence → Bool
  | entered .. => true
  | _ => false

/-- Is the occurrence about this entry of the ledger? -/
def concerns (h : Handle) (x : Occurrence) : Bool :=
  x.isIssued h || x.isRetained h || x.isReleased h

end Occurrence

/-- How often the host retained `h`. -/
def retains (h : Handle) (es : List Occurrence) : Nat := es.countP (Occurrence.isRetained h)

/-- How often the host released `h`. -/
def releases (h : Handle) (es : List Occurrence) : Nat := es.countP (Occurrence.isReleased h)

/-- How often `h` was given out. -/
def issues (h : Handle) (es : List Occurrence) : Nat := es.countP (Occurrence.isIssued h)

/-! ### One entry -/

/-- The entry of `h` before and after the occurrences, the latest first. -/
inductive Passes (h : Handle) : List Occurrence → Option (LedgerEntry Value) →
    Option (LedgerEntry Value) → Prop where
  | start (o) : Passes h [] o o
  | retained {es o e} : Passes h es o (some e) →
      Passes h (.retained h :: es) o (some { e with refs := e.refs + 1 })
  | released {es o e} : Passes h es o (some e) → Passes h (.released h :: es) o e.less
  | other {es o o'} (x : Occurrence) : x.concerns h = false → Passes h es o o' →
      Passes h (x :: es) o o'

namespace Passes

variable {h : Handle} {es fs : List Occurrence} {o o' o'' : Option (LedgerEntry Value)}

theorem append (he : Passes h es o o') (hf : Passes h fs o' o'') : Passes h (fs ++ es) o o'' := by
  induction hf with
  | start => exact he
  | retained _ ih => exact .retained (ih he)
  | released _ ih => exact .released (ih he)
  | other x hx _ ih => exact .other x hx (ih he)

theorem single {x : Occurrence} (hx : x.concerns h = false) (o) : Passes h [x] o o :=
  .other x hx (.start o)

/-- Nothing in the journal is about `h`. -/
theorem unconcerned (hes : ∀ x ∈ es, x.concerns h = false) (o) : Passes h es o o := by
  induction es with
  | nil => exact .start o
  | cons x es ih =>
    exact .other x (hes x List.mem_cons_self) (ih fun y hy => hes y (List.mem_cons_of_mem _ hy))

/-- The count is what the entry started with, more by what was retained and less by what was
released; an entry without references is gone. -/
theorem counts {v : Value} {n : UInt32} (hp : Passes h es (some ⟨v, n⟩) o') (hn : n ≠ 0)
    (hbound : n.toNat + retains h es < 2 ^ 32) :
    match o' with
    | some e => e.value = v ∧ e.refs ≠ 0 ∧ e.refs.toNat + releases h es = n.toNat + retains h es
    | none => releases h es = n.toNat + retains h es := by
  generalize ho : some (LedgerEntry.mk v n) = o at hp
  induction hp with
  | start o =>
    subst ho
    exact ⟨rfl, hn, rfl⟩
  -- the bound keeps the count of this very step from wrapping
  | @retained es o e _ ih =>
    have hret : retains h (.retained h :: es) = retains h es + 1 := by
      simp [retains, Occurrence.isRetained]
    have hrel : releases h (.retained h :: es) = releases h es := by
      simp [releases, Occurrence.isReleased]
    rw [hret] at hbound
    obtain ⟨hv, hne, hsum⟩ := ih (by omega) ho
    have hplus : (e.refs + 1).toNat = e.refs.toNat + 1 := by
      rw [UInt32.toNat_add]
      exact Nat.mod_eq_of_lt (by show e.refs.toNat + 1 < 2 ^ 32; omega)
    refine ⟨hv, ?_, ?_⟩
    · intro h0
      have := congrArg UInt32.toNat h0
      rw [hplus] at this
      exact Nat.succ_ne_zero _ this
    · show (e.refs + 1).toNat + _ = _
      rw [hplus, hret, hrel]
      omega
  | @released es o e _ ih =>
    have hret : retains h (.released h :: es) = retains h es := by
      simp [retains, Occurrence.isRetained]
    have hrel : releases h (.released h :: es) = releases h es + 1 := by
      simp [releases, Occurrence.isReleased]
    rw [hret] at hbound
    obtain ⟨hv, hne, hsum⟩ := ih hbound ho
    have hpred := Ledger.toNat_sub_one hne
    rw [hret, hrel, LedgerEntry.less]
    by_cases hlast : e.refs - 1 = 0
    · rw [if_pos hlast]
      rw [hlast] at hpred
      show releases h es + 1 = _
      have h1 : (0 : UInt32).toNat = 0 := rfl
      omega
    · rw [if_neg hlast]
      refine ⟨hv, hlast, ?_⟩
      show (e.refs - 1).toNat + _ = _
      omega
  | @other es o o' x hx _ ih =>
    simp only [Occurrence.concerns, Bool.or_eq_false_iff] at hx
    have hret : retains h (x :: es) = retains h es := by
      simp [retains, hx.1.2]
    have hrel : releases h (x :: es) = releases h es := by
      simp [releases, hx.2]
    rw [hret] at hbound
    rw [hret, hrel]
    exact ih hbound ho

end Passes

/-! ### What a run leaves alone -/

/-- Between two worlds the lists of the ledger stand still, and its entries follow the journal; a
host that is answering is not entered. -/
structure Tidy (w w' : World σ) : Prop where
  frames : w'.bridge.ledger.frames = w.bridge.ledger.frames
  cache : w'.bridge.ledger.cache = w.bridge.ledger.cache
  busy : w'.busy = w.busy
  grown : ∃ es, w'.bridge.journal = es ++ w.bridge.journal ∧
    (w.busy = true → ∀ x ∈ es, x.enters = false) ∧
    ∀ h, issues h es = 0 → Passes h es (w.bridge.ledger.entry? h) (w'.bridge.ledger.entry? h)

namespace Tidy

theorem issues_append {h : Handle} {es fs : List Occurrence} :
    issues h (fs ++ es) = issues h fs + issues h es := List.countP_append

/-- Ledger, journal and busyness untouched. -/
theorem of_same {w w' : World σ} (hl : w'.bridge.ledger = w.bridge.ledger)
    (hj : w'.bridge.journal = w.bridge.journal) (hb : w'.busy = w.busy) : Tidy w w' where
  frames := by rw [hl]
  cache := by rw [hl]
  busy := hb
  grown := by
    refine ⟨[], hj, ?_, ?_⟩
    · intro _ x hx
      cases hx
    · intro h _
      rw [hl]
      exact .start _

/-- One occurrence that is not about the ledger, and by which the host is not entered. -/
theorem of_note {w w' : World σ} {x : Occurrence} (hl : w'.bridge.ledger = w.bridge.ledger)
    (hj : w'.bridge.journal = x :: w.bridge.journal) (hb : w'.busy = w.busy)
    (hx : x.enters = false) (hc : ∀ h, x.concerns h = false) : Tidy w w' where
  frames := by rw [hl]
  cache := by rw [hl]
  busy := hb
  grown := by
    refine ⟨[x], hj, ?_, ?_⟩
    · intro _ y hy
      rw [List.mem_singleton.mp hy]
      exact hx
    · intro h _
      rw [hl]
      exact .single (hc h) _

theorem steady : Steady (σ := σ) Tidy where
  refl w := of_same rfl rfl rfl
  trans := by
    intro a b c hab hbc
    refine ⟨hbc.frames.trans hab.frames, hbc.cache.trans hab.cache, hbc.busy.trans hab.busy, ?_⟩
    obtain ⟨es, hes, hqe, hpe⟩ := hab.grown
    obtain ⟨fs, hfs, hqf, hpf⟩ := hbc.grown
    refine ⟨fs ++ es, ?_, ?_, ?_⟩
    · rw [hfs, hes, List.append_assoc]
    · intro hb x hx
      rcases List.mem_append.mp hx with hx | hx
      · exact hqf (hab.busy.trans hb) x hx
      · exact hqe hb x hx
    · intro h h0
      rw [issues_append] at h0
      exact (hpe h (by omega)).append (hpf h (by omega))

theorem retained (w : World σ) {h : Handle} {l : Ledger Value}
    (ha : w.bridge.ledger.addRef h = .ok l) :
    Tidy w { w with bridge := { w.bridge with ledger := l }.note (.retained h) } := by
  rcases he : w.bridge.ledger.entry? h with - | e
  · rw [Ledger.addRef_dead _ he] at ha
    cases ha
  · obtain ⟨l', ha', -, hcache, hframes, hent⟩ := Ledger.addRef_live _ he
    cases ha.symm.trans ha'
    refine ⟨hframes, hcache, rfl, [.retained h], rfl, ?_, ?_⟩
    · intro _ x hx
      rw [List.mem_singleton.mp hx]
      rfl
    · intro g _
      show Passes g _ _ (l.entry? g)
      rw [hent g]
      by_cases hg : g = h
      · rw [if_pos hg, hg, he]
        exact .retained (.start _)
      · rw [if_neg hg]
        refine .single ?_ _
        simpa [Occurrence.concerns, Occurrence.isIssued, Occurrence.isRetained,
          Occurrence.isReleased] using fun heq => hg heq.symm

theorem released (w : World σ) {h : Handle} {v : Option Value} {l : Ledger Value}
    (ha : w.bridge.ledger.release h = .ok (v, l)) :
    Tidy w { w with bridge := { w.bridge with ledger := l }.note (.released h) } := by
  rcases he : w.bridge.ledger.entry? h with - | e
  · rw [Ledger.release_dead _ he] at ha
    cases ha
  · obtain ⟨l', ha', -, hcache, hframes, hent⟩ := Ledger.release_live _ he
    cases ha.symm.trans ha'
    refine ⟨hframes, hcache, rfl, [.released h], rfl, ?_, ?_⟩
    · intro _ x hx
      rw [List.mem_singleton.mp hx]
      rfl
    · intro g _
      show Passes g _ _ (l.entry? g)
      rw [hent g]
      by_cases hg : g = h
      · rw [if_pos hg, hg, he]
        exact .released (.start _)
      · rw [if_neg hg]
        refine .single ?_ _
        simpa [Occurrence.concerns, Occurrence.isIssued, Occurrence.isRetained,
          Occurrence.isReleased] using fun heq => hg heq.symm

theorem upkeep : Upkeep (σ := σ) Tidy where
  toSteady := steady
  memory _ _ := of_same rfl rfl rfl
  log _ _ := of_same rfl rfl rfl
  retained w _ _ ha := retained w ha
  released w _ _ _ ha := released w ha
  promised _ _ _ := of_note rfl rfl rfl rfl fun _ => rfl

theorem reporting : Reporting (σ := σ) Tidy where
  deferred _ _ := of_same rfl rfl rfl
  rejected _ _ _ := of_note rfl rfl rfl rfl fun _ => rfl
  logged _ _ := of_note rfl rfl rfl rfl fun _ => rfl

end Tidy

/-! ### Staging -/

/-- Does the ledger keep the value when it is encoded? -/
def Script.Value.kept : Value → Bool
  | .string .. | .object _ => true
  | _ => false

namespace Bridge

/-- The handles that encoding gives out, each with its value. -/
def staged (b : Bridge) : List Value → List (Handle × Value)
  | [] => []
  | v :: rest =>
    if v.kept then (⟨b.ledger.next⟩, v) :: (b.stage v).2.staged rest else b.staged rest

theorem encode_kept {b : Bridge} {v : Value} (hv : v.kept = true) :
    (b.encode v).1.handle? = some ⟨b.ledger.next⟩ ∧ (b.encode v).2 = (b.stage v).2 := by
  have hfst : (b.stage v).1 = ⟨b.ledger.next⟩ := Ledger.stage_fst _ _
  cases v with
  | string u m => exact ⟨congrArg some hfst, rfl⟩
  | object r => exact ⟨congrArg some hfst, rfl⟩
  | _ => cases hv

theorem encode_plain {b : Bridge} {v : Value} (hv : v.kept = false) :
    (b.encode v).1.handle? = none ∧ (b.encode v).2 = b := by
  cases v with
  | string u m => cases hv
  | object r => cases hv
  | _ => exact ⟨rfl, rfl⟩

theorem encodeAll_cons_snd (b : Bridge) (v : Value) (rest : List Value) :
    (b.encodeAll (v :: rest)).2 = ((b.encode v).2.encodeAll rest).2 := rfl

/-- Encoding a list stages what is kept, in order, in the frame on top. -/
structure Encodes (b b' : Bridge) (hs : List (Handle × Value)) (frame : List Handle)
    (below : List (List Handle)) : Prop where
  frames : b'.ledger.frames = (frame ++ hs.map Prod.fst) :: below
  cache : b'.ledger.cache = b.ledger.cache
  journal : b'.journal = (hs.map fun e => .issued e.1).reverse ++ b.journal
  others : ∀ g, g ∉ hs.map Prod.fst → b'.ledger.entry? g = b.ledger.entry? g
  entries : ∀ h v, (h, v) ∈ hs → (hs.map Prod.fst).count h = 1 →
    b'.ledger.entry? h = some ⟨v, 1⟩

theorem encodes (args : List Value) {b : Bridge} {frame : List Handle}
    {below : List (List Handle)} (hf : b.ledger.frames = frame :: below) :
    Encodes b (b.encodeAll args).2 (b.staged args) frame below := by
  induction args generalizing b frame with
  | nil =>
    refine ⟨?_, rfl, rfl, fun _ _ => rfl, ?_⟩
    · rw [staged, List.map_nil, List.append_nil]
      exact hf
    · intro h v hm
      cases hm
  | cons v rest ih =>
    rw [encodeAll_cons_snd]
    cases hv : v.kept with
    | false =>
      rw [(encode_plain hv).2, staged, hv]
      exact ih hf
    | true =>
      have hstage : (b.stage v).2.ledger = (b.ledger.stage v).2 := rfl
      have hframes : (b.stage v).2.ledger.frames = (frame ++ [⟨b.ledger.next⟩]) :: below := by
        rw [hstage, Ledger.stage_frames, hf]
      have hcache : (b.stage v).2.ledger.cache = b.ledger.cache := by
        rw [hstage, Ledger.stage_cache, hf]
        exact if_neg (List.cons_ne_nil _ _)
      have hjournal : (b.stage v).2.journal = .issued ⟨b.ledger.next⟩ :: b.journal := by
        show Occurrence.issued (b.ledger.stage v).1 :: b.journal = _
        rw [Ledger.stage_fst]
      have hentry : ∀ g, (b.stage v).2.ledger.entry? g
          = if g = ⟨b.ledger.next⟩ then some ⟨v, 1⟩ else b.ledger.entry? g := by
        intro g
        rw [hstage]
        exact Ledger.entry?_stage _ v g
      -- the argument is staged in the frame, and the rest after it
      have hrest := ih hframes
      rw [(encode_kept hv).2, staged, hv, if_pos rfl]
      refine ⟨?_, hrest.cache.trans hcache, ?_, ?_, ?_⟩
      · rw [hrest.frames, List.append_assoc]
        rfl
      · rw [hrest.journal, hjournal]
        simp
      · intro g hg
        rw [List.map_cons, List.mem_cons, not_or] at hg
        rw [hrest.others g hg.2, hentry g, if_neg hg.1]
      · intro h u hm hcount
        rw [List.map_cons] at hcount
        rcases List.mem_cons.mp hm with heq | hm
        · obtain ⟨rfl, rfl⟩ := Prod.mk.inj heq
          rw [List.count_cons_self] at hcount
          -- its number comes once, so staging the rest does not touch its entry
          have hout : (⟨b.ledger.next⟩ : Handle) ∉ ((b.stage u).2.staged rest).map Prod.fst :=
            List.count_eq_zero.mp (by omega)
          rw [hrest.others _ hout, hentry, if_pos rfl]
        · have hin : 0 < (((b.stage v).2.staged rest).map Prod.fst).count h :=
            List.count_pos_iff.mpr (List.mem_map.mpr ⟨(h, u), hm, rfl⟩)
          rw [List.count_cons] at hcount
          exact hrest.entries h u hm (by omega)

end Bridge

end ScriptBridge
