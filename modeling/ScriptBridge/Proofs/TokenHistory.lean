import Mathlib.Algebra.Group.Nat.Defs
import Mathlib.Data.List.Nodup
import ScriptBridge.Bridge.World

/-!
What a journal tells of tokens.

An occurrence may come only after certain others: an object is made for a token that was drawn, the
host is told of a death that has happened, and so on (`Occurrence.MayFollow`).  A journal in which
every occurrence may follow those before it is `Lawful`, and a lawful journal has the whole life of a
token in order:

    drawn t  <  made t  <  entered .call (.. t ..)  <  died t  <  entered .delete [t]

each of them once, calls apart.  Journals are kept with the latest occurrence first.
-/
namespace ScriptBridge

/-! ### Lists of tokens -/

/-- What `f` finds in the journal, the earliest first. -/
def findings {β : Type} (f : Occurrence → Option β) (j : List Occurrence) : List β :=
  j.reverse.filterMap f

namespace Occurrence

def drawn? : Occurrence → Option UInt64
  | drawn t => some t
  | _ => none

def died? : Occurrence → Option UInt64
  | died t => some t
  | _ => none

def notice? : Occurrence → Option UInt64
  | entered .delete [.rawPointer t] => some t
  | _ => none

/-- Is it about neither a token's life nor the host's turn? -/
def isPlain : Occurrence → Bool
  | drawn _ | made _ | refused _ | died _ | entered .. | left => false
  | _ => true

end Occurrence

/-- The tokens that were drawn, whose objects died, and whose deaths the host was told of. -/
def draws (j : List Occurrence) : List UInt64 := findings Occurrence.drawn? j

def deaths (j : List Occurrence) : List UInt64 := findings Occurrence.died? j

def notices (j : List Occurrence) : List UInt64 := findings Occurrence.notice? j

/-- Is the host answering a callback? -/
def answering : List Occurrence → Bool
  | [] => false
  | .entered _ _ :: _ => true
  | .left :: _ => false
  | _ :: j => answering j

theorem findings_cons {β : Type} (f : Occurrence → Option β) (x : Occurrence)
    (j : List Occurrence) : findings f (x :: j) = findings f j ++ (f x).toList := by
  rw [findings, List.reverse_cons, List.filterMap_append]
  cases h : f x <;> simp [findings, h]

theorem findings_append {β : Type} (f : Occurrence → Option β) (es j : List Occurrence) :
    findings f (es ++ j) = findings f j ++ findings f es := by
  rw [findings, List.reverse_append, List.filterMap_append]
  rfl

theorem mem_findings {β : Type} {f : Occurrence → Option β} {j : List Occurrence} {b : β} :
    b ∈ findings f j ↔ ∃ x ∈ j, f x = some b := by
  simp [findings]

theorem mem_draws {j : List Occurrence} {t : UInt64} : t ∈ draws j ↔ .drawn t ∈ j := by
  rw [draws, mem_findings]
  refine ⟨fun ⟨x, hx, h⟩ => ?_, fun h => ⟨_, h, rfl⟩⟩
  cases x <;> cases h
  exact hx

theorem mem_deaths {j : List Occurrence} {t : UInt64} : t ∈ deaths j ↔ .died t ∈ j := by
  rw [deaths, mem_findings]
  refine ⟨fun ⟨x, hx, h⟩ => ?_, fun h => ⟨_, h, rfl⟩⟩
  cases x <;> cases h
  exact hx

/-- What the journal tells of the deaths of `ts`, the last one first. -/
theorem mem_dying {ts : List UInt64} {x : Occurrence} :
    x ∈ (ts.map Occurrence.died).reverse ↔ ∃ t ∈ ts, x = .died t := by
  rw [List.mem_reverse, List.mem_map]
  exact exists_congr fun t => and_congr_right fun _ => eq_comm

theorem notice?_eq {x : Occurrence} {t : UInt64} :
    x.notice? = some t ↔ x = .entered .delete [.rawPointer t] := by
  constructor
  · intro h
    unfold Occurrence.notice? at h
    split at h
    · cases h
      rfl
    · cases h
  · rintro rfl
    rfl

/-! ### Laws -/

/-- The token was drawn, and it is not known yet what comes of it. -/
def Awaited (j : List Occurrence) (t : UInt64) : Prop :=
  .drawn t ∈ j ∧ .made t ∉ j ∧ .refused t ∉ j

/-- The token has an object. -/
def Alive (j : List Occurrence) (t : UInt64) : Prop := .made t ∈ j ∧ .died t ∉ j

theorem Alive.cons {j : List Occurrence} {t : UInt64} (h : Alive j t) {x : Occurrence}
    (hx : x ≠ .died t) : Alive (x :: j) t :=
  ⟨List.mem_cons_of_mem _ h.1, fun hmem => (List.mem_cons.mp hmem).elim (fun e => hx e.symm) h.2⟩

theorem Awaited.cons {j : List Occurrence} {t : UInt64} (h : Awaited j t) {x : Occurrence}
    (hmade : x ≠ .made t) (hrefused : x ≠ .refused t) : Awaited (x :: j) t :=
  ⟨List.mem_cons_of_mem _ h.1, fun hmem => (List.mem_cons.mp hmem).elim (fun e => hmade e.symm) h.2.1,
    fun hmem => (List.mem_cons.mp hmem).elim (fun e => hrefused e.symm) h.2.2⟩

/-- A callback of this kind may carry the token; notices of death have a law of their own. -/
def Callback.MayCarry (j : List Occurrence) (t : UInt64) : Callback → Prop
  | .constructor => Awaited j t
  | .call | .callFunction => Alive j t
  | .delete | .moduleName | .loadModule => False

def Occurrence.MayFollow (j : List Occurrence) : Occurrence → Prop
  | .drawn t => .drawn t ∉ j
  | .made t => Awaited j t
  | .refused t => Awaited j t
  | .died t => Alive j t
  | .entered .delete slots =>
    answering j = false ∧ ∃ t, slots = [.rawPointer t] ∧ .died t ∈ j ∧ t ∉ notices j
  | .entered c slots => answering j = false ∧ ∀ t, .rawPointer t ∈ slots → c.MayCarry j t
  | .left => answering j = true
  | .issued _ | .retained _ | .released _ | .asked .. | .built .. | .promised .. | .completed _
  | .rejected .. | .logged _ | .ended => True

/-- Every occurrence of the journal may follow those before it. -/
def Lawful : List Occurrence → Prop
  | [] => True
  | x :: j => x.MayFollow j ∧ Lawful j

theorem mayFollow_entered {j : List Occurrence} {c : Callback} {slots : List Slot}
    (hc : c ≠ .delete) : Occurrence.MayFollow j (.entered c slots)
      ↔ answering j = false ∧ ∀ t, .rawPointer t ∈ slots → c.MayCarry j t := by
  cases c with
  | delete => exact absurd rfl hc
  | _ => exact .rfl

namespace Lawful

variable {j later earlier : List Occurrence} {t : UInt64} {c : Callback} {slots : List Slot}

theorem split {x : Occurrence} (h : Lawful (later ++ x :: earlier)) : x.MayFollow earlier := by
  induction later with
  | nil => exact h.1
  | cons y later ih => exact ih h.2

theorem rest (h : Lawful (later ++ earlier)) : Lawful earlier := by
  induction later with
  | nil => exact h
  | cons y later ih => exact ih h.2

/-- Every occurrence was allowed when it came. -/
theorem before (h : Lawful j) {x : Occurrence} (hx : x ∈ j) :
    ∃ earlier, x.MayFollow earlier ∧ ∀ y ∈ earlier, y ∈ j := by
  obtain ⟨later, earlier, rfl⟩ := List.append_of_mem hx
  exact ⟨earlier, h.split, fun y hy => List.mem_append_right _ (List.mem_cons_of_mem _ hy)⟩

theorem drawn_of_made (h : Lawful j) (ht : .made t ∈ j) : .drawn t ∈ j := by
  obtain ⟨earlier, hx, hsub⟩ := h.before ht
  exact hsub _ hx.1

theorem drawn_of_refused (h : Lawful j) (ht : .refused t ∈ j) : .drawn t ∈ j := by
  obtain ⟨earlier, hx, hsub⟩ := h.before ht
  exact hsub _ hx.1

theorem made_of_died (h : Lawful j) (ht : .died t ∈ j) : .made t ∈ j := by
  obtain ⟨earlier, hx, hsub⟩ := h.before ht
  exact hsub _ hx.1

/-- What is found in a lawful journal is found once, if it may come only where it was not before. -/
theorem findings_nodup {f : Occurrence → Option UInt64} (h : Lawful j)
    (hf : ∀ {x : Occurrence} {j t}, f x = some t → x.MayFollow j → t ∉ findings f j) :
    (findings f j).Nodup := by
  induction j with
  | nil => exact List.nodup_nil
  | cons x j ih =>
    rw [findings_cons]
    rcases hx : f x with - | t
    · rw [Option.toList_none, List.append_nil]
      exact ih h.2
    · rw [Option.toList_some, List.nodup_append_comm, List.singleton_append, List.nodup_cons]
      exact ⟨hf hx h.1, ih h.2⟩

/-- **No object dies twice.** -/
theorem deaths_nodup (h : Lawful j) : (deaths j).Nodup := by
  refine h.findings_nodup fun {x j t} hx hfollows => ?_
  cases x <;> cases hx
  exact fun ht => hfollows.2 (mem_deaths.mp ht)

/-- **The host is told of no death twice.** -/
theorem notices_nodup (h : Lawful j) : (notices j).Nodup := by
  refine h.findings_nodup fun {x j t} hx hfollows => ?_
  cases notice?_eq.mp hx
  obtain ⟨-, u, heq, -, hnew⟩ := hfollows
  cases heq
  exact hnew

end Lawful

/-! ### Other occurrences -/

theorem mem_append_of_other {es j : List Occurrence} {p : Occurrence → Prop} (hes : ∀ y ∈ es, p y)
    {x : Occurrence} (hx : ¬ p x) : x ∈ es ++ j ↔ x ∈ j := by
  rw [List.mem_append]
  exact ⟨fun h => h.resolve_left fun hmem => hx (hes x hmem), .inr⟩

theorem findings_of_other {β : Type} {f : Occurrence → Option β} (es : List Occurrence)
    {j : List Occurrence} (hes : ∀ x ∈ es, f x = none) : findings f (es ++ j) = findings f j := by
  have hnone : findings f es = [] :=
    List.filterMap_eq_nil_iff.mpr fun x hx => hes x (List.mem_reverse.mp hx)
  rw [findings_append, hnone, List.append_nil]

/-- Does the host's turn begin or end with it? -/
def Occurrence.turns : Occurrence → Bool
  | entered .. | left => true
  | _ => false

theorem answering_of_other {es j : List Occurrence} (hes : ∀ x ∈ es, x.turns = false) :
    answering (es ++ j) = answering j := by
  induction es with
  | nil => rfl
  | cons x es ih =>
    have hx := hes x List.mem_cons_self
    rw [← ih fun y hy => hes y (List.mem_cons_of_mem _ hy)]
    cases x <;> first | rfl | cases hx

theorem Lawful.plain {es j : List Occurrence} (hes : ∀ x ∈ es, x.isPlain = true) (h : Lawful j) :
    Lawful (es ++ j) := by
  induction es with
  | nil => exact h
  | cons x es ih =>
    have hx := hes x List.mem_cons_self
    refine ⟨?_, ih fun y hy => hes y (List.mem_cons_of_mem _ hy)⟩
    cases x <;> trivial

/-- Objects that are alive may die, each once. -/
theorem Lawful.died {j : List Occurrence} {ts : List UInt64} (h : Lawful j) (hts : ts.Nodup)
    (halive : ∀ t ∈ ts, Alive j t) : Lawful ((ts.map Occurrence.died).reverse ++ j) := by
  induction ts generalizing j with
  | nil => exact h
  | cons t rest ih =>
    obtain ⟨hout, hrest⟩ := List.nodup_cons.mp hts
    rw [List.map_cons, List.reverse_cons, List.append_assoc]
    refine ih ⟨halive t List.mem_cons_self, h⟩ hrest fun u hu => ?_
    refine (halive u (List.mem_cons_of_mem _ hu)).cons fun heq => ?_
    cases heq
    exact hout hu

/-! ### The queue of notices -/

/-- The host was told of the deaths in their order, and those in the queue are due. -/
def Queued (j : List Occurrence) (queue : List UInt64) : Prop := deaths j = notices j ++ queue

namespace Queued

variable {j : List Occurrence} {queue : List UInt64}

/-- No death, and no notice of one. -/
theorem later (h : Queued j queue) (es : List Occurrence)
    (hes : ∀ x ∈ es, x.died? = none ∧ x.notice? = none) : Queued (es ++ j) queue := by
  have hdeaths : deaths (es ++ j) = deaths j := findings_of_other _ fun x hx => (hes x hx).1
  have hnotices : notices (es ++ j) = notices j := findings_of_other _ fun x hx => (hes x hx).2
  rw [Queued, hdeaths, hnotices]
  exact h

theorem cons (h : Queued j queue) {x : Occurrence} (hdied : x.died? = none)
    (hnotice : x.notice? = none) : Queued (x :: j) queue :=
  h.later [x] (List.forall_mem_singleton.mpr ⟨hdied, hnotice⟩)

theorem died (h : Queued j queue) (ts : List UInt64) :
    Queued ((ts.map Occurrence.died).reverse ++ j) (queue ++ ts) := by
  have hdeaths : findings Occurrence.died? (ts.map Occurrence.died).reverse = ts := by
    rw [findings, List.reverse_reverse, List.filterMap_map]
    exact List.filterMap_some
  have hnotices : notices ((ts.map Occurrence.died).reverse ++ j) = notices j := by
    refine findings_of_other _ fun x hx => ?_
    obtain ⟨t, -, rfl⟩ := mem_dying.mp hx
    rfl
  rw [Queued, deaths, findings_append, hdeaths, hnotices, ← List.append_assoc]
  exact congrArg (· ++ ts) h

theorem noticed {t : UInt64} (h : Queued j (t :: queue)) :
    Queued (.entered .delete [.rawPointer t] :: j) queue := by
  rw [Queued, deaths, notices, findings_cons, findings_cons]
  show deaths j ++ [] = notices j ++ [t] ++ queue
  rw [h, List.append_nil, List.append_assoc]
  rfl

/-- The first in the queue has died, and the host was not told of it. -/
theorem due {t : UInt64} (h : Queued j (t :: queue)) (hj : Lawful j) :
    .died t ∈ j ∧ t ∉ notices j := by
  have hmem : t ∈ deaths j := by
    rw [h]
    exact List.mem_append_right _ List.mem_cons_self
  have hnodup := hj.deaths_nodup
  rw [h, List.nodup_append] at hnodup
  exact ⟨mem_deaths.mp hmem, fun ht => hnodup.2.2 t ht t List.mem_cons_self rfl⟩

end Queued

/-! ### Constructions -/

/-- Does a construction begin or end with it? -/
def Occurrence.constructs : Occurrence → Bool
  | drawn _ | made _ | refused _ => true
  | _ => false

/-- Every token up to `last`, the token that was drawn last, was drawn, and no other. -/
structure Numbers (j : List Occurrence) (last : UInt64) : Prop where
  counted : (draws j).length = last.toNat
  numbered : ∀ t, .drawn t ∈ j → 0 < t.toNat ∧ t.toNat ≤ last.toNat

namespace Numbers

variable {j : List Occurrence} {last : UInt64}

theorem start : Numbers [] 0 := ⟨rfl, fun _ h => absurd h List.not_mem_nil⟩

/-- Nothing is drawn. -/
theorem later (h : Numbers j last) (es : List Occurrence) (hes : ∀ x ∈ es, x.drawn? = none) :
    Numbers (es ++ j) last := by
  have hdraws : draws (es ++ j) = draws j := findings_of_other _ hes
  refine ⟨hdraws ▸ h.counted, fun t ht => h.numbered t ?_⟩
  exact mem_draws.mp (hdraws ▸ mem_draws.mpr ht)

/-- The numbers do not come round. -/
theorem next (h : Numbers j last) (hfew : (draws j).length + 1 < 2 ^ 53) :
    (last + 1).toNat = last.toNat + 1 := by
  rw [h.counted] at hfew
  rw [UInt64.toNat_add]
  exact Nat.mod_eq_of_lt (Nat.lt_trans hfew (by decide))

theorem drawn (h : Numbers j last) (hfew : (draws j).length + 1 < 2 ^ 53) :
    Numbers (.drawn (last + 1) :: j) (last + 1) := by
  have hnext := h.next hfew
  refine ⟨?_, fun t ht => ?_⟩
  · have hdraws : draws (.drawn (last + 1) :: j) = draws j ++ [last + 1] := findings_cons _ _ _
    rw [hdraws, List.length_append, h.counted, hnext]
    rfl
  · rcases List.mem_cons.mp ht with heq | ht
    · cases heq
      omega
    · have := h.numbered t ht
      omega

/-- A token that was drawn has an exact double, as long as few have been drawn. -/
theorem small (h : Numbers j last) (hfew : (draws j).length < 2 ^ 53) {t : UInt64}
    (ht : .drawn t ∈ j) : 0 < t.toNat ∧ t.toNat < 2 ^ 53 := by
  obtain ⟨hpos, hle⟩ := h.numbered t ht
  exact ⟨hpos, Nat.lt_of_le_of_lt (h.counted ▸ hle) hfew⟩

end Numbers

/-- The journal knows of every construction, and of those in `P` that they are under way. -/
structure Records (j : List Occurrence) (last : UInt64) (P : List UInt64) : Prop
    extends Numbers j last where
  settled : ∀ t, .drawn t ∈ j → .made t ∈ j ∨ .refused t ∈ j ∨ t ∈ P
  awaited : ∀ t ∈ P, Awaited j t
  distinct : P.Nodup

namespace Records

variable {j : List Occurrence} {last t : UInt64} {P : List UInt64}

theorem start : Records [] 0 [] where
  toNumbers := .start
  settled _ h := absurd h List.not_mem_nil
  awaited _ h := absurd h List.not_mem_nil
  distinct := List.nodup_nil

/-- Nothing of it concerns a construction. -/
theorem later (h : Records j last P) (es : List Occurrence)
    (hes : ∀ x ∈ es, x.constructs = false) : Records (es ++ j) last P := by
  have mem : ∀ {x : Occurrence}, x.constructs = true → (x ∈ es ++ j ↔ x ∈ j) := fun hx =>
    mem_append_of_other hes fun hother => by
      rw [hx] at hother
      cases hother
  have hnumbers : Numbers (es ++ j) last := by
    refine h.toNumbers.later es fun x hx => ?_
    have hother := hes x hx
    cases x <;> first | rfl | cases hother
  refine ⟨hnumbers, fun t ht => ?_, fun t ht => ?_, h.distinct⟩
  · rw [mem rfl, mem rfl]
    exact h.settled t ((mem rfl).mp ht)
  · rw [Awaited, mem rfl, mem rfl, mem rfl]
    exact h.awaited t ht

/-- The token after the last was not drawn before. -/
theorem fresh (h : Records j last P) (hfew : (draws j).length + 1 < 2 ^ 53) :
    .drawn (last + 1) ∉ j := by
  intro hmem
  have hnext := h.next hfew
  have := (h.numbered _ hmem).2
  omega

/-- A construction begins. -/
theorem drawn (h : Records j last P) (hj : Lawful j) (hfew : (draws j).length + 1 < 2 ^ 53) :
    Records (.drawn (last + 1) :: j) (last + 1) ((last + 1) :: P) := by
  have hnew := h.fresh hfew
  refine ⟨h.toNumbers.drawn hfew, fun t ht => ?_, fun t ht => ?_, ?_⟩
  · rcases List.mem_cons.mp ht with heq | ht
    · cases heq
      exact .inr (.inr List.mem_cons_self)
    · rcases h.settled t ht with h | h | h
      · exact .inl (List.mem_cons_of_mem _ h)
      · exact .inr (.inl (List.mem_cons_of_mem _ h))
      · exact .inr (.inr (List.mem_cons_of_mem _ h))
  · rcases List.mem_cons.mp ht with rfl | ht
    · refine ⟨List.mem_cons_self, fun hmem => ?_, fun hmem => ?_⟩
      · exact hnew (hj.drawn_of_made ((List.mem_cons.mp hmem).resolve_left nofun))
      · exact hnew (hj.drawn_of_refused ((List.mem_cons.mp hmem).resolve_left nofun))
    · exact (h.awaited t ht).cons nofun nofun
  · exact List.nodup_cons.mpr ⟨fun hmem => hnew (h.awaited _ hmem).1, h.distinct⟩

/-- A construction ends: `x` is about the token alone. -/
theorem ended (h : Records j last (t :: P)) {x : Occurrence} (hx : x = .made t ∨ x = .refused t) :
    Records (x :: j) last P := by
  obtain ⟨hout, hdistinct⟩ := List.nodup_cons.mp h.distinct
  have hdrawn : ∀ u, x ≠ .drawn u := by rintro u rfl; rcases hx with hx | hx <;> cases hx
  have hnumbers : Numbers (x :: j) last := by
    refine h.toNumbers.later [x] fun y hy => ?_
    cases List.mem_singleton.mp hy
    rcases hx with rfl | rfl <;> rfl
  -- the token is now settled, and the others are awaited as before
  have mem : ∀ {u}, .drawn u ∈ x :: j → .drawn u ∈ j := fun hu =>
    (List.mem_cons.mp hu).resolve_left fun e => hdrawn _ e.symm
  refine ⟨hnumbers, fun u hu => ?_, fun u hu => ?_, hdistinct⟩
  · rcases h.settled u (mem hu) with hu | hu | hu
    · exact .inl (List.mem_cons_of_mem _ hu)
    · exact .inr (.inl (List.mem_cons_of_mem _ hu))
    · rcases List.mem_cons.mp hu with rfl | hu
      · rcases hx with rfl | rfl
        · exact .inl List.mem_cons_self
        · exact .inr (.inl List.mem_cons_self)
      · exact .inr (.inr hu)
  · have hne : u ≠ t := fun e => hout (e ▸ hu)
    refine (h.awaited u (List.mem_cons_of_mem _ hu)).cons ?_ ?_
    · rintro rfl
      rcases hx with hx | hx <;> cases hx
      exact hne rfl
    · rintro rfl
      rcases hx with hx | hx <;> cases hx
      exact hne rfl

end Records

end ScriptBridge
