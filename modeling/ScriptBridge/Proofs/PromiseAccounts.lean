import ScriptBridge.Proofs.ActionShapes
import ScriptBridge.Proofs.CallbackFrames
import ScriptBridge.Proofs.NatMapEntries
import ScriptBridge.Proofs.TokenHistory

/-!
Every promise of the host is completed at most once.

The journal tells which promises were made and which were completed.  A table of promises is
`Accounted` for by a journal when what waits in it is what was made and not completed:

    t.pending.get? id = some p   ↔   promised id p ∈ j  and  completed id ∉ j

Design.  The table changes in two places only, where a promise is made and where one is taken out, and
each of them notes it.  So `Accounted` is kept by everything else (`Accounted.later`), and the counts,
what a slot decodes to and what becomes of a completion are all read off it.  The numbers of promises
come round after `2 ^ 32` of them, and a context that has ended gives its table up; `World.Open` says
that neither has happened.
-/
namespace ScriptBridge

open Data Script Script.Script

variable {σ α : Type}

/-! ### Promises in a journal -/

namespace Occurrence

def promised? : Occurrence → Option (PromiseId × PendingPromise)
  | promised id p => some (id, p)
  | _ => none

def completed? : Occurrence → Option PromiseId
  | completed id => some id
  | _ => none

/-- Is it about the table of promises? -/
def tabled : Occurrence → Bool
  | promised .. | completed _ | ended => true
  | _ => false

end Occurrence

/-- The promises that were made, each under its number, and the numbers of those completed. -/
def pledges (j : List Occurrence) : List (PromiseId × PendingPromise) :=
  findings Occurrence.promised? j

def completions (j : List Occurrence) : List PromiseId := findings Occurrence.completed? j

theorem pledges_promised (id : PromiseId) (p : PendingPromise) (j : List Occurrence) :
    pledges (.promised id p :: j) = pledges j ++ [(id, p)] := findings_cons _ _ _

theorem completions_promised (id : PromiseId) (p : PendingPromise) (j : List Occurrence) :
    completions (.promised id p :: j) = completions j :=
  findings_of_other [.promised id p] (List.forall_mem_singleton.mpr rfl)

theorem pledges_completed (id : PromiseId) (j : List Occurrence) :
    pledges (.completed id :: j) = pledges j :=
  findings_of_other [.completed id] (List.forall_mem_singleton.mpr rfl)

theorem completions_completed (id : PromiseId) (j : List Occurrence) :
    completions (.completed id :: j) = completions j ++ [id] := findings_cons _ _ _

/-- What is not about promises changes neither list. -/
theorem tabled_of_other {es j : List Occurrence} (hes : ∀ x ∈ es, x.tabled = false) :
    pledges (es ++ j) = pledges j ∧ completions (es ++ j) = completions j := by
  constructor
  · refine findings_of_other _ fun x hx => ?_
    have hother := hes x hx
    cases x <;> first | rfl | cases hother
  · refine findings_of_other _ fun x hx => ?_
    have hother := hes x hx
    cases x <;> first | rfl | cases hother

/-! ### The table and its journal -/

namespace PromiseTable

/-- What waits in the table is what was made and not completed. -/
structure Accounted (t : PromiseTable) (j : List Occurrence) : Prop where
  counted : (pledges j).length = t.lastId.toNat
  numbered : ∀ id p, (id, p) ∈ pledges j → id.id.toNat ≤ t.lastId.toNat
  distinct : ((pledges j).map Prod.fst).Nodup
  settles : ∀ id p, (id, p) ∈ pledges j → p.Settles
  once : (completions j).Nodup
  made : ∀ id ∈ completions j, ∃ p, (id, p) ∈ pledges j
  pending : ∀ n p, t.pending.get? n = some p
    ↔ ∃ id, id.id.toNat = n ∧ (id, p) ∈ pledges j ∧ id ∉ completions j

namespace Accounted

variable {t u : PromiseTable} {j : List Occurrence} {id : PromiseId} {p q : PendingPromise}

theorem start : Accounted .empty [] where
  counted := rfl
  numbered _ _ h := absurd h List.not_mem_nil
  distinct := List.nodup_nil
  settles _ _ h := absurd h List.not_mem_nil
  once := List.nodup_nil
  made _ h := absurd h List.not_mem_nil
  pending n p := by
    refine ⟨fun h => ?_, fun ⟨_, _, h, _⟩ => absurd h List.not_mem_nil⟩
    cases (NatMap.get?_empty n).symm.trans h

theorem later (h : t.Accounted j) {es : List Occurrence} (hes : ∀ x ∈ es, x.tabled = false) :
    t.Accounted (es ++ j) := by
  obtain ⟨hpledges, hcompleted⟩ := tabled_of_other (j := j) hes
  exact {
    counted := hpledges ▸ h.counted
    numbered := hpledges ▸ h.numbered
    distinct := hpledges ▸ h.distinct
    settles := hpledges ▸ h.settles
    once := hcompleted ▸ h.once
    made := hpledges ▸ hcompleted ▸ h.made
    pending := hpledges ▸ hcompleted ▸ h.pending }

theorem id_inj {i k : PromiseId} (h : i.id.toNat = k.id.toNat) : i = k := by
  cases i
  cases k
  exact congrArg PromiseId.mk (UInt32.toNat_inj.mp h)

/-- A number stands for one promise. -/
theorem unique (h : t.Accounted j) (hp : (id, p) ∈ pledges j) (hq : (id, q) ∈ pledges j) : p = q :=
  congrArg Prod.snd (List.inj_on_of_nodup_map h.distinct hp hq rfl)

/-! ### Making and taking -/

theorem insert (h : t.Accounted j) (hp : p.Settles) (hfew : (pledges j).length + 1 < 2 ^ 32) :
    (t.insert p).2.Accounted (.promised (t.insert p).1 p :: j) := by
  have hlast : (t.lastId + 1).toNat = t.lastId.toNat + 1 := by
    rw [h.counted] at hfew
    rw [UInt32.toNat_add]
    exact Nat.mod_eq_of_lt hfew
  -- the new number is above all others, so nothing was made or completed under it
  have hnew : ∀ id p, (id, p) ∈ pledges j → id.id.toNat ≠ (t.lastId + 1).toNat := by
    intro id p hmem heq
    have hle := h.numbered id p hmem
    omega
  have hunmade : ∀ p, ((⟨t.lastId + 1⟩ : PromiseId), p) ∉ pledges j :=
    fun p hmem => hnew _ p hmem rfl
  have hundone : (⟨t.lastId + 1⟩ : PromiseId) ∉ completions j := fun hmem => by
    obtain ⟨p, hp⟩ := h.made _ hmem
    exact hunmade p hp
  have hid : (t.insert p).1 = ⟨t.lastId + 1⟩ := rfl
  have member : ∀ {id' q}, (id', q) ∈ pledges (.promised (t.insert p).1 p :: j)
      ↔ (id', q) ∈ pledges j ∨ (id' = ⟨t.lastId + 1⟩ ∧ q = p) := by
    intro id' q
    rw [pledges_promised, List.mem_append, List.mem_singleton, Prod.mk.injEq, hid]
  constructor
  · rw [pledges_promised, List.length_append, h.counted]
    exact hlast.symm
  · intro id' q hmem
    show id'.id.toNat ≤ (t.lastId + 1).toNat
    rcases member.mp hmem with hmem | ⟨rfl, -⟩
    · exact Nat.le_trans (h.numbered id' q hmem) (by omega)
    · exact Nat.le_refl _
  · rw [pledges_promised, List.map_append, List.nodup_append]
    refine ⟨h.distinct, List.nodup_singleton _, ?_⟩
    rintro a ha b hb rfl
    obtain ⟨⟨a, q⟩, hmem, rfl⟩ := List.mem_map.mp ha
    cases List.mem_singleton.mp hb
    exact hunmade q hmem
  · intro id' q hmem
    rcases member.mp hmem with hmem | ⟨-, rfl⟩
    · exact h.settles id' q hmem
    · exact hp
  · rw [completions_promised]
    exact h.once
  · intro id' hmem
    rw [completions_promised] at hmem
    obtain ⟨q, hq⟩ := h.made id' hmem
    exact ⟨q, member.mpr (.inl hq)⟩
  · intro n q
    show (t.pending.insert (t.lastId + 1).toNat p).get? n = some q ↔ _
    rw [NatMap.get?_insert, completions_promised]
    by_cases hn : n = (t.lastId + 1).toNat
    · rw [if_pos hn]
      constructor
      · intro heq
        cases heq
        exact ⟨⟨t.lastId + 1⟩, hn.symm, member.mpr (.inr ⟨rfl, rfl⟩), hundone⟩
      · rintro ⟨id', hid', hmem, -⟩
        rcases member.mp hmem with hmem | ⟨-, rfl⟩
        · exact absurd (hid'.trans hn) (hnew id' q hmem)
        · rfl
    · rw [if_neg hn, h.pending]
      constructor
      · rintro ⟨id', hid', hmem, hout⟩
        exact ⟨id', hid', member.mpr (.inl hmem), hout⟩
      · rintro ⟨id', hid', hmem, hout⟩
        rcases member.mp hmem with hmem | ⟨rfl, -⟩
        · exact ⟨id', hid', hmem, hout⟩
        · exact absurd hid'.symm hn

theorem get_ok_iff (h : t.Accounted j) :
    t.get id = .ok p ↔ (id, p) ∈ pledges j ∧ id ∉ completions j := by
  rw [get_ok, h.pending]
  constructor
  · rintro ⟨k, hk, hmem⟩
    cases id_inj hk
    exact hmem
  · exact fun hmem => ⟨id, rfl, hmem⟩

theorem take (h : t.Accounted j) (ht : t.take id = .ok (p, u)) :
    u.Accounted (.completed id :: j) := by
  obtain ⟨hget, rfl⟩ := take_ok ht
  obtain ⟨hmade, hundone⟩ := h.get_ok_iff.mp hget
  constructor
  · rw [pledges_completed]
    exact h.counted
  · rw [pledges_completed]
    exact h.numbered
  · rw [pledges_completed]
    exact h.distinct
  · rw [pledges_completed]
    exact h.settles
  · rw [completions_completed, List.nodup_append]
    refine ⟨h.once, List.nodup_singleton _, ?_⟩
    rintro a ha b hb rfl
    cases List.mem_singleton.mp hb
    exact hundone ha
  · rw [completions_completed, pledges_completed]
    intro k hk
    rcases List.mem_append.mp hk with hk | hk
    · exact h.made k hk
    · cases List.mem_singleton.mp hk
      exact ⟨p, hmade⟩
  · intro n q
    show (t.pending.erase id.id.toNat).get? n = some q ↔ _
    rw [NatMap.get?_erase, pledges_completed, completions_completed]
    -- the place of the promise is empty now, and its number is among those completed
    by_cases hn : n = id.id.toNat
    · rw [if_pos hn]
      refine ⟨nofun, ?_⟩
      rintro ⟨k, hk, -, hout⟩
      cases id_inj (hk.trans hn)
      exact absurd (List.mem_append_right _ List.mem_cons_self) hout
    · rw [if_neg hn, h.pending]
      refine exists_congr fun k => and_congr_right fun hk => and_congr_right fun _ => ?_
      have hne : k ≠ id := fun heq => hn (heq ▸ hk.symm)
      simp [hne]

/-! ### What can be read off -/

/-- The table holds as many promises as were made and not completed. -/
theorem balance (h : t.Accounted j) : t.size + (completions j).length = (pledges j).length := by
  -- both sides list the numbers of all promises, each once
  have hkeys : (t.pending.entries.map Prod.fst ++ (completions j).map fun id => id.id.toNat).Perm
      ((pledges j).map fun e => e.1.id.toNat) := by
    have hinj : Function.Injective fun id : PromiseId => id.id.toNat := fun _ _ => id_inj
    refine (List.perm_ext_iff_of_nodup ?_ ?_).mpr fun n => ?_
    · refine List.nodup_append.mpr ⟨NatMap.nodup_entries _, h.once.map hinj, ?_⟩
      rintro n hn m hm rfl
      obtain ⟨⟨n, p⟩, hmem, rfl⟩ := List.mem_map.mp hn
      obtain ⟨id, hdone, hid⟩ := List.mem_map.mp hm
      obtain ⟨k, hk, -, hout⟩ := (h.pending n p).mp (NatMap.mem_entries.mp hmem)
      cases id_inj (hid.trans hk.symm)
      exact hout hdone
    · have hids := h.distinct.map hinj
      rwa [List.map_map] at hids
    · rw [List.mem_append, List.mem_map, List.mem_map, List.mem_map]
      constructor
      · rintro (⟨⟨n, p⟩, hmem, rfl⟩ | ⟨id, hdone, rfl⟩)
        · obtain ⟨k, hk, hmade, -⟩ := (h.pending n p).mp (NatMap.mem_entries.mp hmem)
          exact ⟨(k, p), hmade, hk⟩
        · obtain ⟨p, hp⟩ := h.made id hdone
          exact ⟨(id, p), hp, rfl⟩
      · rintro ⟨⟨id, p⟩, hmade, rfl⟩
        by_cases hdone : id ∈ completions j
        · exact .inr ⟨id, hdone, rfl⟩
        · exact .inl ⟨(id.id.toNat, p), NatMap.mem_entries.mpr
            ((h.pending _ p).mpr ⟨id, rfl, hmade, hdone⟩), rfl⟩
  have hlength := hkeys.length_eq
  rw [List.length_append, List.length_map, List.length_map, List.length_map] at hlength
  exact hlength

/-- What was never made, and what is completed, does not wait. -/
theorem get_error (h : t.Accounted j)
    (hid : id ∉ (pledges j).map Prod.fst ∨ id ∈ completions j) :
    t.get id = .error (.promiseNotPending id.id) := by
  rcases e : t.pending.get? id.id.toNat with - | p
  · rw [get, e]
  · obtain ⟨hmade, hundone⟩ := h.get_ok_iff.mp (get_ok.mpr e)
    rcases hid with hid | hid
    · exact absurd (List.mem_map_of_mem hmade) hid
    · exact absurd hid hundone

end Accounted

end PromiseTable

/-! ### Every moment -/

/-- The promises that wait are those that the journal tells of. -/
def World.Accounted (w : World σ) : Prop := w.bridge.promises.Accounted w.bridge.journal

/-- The context has not ended, and the numbers of promises have not come round. -/
def World.Open (w : World σ) : Prop :=
  .ended ∉ w.bridge.journal ∧ (pledges w.bridge.journal).length < 2 ^ 32 - 1

/-- What was accounted for stays so. -/
structure Accounts (w w' : World σ) : Prop where
  busy : w'.busy = w.busy
  grown : ∃ es, w'.bridge.journal = es ++ w.bridge.journal
  kept : w'.Open → w.Accounted → w'.Accounted

theorem World.Open.earlier {w w' : World σ} (h : w'.Open) {es : List Occurrence}
    (hes : w'.bridge.journal = es ++ w.bridge.journal) : w.Open := by
  obtain ⟨hended, hfew⟩ := h
  rw [hes] at hended hfew
  rw [pledges, findings_append, List.length_append] at hfew
  exact ⟨fun hmem => hended (List.mem_append_right _ hmem),
    Nat.lt_of_le_of_lt (Nat.le_add_right _ _) hfew⟩

namespace Accounts

variable {w w' : World σ}

/-- A step that does not touch the table. -/
theorem aside (es : List Occurrence) (hes : ∀ x ∈ es, x.tabled = false) (hb : w'.busy = w.busy)
    (hj : w'.bridge.journal = es ++ w.bridge.journal)
    (hp : w'.bridge.promises = w.bridge.promises) : Accounts w w' := by
  refine ⟨hb, ⟨es, hj⟩, fun _ h => ?_⟩
  rw [World.Accounted, hj, hp]
  exact h.later hes

theorem silent (hb : w'.busy = w.busy) (hj : w'.bridge.journal = w.bridge.journal)
    (hp : w'.bridge.promises = w.bridge.promises) : Accounts w w' :=
  aside [] (fun _ h => absurd h List.not_mem_nil) hb hj hp

theorem noted {x : Occurrence} (hx : x.tabled = false) (hb : w'.busy = w.busy)
    (hj : w'.bridge.journal = x :: w.bridge.journal)
    (hp : w'.bridge.promises = w.bridge.promises) : Accounts w w' :=
  aside [x] (List.forall_mem_singleton.mpr hx) hb hj hp

theorem promised (w : World σ) (p : PendingPromise) (hp : p.Settles) :
    Accounts w { w with bridge := { w.bridge with
      promises := (w.bridge.promises.insert p).2 }.note (.promised (w.bridge.promises.insert p).1 p) } := by
  refine ⟨rfl, ⟨[_], rfl⟩, fun hopen h => h.insert hp ?_⟩
  have hfew : (pledges (.promised (w.bridge.promises.insert p).1 p :: w.bridge.journal)).length
    < 2 ^ 32 - 1 := hopen.2
  rw [pledges_promised, List.length_append] at hfew
  exact Nat.lt_of_lt_of_le hfew (by decide)

theorem upkeep : Upkeep (@Accounts σ) where
  refl _ := silent rfl rfl rfl
  trans := by
    rintro a b c ⟨hb, ⟨es, hes⟩, hkept⟩ ⟨hb', ⟨fs, hfs⟩, hkept'⟩
    refine ⟨hb'.trans hb, ⟨fs ++ es, by rw [hfs, hes, List.append_assoc]⟩, fun hopen h => ?_⟩
    exact hkept' hopen (hkept (hopen.earlier hfs) h)
  memory _ _ := silent rfl rfl rfl
  log _ _ := silent rfl rfl rfl
  retained _ _ _ _ := noted rfl rfl rfl rfl
  released _ _ _ _ _ := noted rfl rfl rfl rfl
  promised := promised

theorem reporting : Reporting (@Accounts σ) where
  deferred _ _ := silent rfl rfl rfl
  rejected _ _ _ := noted rfl rfl rfl rfl
  logged _ _ := noted rfl rfl rfl rfl

theorem callback {host : Host σ} {run : Runner σ} (hr : run.Obeys Accounts) (c : Callback)
    (slots : List Slot) (args : List Value) {finish : Reply → Act σ α}
    (hf : ∀ r, (finish r).Keeps Accounts) :
    Act.Keeps Accounts (run.callHost host c slots args finish) := by
  intro w
  have hopen : Accounts w (Runner.openFrame args w).2 := by
    obtain ⟨es, hes, hissued⟩ := Runner.openFrame_issues args w
    refine aside es (fun x hx => ?_) rfl hes (Pledging.encodeAll_promises _ args)
    obtain ⟨h, rfl⟩ := hissued x hx
    rfl
  refine upkeep.callHost hr hf hopen (fun hb w' h => ?_) fun w' => silent rfl rfl rfl
  have henter : Accounts { (Runner.openFrame args w).2 with busy := true }
      (Runner.entering c (slots ++ (Runner.openFrame args w).1) (Runner.openFrame args w).2) :=
    noted rfl rfl rfl rfl
  obtain ⟨es, hes⟩ := (upkeep.trans henter h).grown
  have hleft : Accounts w' { Runner.leaving w' with busy := true } :=
    noted (x := .left) rfl h.busy.symm rfl rfl
  refine ⟨hb.symm, ⟨.left :: es, ?_⟩, fun hw' => (upkeep.trans henter (upkeep.trans h hleft)).kept hw'⟩
  show Occurrence.left :: w'.bridge.journal = _
  rw [hes]
  rfl

theorem service (host : Host σ) : Service host Accounts :=
  TableBystander.service {
    toUpkeep := upkeep
    engineChange := fun _ _ => silent rfl rfl rfl
    rejection := fun _ hr => upkeep.rejection hr reporting host
    tokenDrawn := fun _ _ => noted rfl rfl rfl rfl
    tokenMade := fun _ _ => noted rfl rfl rfl rfl
    tokenRefused := fun _ _ => noted rfl rfl rfl rfl
    instanceBuilt := fun _ _ _ _ => noted rfl rfl rfl rfl
    memberAsked := fun _ _ _ _ _ => noted rfl rfl rfl rfl
    callback := fun _ hr _ c slots args _ _ _ hf => callback hr c slots args hf
    busy := Accounts.busy
    withholding := fun _ hr _ _ => upkeep.withholding hr reporting host
    valueStaged := fun _ _ _ => noted rfl rfl rfl rfl
    valueHeld := fun _ _ _ => noted rfl rfl rfl rfl
    promiseTaken := fun _ _ _ _ ht => ⟨rfl, ⟨[_], rfl⟩, fun _ h => h.take ht⟩
    classAdded := fun _ _ => silent rfl rfl rfl
    intrinsicsSet := fun _ _ => silent rfl rfl rfl
    cacheCleared := fun _ => silent rfl rfl rfl
    tablesReleased := fun _ => ⟨rfl, ⟨[.ended], rfl⟩, fun hopen _ =>
      absurd List.mem_cons_self hopen.1⟩
    deathQueued := fun _ _ => noted rfl rfl rfl rfl
    dequeued := fun _ _ => silent rfl rfl rfl
    notice := fun _ hr _ w _ => callback hr _ _ _ (fun _ => upkeep.pure ()) w }

end Accounts

/-- The promises of a context that has not ended are accounted for. -/
theorem Context.Reachable.accounted {c : Context σ} (hc : c.Reachable) (hopen : c.world.Open) :
    c.world.Accounted := by
  obtain ⟨s, memory, h⟩ := hc.kept (Accounts.service c.host)
  exact h.kept hopen .start

end ScriptBridge
