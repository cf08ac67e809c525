import ScriptBridge.Proofs.Serving

/-!
Promises that wait for the host.

The two functions of a promise are made by the engine itself, so a promise that a host has made and
not completed can always be settled.  The table changes in three places only: a promise is made, one
is taken out, and all are given up.
-/
namespace ScriptBridge

open Data Script

variable {σ α : Type}

namespace PromiseTable

/-- Every promise in the table can be settled. -/
def Pledged (t : PromiseTable) : Prop := ∀ id p, t.get id = .ok p → p.Settles

theorem get_ok {t : PromiseTable} {id : PromiseId} {p : PendingPromise} :
    t.get id = .ok p ↔ t.pending.get? id.id.toNat = some p := by
  rw [get]
  rcases t.pending.get? id.id.toNat with - | q <;> simp

theorem pledged_empty (last : UInt32) : Pledged ⟨.empty, last⟩ := by
  intro id p h
  rw [get_ok, NatMap.get?_empty] at h
  cases h

theorem Pledged.insert {t : PromiseTable} {p : PendingPromise} (ht : t.Pledged) (hp : p.Settles) :
    (t.insert p).2.Pledged := by
  intro id q h
  rw [get_ok] at h
  show q.Settles
  rw [PromiseTable.insert, NatMap.get?_insert] at h
  split at h
  · cases h
    exact hp
  · exact ht id q (get_ok.mpr h)

theorem take_ok {t u : PromiseTable} {id : PromiseId} {p : PendingPromise}
    (h : t.take id = .ok (p, u)) :
    t.get id = .ok p ∧ u = { t with pending := t.pending.erase id.id.toNat } := by
  rw [take] at h
  rcases e : t.get id with f | q
  · rw [e] at h
    cases h
  · rw [e] at h
    cases h
    exact ⟨rfl, rfl⟩

theorem take_error {t : PromiseTable} {id : PromiseId} {f : BridgeFault}
    (h : t.take id = .error f) : f = .promiseNotPending id.id := by
  rcases e : t.pending.get? id.id.toNat with _ | p
  · simp only [take, get, e] at h
    cases h
    rfl
  · simp only [take, get, e] at h
    cases h

theorem Pledged.take {t u : PromiseTable} {id : PromiseId} {p : PendingPromise} (ht : t.Pledged)
    (h : t.take id = .ok (p, u)) : u.Pledged := by
  obtain ⟨-, rfl⟩ := take_ok h
  intro other q hq
  rw [get_ok, NatMap.get?_erase] at hq
  split at hq
  · cases hq
  · exact ht other q (get_ok.mpr hq)

end PromiseTable

/-- Whatever could be settled before can be settled after. -/
structure Pledging (w w' : World σ) : Prop where
  busy : w'.busy = w.busy
  pledged : w.bridge.promises.Pledged → w'.bridge.promises.Pledged

namespace Pledging

theorem of_same {w w' : World σ} (hb : w'.busy = w.busy)
    (hp : w'.bridge.promises = w.bridge.promises) : Pledging w w' := ⟨hb, fun h => hp ▸ h⟩

theorem upkeep : Upkeep (@Pledging σ) where
  refl _ := of_same rfl rfl
  trans hab hbc := ⟨hbc.busy.trans hab.busy, fun h => hbc.pledged (hab.pledged h)⟩
  memory _ _ := of_same rfl rfl
  log _ _ := of_same rfl rfl
  retained _ _ _ _ := of_same rfl rfl
  released _ _ _ _ _ := of_same rfl rfl
  promised _ _ hp := ⟨rfl, fun h => h.insert hp⟩

theorem reporting : Reporting (@Pledging σ) where
  deferred _ _ := of_same rfl rfl
  rejected _ _ _ := of_same rfl rfl
  logged _ _ := of_same rfl rfl

/-- Encoding does not touch the table. -/
theorem encodeAll_promises (b : Bridge) (args : List Value) :
    (b.encodeAll args).2.promises = b.promises := by
  induction args generalizing b with
  | nil => rfl
  | cons v rest ih =>
    have hv : (b.encode v).2.promises = b.promises := by
      cases v <;> rfl
    rw [Bridge.encodeAll_cons_snd, ih, hv]

theorem callback {host : Host σ} {run : Runner σ} (hr : run.Obeys Pledging) (c : Callback)
    (slots : List Slot) (args : List Value) {finish : Reply → Act σ α}
    (hf : ∀ r, (finish r).Keeps Pledging) :
    Act.Keeps Pledging (run.callHost host c slots args finish) := by
  intro w
  have hopen : Pledging w (Runner.openFrame args w).2 := of_same rfl (encodeAll_promises _ args)
  refine upkeep.callHost hr hf hopen (fun hb w' h => ?_) fun w' => of_same rfl rfl
  exact ⟨hb.symm, h.pledged⟩

theorem service (host : Host σ) : Service host Pledging :=
  TableBystander.service {
    toUpkeep := upkeep
    engineChange := fun _ _ => of_same rfl rfl
    rejection := fun _ hr => upkeep.rejection hr reporting host
    instanceBuilt := fun _ _ _ _ => of_same rfl rfl
    memberAsked := fun _ _ _ _ _ => of_same rfl rfl
    withholding := fun _ hr _ _ => upkeep.withholding hr reporting host
    tokenDrawn := fun _ _ => of_same rfl rfl
    tokenMade := fun _ _ => of_same rfl rfl
    tokenRefused := fun _ _ => of_same rfl rfl
    callback := fun _ hr _ c slots args _ _ _ hf => callback hr c slots args hf
    busy := Pledging.busy
    valueStaged := fun _ _ _ => of_same rfl rfl
    valueHeld := fun _ _ _ => of_same rfl rfl
    promiseTaken := fun _ _ _ _ h => ⟨rfl, fun hp => hp.take h⟩
    classAdded := fun _ _ => of_same rfl rfl
    intrinsicsSet := fun _ _ => of_same rfl rfl
    cacheCleared := fun _ => of_same rfl rfl
    tablesReleased := fun _ => ⟨rfl, fun _ => PromiseTable.pledged_empty _⟩
    deathQueued := fun _ _ => of_same rfl rfl
    dequeued := fun _ _ => of_same rfl rfl
    notice := fun _ hr _ w _ => callback hr _ _ _ (fun _ => upkeep.pure ()) w }

end Pledging

/-- **In every context that a host can come to, every promise that waits for it can be settled.** -/
theorem Context.Reachable.pledged {c : Context σ} (hc : c.Reachable) :
    c.world.bridge.promises.Pledged := by
  obtain ⟨s, memory, h⟩ := hc.kept (Pledging.service c.host)
  exact h.pledged (PromiseTable.pledged_empty 0)

end ScriptBridge
