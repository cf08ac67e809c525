import ScriptBridge.Proofs.PromiseAccounts

/-!
What a completion does.

The value slot is read first, and only for the outcomes that need it; then the promise is taken out of
the table, and one of its two functions is called.  So a completion ends in one of three ways: the
slot is at fault, the promise does not wait, or the function is called in the world that the promise
has left.
-/
namespace ScriptBridge

open Data Script Script.Script

variable {σ α : Type}

/-- The function that a code calls. -/
def PendingPromise.settler (p : PendingPromise) (code : Int32) : Value :=
  if code = 0 then p.reject else p.resolve

theorem PendingPromise.Settles.settler {p : PendingPromise} (hp : p.Settles) (code : Int32) :
    ∃ f, p.settler code = .object f := by
  unfold PendingPromise.settler
  split
  · exact hp.2
  · exact hp.1

/-- What a code hands on: two codes read the value slot, where there is one, and the others do
without. -/
def Bridge.completionValue (b : Bridge) (code : Int32) (rest : List Slot) :
    Except BridgeFault Value :=
  if code = 0 ∨ code = 1 then
    match rest with
    | s :: _ => b.decode s
    | [] => .ok .undefined
  else .ok .null

/-- The world that a completed promise has left. -/
def World.withoutPromise (w : World σ) (id : PromiseId) : World σ :=
  { w with bridge := { w.bridge with promises := { w.bridge.promises with
      pending := w.bridge.promises.pending.erase id.id.toNat } }.note (.completed id) }

namespace Dispatch

theorem ofCode_cases (code : Int32) :
    (code = 0 ∧ Outcome.ofCode code.toInt = .reject)
      ∨ (code = 1 ∧ Outcome.ofCode code.toInt = .resolve)
      ∨ (code ≠ 0 ∧ code ≠ 1 ∧ Outcome.ofCode code.toInt = .resolveNull) := by
  by_cases h0 : code = 0
  · exact .inl ⟨h0, by rw [h0]; rfl⟩
  · by_cases h1 : code = 1
    · exact .inr (.inl ⟨h1, by rw [h1]; rfl⟩)
    · refine .inr (.inr ⟨h0, h1, ?_⟩)
      have hne0 : code.toInt ≠ 0 := fun h => h0 (Int32.toInt_inj.mp h)
      have hne1 : code.toInt ≠ 1 := fun h => h1 (Int32.toInt_inj.mp h)
      simp [Outcome.ofCode, hne0, hne1]

/-- The value of a completion is read from the bridge, and nothing changes. -/
theorem completion_eq (code : Int32) (rest : List Slot) (w : World σ) :
    (completion (Outcome.ofCode code.toInt) rest : Act σ Value) w
      = (Act.orFault (w.bridge.completionValue code rest) : Act σ Value) w := by
  unfold Bridge.completionValue
  rcases ofCode_cases code with ⟨rfl, hcode⟩ | ⟨rfl, hcode⟩ | ⟨h0, h1, hcode⟩
  · rw [hcode, if_pos (.inl rfl)]
    cases rest <;> rfl
  · rw [hcode, if_pos (.inr rfl)]
    cases rest <;> rfl
  · rw [hcode, if_neg fun h => h.elim h0 h1]
    rfl

variable (run : Runner σ) (host : Host σ) {id : PromiseId} {code : Int32} {rest : List Slot}
  {w : World σ}

/-- A value slot that does not decode ends the completion. -/
theorem completePromise_badValue {f : BridgeFault}
    (hv : w.bridge.completionValue code rest = .error f) :
    perform run host .promiseComplete (.promise id :: .int32 code :: rest) w
      = .error (.fault f) w := by
  have hvalue : (completion (Outcome.ofCode code.toInt) rest : Act σ Value) w
      = .error (.fault f) w := by
    rw [completion_eq, hv]
    rfl
  have hcomplete : completePromise run (.promise id :: .int32 code :: rest) w
      = .error (.fault f) w := Act.bind_error hvalue
  exact Act.bind_error hcomplete

section Value

variable {v : Value} (hv : w.bridge.completionValue code rest = .ok v)

include hv

/-- What is left to do once the value is known. -/
theorem completePromise_valued :
    completePromise run (.promise id :: .int32 code :: rest) w
      = (do
          let (p, t) ← Act.orFault (w.bridge.promises.take id)
          Act.setBridge ({ w.bridge with promises := t }.note (.completed id))
          settlePromise run (p.settler code) v : Act σ Unit) w := by
  have hvalue : (completion (Outcome.ofCode code.toInt) rest : Act σ Value) w = .ok v w := by
    rw [completion_eq, hv]
    rfl
  -- the code zero rejects, every other resolves
  have hsettler : ∀ p : PendingPromise,
      (if Outcome.ofCode code.toInt == .reject then p.reject else p.resolve) = p.settler code := by
    intro p
    unfold PendingPromise.settler
    rcases ofCode_cases code with ⟨rfl, hcode⟩ | ⟨rfl, hcode⟩ | ⟨h0, -, hcode⟩
    · rw [hcode]
      rfl
    · rw [hcode]
      rfl
    · rw [hcode, if_neg h0]
      rfl
  refine (Act.bind_ok hvalue).trans ?_
  simp only [hsettler]
  rfl

/-- A promise that does not wait cannot be completed. -/
theorem completePromise_settled
    (hid : w.bridge.promises.get id = .error (.promiseNotPending id.id)) :
    perform run host .promiseComplete (.promise id :: .int32 code :: rest) w
      = .error (.fault (.promiseNotPending id.id)) w := by
  have htake : w.bridge.promises.take id = .error (.promiseNotPending id.id) := by
    rw [PromiseTable.take, hid]
  have hcomplete : completePromise run (.promise id :: .int32 code :: rest) w
      = .error (.fault (.promiseNotPending id.id)) w := by
    rw [completePromise_valued run hv, htake]
    rfl
  exact Act.bind_error hcomplete

/-- A promise that waits leaves the table, and then one of its functions is called. -/
theorem completePromise_pending {p : PendingPromise} {f : Ref}
    (hid : w.bridge.promises.get id = .ok p) (hf : p.settler code = .object f) :
    perform run host .promiseComplete (.promise id :: .int32 code :: rest) w
      = (do
          let _ ← run.script (call f .undefined [v])
          return none : Act σ (Option Slot)) (w.withoutPromise id) := by
  have htake : w.bridge.promises.take id = .ok (p, { w.bridge.promises with
      pending := w.bridge.promises.pending.erase id.id.toNat }) := by
    rw [PromiseTable.take, hid]
  have hcomplete : completePromise run (.promise id :: .int32 code :: rest) w
      = (discard (run.script (call f .undefined [v])) : Act σ Unit) (w.withoutPromise id) := by
    have hsettle : settlePromise run (p.settler code) v
        = discard (run.script (call f .undefined [v])) := by
      rw [hf]
      rfl
    rw [completePromise_valued run hv, htake, ← hsettle]
    rfl
  -- whether or not the function throws, it is called after the promise was taken out
  rcases e : run.script (call f .undefined [v]) (w.withoutPromise id) with ⟨r, w'⟩ | ⟨g, w'⟩
  · have hdone : completePromise run (.promise id :: .int32 code :: rest) w = .ok () w' := by
      rw [hcomplete]
      show EStateM.map _ _ _ = _
      rw [EStateM.map, e]
    rw [Act.bind_ok e]
    exact Act.bind_ok hdone
  · have hfailed : completePromise run (.promise id :: .int32 code :: rest) w = .error g w' := by
      rw [hcomplete]
      show EStateM.map _ _ _ = _
      rw [EStateM.map, e]
    rw [Act.bind_error e]
    exact Act.bind_error hfailed

end Value

end Dispatch

/-! ### The whole -/

/-- What holds of the host's promises at a moment: `made` and `done` are those made and completed so
far. -/
structure PromiseCycle (host : Host σ) (w : World σ) (made : List (PromiseId × PendingPromise))
    (done : List PromiseId) : Prop where
  /-- no number stands for two promises -/
  distinct : (made.map Prod.fst).Nodup
  /-- nothing is completed twice, and nothing that was not made -/
  completedOnce : done.Nodup
  completedMade : done ⊆ made.map Prod.fst
  balance : w.bridge.promises.size + done.length = made.length
  /-- a promise slot means its promise exactly while that waits -/
  waiting : ∀ id p, (id, p) ∈ made → id ∉ done → w.bridge.decode (.promise id) = .ok p.target
  settled : ∀ id, id ∉ made.map Prod.fst ∨ id ∈ done →
    w.bridge.decode (.promise id) = .error (.promiseNotPending id.id)
  /-- the first completion with a value calls one function, once, and what calls it has taken the
  promise out -/
  completes : ∀ (run : Runner σ) id p code rest v, (id, p) ∈ made → id ∉ done →
    w.bridge.completionValue code rest = .ok v →
    ∃ f, p.settler code = .object f ∧
      Dispatch.perform run host .promiseComplete (.promise id :: .int32 code :: rest) w
        = (do
            let _ ← run.script (call f .undefined [v])
            return none : Act σ (Option Slot)) (w.withoutPromise id)
  /-- a value slot at fault changes nothing, so the promise still waits if it did -/
  badValue : ∀ (run : Runner σ) id code rest f, w.bridge.completionValue code rest = .error f →
    Dispatch.perform run host .promiseComplete (.promise id :: .int32 code :: rest) w
      = .error (.fault f) w
  /-- nor does any other completion of a promise that does not wait -/
  refused : ∀ (run : Runner σ) id code rest v, id ∉ made.map Prod.fst ∨ id ∈ done →
    w.bridge.completionValue code rest = .ok v →
    Dispatch.perform run host .promiseComplete (.promise id :: .int32 code :: rest) w
      = .error (.fault (.promiseNotPending id.id)) w

theorem World.Accounted.promiseCycle {w : World σ} (h : w.Accounted) (host : Host σ) :
    PromiseCycle host w (pledges w.bridge.journal) (completions w.bridge.journal) where
  distinct := h.distinct
  completedOnce := h.once
  completedMade id hid := by
    obtain ⟨p, hp⟩ := h.made id hid
    exact List.mem_map_of_mem hp
  balance := h.balance
  waiting id p hmade hout := by
    have hget : w.bridge.promises.get id = .ok p := h.get_ok_iff.mpr ⟨hmade, hout⟩
    rw [Bridge.decode, hget]
    rfl
  settled id hid := by
    rw [Bridge.decode, h.get_error hid]
    rfl
  completes run id p code rest v hmade hout hv := by
    obtain ⟨f, hf⟩ := (h.settles id p hmade).settler code
    have hget : w.bridge.promises.get id = .ok p := h.get_ok_iff.mpr ⟨hmade, hout⟩
    exact ⟨f, hf, Dispatch.completePromise_pending run host hv hget hf⟩
  badValue run id code rest f hv := Dispatch.completePromise_badValue run host hv
  refused run id code rest v hid hv :=
    Dispatch.completePromise_settled run host hv (h.get_error hid)

/-- When a callback begins, the promises are those of the script that made it. -/
theorem World.Accounted.entering {w : World σ} (h : w.Accounted) (c : Callback) (slots : List Slot)
    (args : List Value) : (Runner.entering c slots (Runner.openFrame args w).2).Accounted := by
  have hopened : (Runner.openFrame args w).2.Accounted := by
    obtain ⟨es, hes, hissued⟩ := Runner.openFrame_issues args w
    have htable : (Runner.openFrame args w).2.bridge.promises = w.bridge.promises :=
      Pledging.encodeAll_promises _ args
    rw [World.Accounted, hes, htable]
    refine PromiseTable.Accounted.later h fun x hx => ?_
    obtain ⟨h, rfl⟩ := hissued x hx
    rfl
  exact PromiseTable.Accounted.later hopened (List.forall_mem_singleton.mpr rfl)

/-- A promise that the host makes is noted under the number that it is given. -/
theorem Runner.newPromise_noted {run : Runner σ} {w w' : World σ} {s : Slot}
    (h : run.newPromise w = .ok s w') :
    ∃ id p, s = .promise id ∧ w'.bridge.journal.head? = some (.promised id p) := by
  rcases e : run.script (ownCapability : Script Capability Capability) w with ⟨c, w₁⟩ | ⟨f, w₁⟩
  · rw [Runner.newPromise, Act.bind_ok e] at h
    cases h
    exact ⟨_, _, rfl, rfl⟩
  · rw [Runner.newPromise, Act.bind_error e] at h
    cases h

/-- **A promise of the host is completed exactly once.**  Of every context that a host can come to by
making fewer than `2 ^ 32 - 1` promises, and that has not ended:

1. the promises made and completed so far have the cycle that `PromiseCycle` describes;
2. they have it still when a script has run, for however many steps and whatever it ran, when the host
   is entered for a callback and when it has taken its turn there, as long as the two conditions hold;
3. a promise that is made, wherever that is, is noted under its number. -/
theorem Context.Reachable.promise_completed_once {c : Context σ} (hc : c.Reachable)
    (hopen : c.world.Open) :
    c.world.Accounted ∧
    (∀ w : World σ, w.Accounted →
      PromiseCycle c.host w (pledges w.bridge.journal) (completions w.bridge.journal)) ∧
    (∀ steps depth (ρ : Type) (p : Prog ρ) (w : World σ), w.Accounted →
      (Machine.run c.host steps depth p w).2.Open →
        (Machine.run c.host steps depth p w).2.Accounted) ∧
    (∀ callback slots args (w : World σ), w.Accounted →
      (Runner.entering callback slots (Runner.openFrame args w).2).Accounted) ∧
    (∀ steps depth (t : Turn σ) (w : World σ), w.Accounted →
      (((Machine.runner c.host steps depth).takeTurn t).after w).Open →
        (((Machine.runner c.host steps depth).takeTurn t).after w).Accounted) ∧
    (∀ (run : Runner σ) (w w' : World σ) s, run.newPromise w = .ok s w' →
      ∃ id p, s = .promise id ∧ w'.bridge.journal.head? = some (.promised id p)) := by
  have hruns : ∀ steps depth, (Machine.runner c.host steps depth).Obeys Accounts :=
    (Accounts.service c.host).toConduct.runner
  refine ⟨hc.accounted hopen, fun w h => h.promiseCycle c.host, ?_, ?_, ?_, ?_⟩
  · intro steps depth ρ p w h hafter
    exact ((hruns steps depth).keeps p w).kept hafter h
  · exact fun callback slots args w h => h.entering callback slots args
  · intro steps depth t w h hafter
    exact (Accounts.upkeep.takeTurn (hruns steps depth) t w).kept hafter h
  · exact fun run w w' s h => Runner.newPromise_noted h

/-- A context whose host has made one promise. -/
def Context.promising : Context Unit := smallest.apply .newPromise

theorem World.not_ended {w : World σ}
    (h : (w.bridge.journal.any fun x => x matches .ended) = false) : .ended ∉ w.bridge.journal := by
  intro hmem
  have htrue : (w.bridge.journal.any fun x => x matches .ended) = true :=
    List.any_eq_true.mpr ⟨.ended, hmem, rfl⟩
  rw [h] at htrue
  cases htrue

/-- The promise waits under the number one, and a second one that was never made does not. -/
theorem Context.Reachable.promise_completed_once_promising :
    promising.Reachable ∧ promising.world.bridge.promises.size = 1 ∧
    (∃ p, (⟨1⟩, p) ∈ pledges promising.world.bridge.journal) ∧
    promising.world.bridge.decode (.promise ⟨2⟩) = .error (.promiseNotPending 2) ∧
    Dispatch.perform promising.runner promising.host .promiseComplete
        [.promise ⟨2⟩, .int32 1, .int32 5] promising.world
      = .error (.fault (.promiseNotPending 2)) promising.world := by
  have hc : promising.Reachable := .step _ smallest_reachable
  obtain ⟨hids, hdone, hunended, hfew⟩ : (pledges promising.world.bridge.journal).map Prod.fst = [⟨1⟩] ∧
      completions promising.world.bridge.journal = [] ∧
      (promising.world.bridge.journal.any fun x => x matches .ended) = false ∧
      (pledges promising.world.bridge.journal).length < 2 ^ 32 - 1 := by decide +kernel
  have hopen : promising.world.Open := ⟨World.not_ended hunended, hfew⟩
  have h := promise_completed_once hc hopen
  have hcycle := h.2.1 _ h.1
  have hunmade : (⟨2⟩ : PromiseId) ∉ (pledges promising.world.bridge.journal).map Prod.fst := by
    rw [hids]
    decide
  have hbalance := hcycle.balance
  have hlength := congrArg List.length hids
  rw [List.length_map] at hlength
  rw [hdone, hlength, List.length_nil, Nat.add_zero] at hbalance
  have hvalue : ∀ b : Bridge, b.completionValue 1 [.int32 5] = .ok (.int 5) := fun _ => rfl
  refine ⟨hc, hbalance, ?_, hcycle.settled ⟨2⟩ (.inl hunmade),
    hcycle.refused _ ⟨2⟩ 1 [.int32 5] (.int 5) (.inl hunmade) (hvalue _)⟩
  have hone : (⟨1⟩ : PromiseId) ∈ (pledges promising.world.bridge.journal).map Prod.fst := by
    rw [hids]
    exact List.mem_cons_self
  obtain ⟨⟨id, p⟩, hmem, rfl⟩ := List.mem_map.mp hone
  exact ⟨p, hmem⟩

/-- The value slot is looked at before the promise: where both are at fault, the fault is that of the
slot. -/
theorem Dispatch.completion_of_unmade_reports_slot :
    Context.smallest.Reachable ∧ pledges Context.smallest.world.bridge.journal = [] ∧
    perform Context.smallest.runner Context.smallest.host .promiseComplete
        [.promise ⟨1⟩, .int32 1, .managed ⟨7⟩] Context.smallest.world
      = .error (.fault (.invalidHandle 7)) Context.smallest.world ∧
    BridgeFault.invalidHandle 7 ≠ .promiseNotPending 1 := by
  obtain ⟨hnone, hdead⟩ : (pledges Context.smallest.world.bridge.journal).isEmpty = true ∧
      (Context.smallest.world.bridge.ledger.entry? ⟨7⟩).isNone = true := by decide +kernel
  have hvalue : ∀ b : Bridge, (b.ledger.entry? ⟨7⟩).isNone = true →
      b.completionValue 1 [.managed ⟨7⟩] = .error (.invalidHandle 7) :=
    fun b hb => Ledger.get_dead _ (Option.isNone_iff_eq_none.mp hb)
  exact ⟨Context.smallest_reachable, List.isEmpty_iff.mp hnone,
    completePromise_badValue _ _ (hvalue _ hdead), nofun⟩

end ScriptBridge
