import Mathlib.Algebra.Order.Group.Multiset
import Mathlib.Data.Multiset.Filter
import Mathlib.Tactic.Abel
import ScriptBridge.Proofs.ActionShapes
import ScriptBridge.Proofs.CalmScripts
import ScriptBridge.Proofs.CallbackFrames

/-!
Rejections that nobody listens to.

The engine tells of every promise that is rejected while nobody listens to it, and the reason is written
to the log.  While a module is run the reasons are withheld; when the run is over those that are not the
run's own failure are written after all:

    logs after  =  (rejections during, without the failure)  +  some of the rejections after

Design.  Reasons are counted, not ordered, so `rejections` and `logs` read multisets off the journal.
`Reports P w w'` is a conservation law: what was withheld before and what was rejected on the way was
logged or is withheld now.  Runs keep more than that, since only the end of a module's run stops the
withholding: `P` says whether it lasts (`Deferral.lasts`).  Every operation of a context keeps
`Reports False`, every run of a script keeps `Reports P`.
-/
namespace ScriptBridge

open Data Text Script Script.Script Runner

variable {σ α : Type}

/-! ### Rejections in the journal -/

namespace Occurrence

def rejection? : Occurrence → Option Value
  | rejected _ v => some v
  | _ => none

def logged? : Occurrence → Option Value
  | logged v => some v
  | _ => none

/-- Is it about a rejection? -/
def reports (x : Occurrence) : Bool := x.rejection?.isSome || x.logged?.isSome

end Occurrence

/-- The reasons of the rejections that the engine told of. -/
def rejections (es : List Occurrence) : Multiset Value := (es.filterMap Occurrence.rejection? : List Value)

/-- The reasons that were written to the log. -/
def logs (es : List Occurrence) : Multiset Value := (es.filterMap Occurrence.logged? : List Value)

theorem rejections_append (es fs : List Occurrence) :
    rejections (es ++ fs) = rejections es + rejections fs := by
  rw [rejections, List.filterMap_append, ← Multiset.coe_add]
  rfl

theorem logs_append (es fs : List Occurrence) : logs (es ++ fs) = logs es + logs fs := by
  rw [logs, List.filterMap_append, ← Multiset.coe_add]
  rfl

theorem unreported {es : List Occurrence} (hes : ∀ x ∈ es, x.reports = false) :
    rejections es = 0 ∧ logs es = 0 := by
  have hnone : ∀ x ∈ es, x.rejection? = none ∧ x.logged? = none := by
    intro x hx
    have h := hes x hx
    rw [Occurrence.reports, Bool.or_eq_false_iff, Option.isSome_eq_false_iff, Option.isSome_eq_false_iff,
      Option.isNone_iff_eq_none, Option.isNone_iff_eq_none] at h
    exact h
  refine ⟨?_, ?_⟩
  · rw [rejections, List.filterMap_eq_nil_iff.mpr fun x hx => (hnone x hx).1]
    rfl
  · rw [logs, List.filterMap_eq_nil_iff.mpr fun x hx => (hnone x hx).2]
    rfl

/-! ### What is withheld -/

/-- The reasons that are withheld. -/
def waiting (d : Option (List Value)) : Multiset Value := (d.getD [] : List Value)

/-- From what was withheld to what is withheld, with what has happened in between. -/
structure Deferral (P : Prop) (d : Option (List Value)) (es : List Occurrence)
    (d' : Option (List Value)) : Prop where
  opened : d = none → d' = none
  balance : logs es + waiting d' ≤ waiting d + rejections es
  lasts : P → d ≠ none → d' ≠ none ∧ logs es = 0 ∧ waiting d' = waiting d + rejections es

namespace Deferral

variable {P : Prop} {d d' d'' : Option (List Value)} {es fs : List Occurrence}

/-- Nothing has happened to rejections. -/
theorem aside (hes : ∀ x ∈ es, x.reports = false) : Deferral P d es d := by
  obtain ⟨hrejections, hlogs⟩ := unreported hes
  refine ⟨id, ?_, fun _ hd => ⟨hd, hlogs, ?_⟩⟩
  · rw [hlogs, hrejections, zero_add, add_zero]
  · rw [hrejections, add_zero]

theorem trans (h : Deferral P d es d') (h' : Deferral P d' fs d'') : Deferral P d (fs ++ es) d'' := by
  refine ⟨fun hd => h'.opened (h.opened hd), ?_, fun hP hd => ?_⟩
  -- what was withheld in the middle is logged or withheld at the end
  · rw [logs_append, rejections_append]
    calc logs fs + logs es + waiting d''
        = logs es + (logs fs + waiting d'') := by abel
      _ ≤ logs es + (waiting d' + rejections fs) := add_le_add le_rfl h'.balance
      _ = logs es + waiting d' + rejections fs := by abel
      _ ≤ waiting d + rejections es + rejections fs := add_le_add h.balance le_rfl
      _ = waiting d + (rejections fs + rejections es) := by abel
  · obtain ⟨hd', hlogs, hwaiting⟩ := h.lasts hP hd
    obtain ⟨hd'', hlogs', hwaiting'⟩ := h'.lasts hP hd'
    refine ⟨hd'', ?_, ?_⟩
    · rw [logs_append, hlogs, hlogs', add_zero]
    · rw [hwaiting', hwaiting, rejections_append]
      abel

/-- A rejection is withheld. -/
theorem withheld (p : Ref) (v : Value) (l : List Value) :
    Deferral P (some l) [.rejected p v] (some (l ++ [v])) := by
  have hwaiting : waiting (some (l ++ [v])) = waiting (some l) + rejections [.rejected p v] :=
    (Multiset.coe_add l [v]).symm
  refine ⟨nofun, ?_, fun _ _ => ⟨nofun, rfl, hwaiting⟩⟩
  rw [hwaiting]
  exact le_of_eq (zero_add _)

/-- While nothing is withheld, no more is logged than is rejected. -/
theorem of_open (h : logs es ≤ rejections es) : Deferral P none es none := by
  refine ⟨id, ?_, fun _ hd => absurd rfl hd⟩
  show logs es + 0 ≤ 0 + rejections es
  rw [add_zero, zero_add]
  exact h

theorem open_balance (h : Deferral P none es d') : d' = none ∧ logs es ≤ rejections es := by
  have hnone := h.opened rfl
  have hbalance := h.balance
  rw [hnone] at hbalance
  refine ⟨hnone, ?_⟩
  calc logs es = logs es + waiting none := (add_zero _).symm
    _ ≤ waiting none + rejections es := hbalance
    _ = rejections es := zero_add _

end Deferral

/-! ### From world to world -/

/-- What is withheld has changed with the journal, and the host is as busy as before; `P` says that
withholding lasts. -/
structure Reports (P : Prop) (w w' : World σ) : Prop where
  busy : w'.busy = w.busy
  journal : ∃ es, w'.bridge.journal = es ++ w.bridge.journal
    ∧ Deferral P w.bridge.deferred es w'.bridge.deferred

namespace Reports

variable {P : Prop} {w w' : World σ}

theorem aside (es : List Occurrence) (hes : ∀ x ∈ es, x.reports = false)
    (hj : w'.bridge.journal = es ++ w.bridge.journal) (hd : w'.bridge.deferred = w.bridge.deferred)
    (hb : w'.busy = w.busy) : Reports P w w' :=
  ⟨hb, es, hj, hd ▸ .aside hes⟩

theorem silent (hj : w'.bridge.journal = w.bridge.journal) (hd : w'.bridge.deferred = w.bridge.deferred)
    (hb : w'.busy = w.busy) : Reports P w w' :=
  aside [] (fun _ h => absurd h List.not_mem_nil) hj hd hb

theorem noted {x : Occurrence} (hx : x.reports = false) (hj : w'.bridge.journal = x :: w.bridge.journal)
    (hd : w'.bridge.deferred = w.bridge.deferred) (hb : w'.busy = w.busy) : Reports P w w' :=
  aside [x] (List.forall_mem_singleton.mpr hx) hj hd hb

theorem upkeep : Upkeep (σ := σ) (Reports P) where
  refl _ := silent rfl rfl rfl
  trans := by
    rintro a b c ⟨hb, es, hes, hde⟩ ⟨hb', fs, hfs, hdf⟩
    refine ⟨hb'.trans hb, fs ++ es, ?_, hde.trans hdf⟩
    rw [hfs, hes, List.append_assoc]
  memory _ _ := silent rfl rfl rfl
  log _ _ := silent rfl rfl rfl
  retained _ _ _ _ := noted rfl rfl rfl rfl
  released _ _ _ _ _ := noted rfl rfl rfl rfl
  promised _ _ _ := noted rfl rfl rfl rfl

end Reports

/-! ### Writing to the log -/

/-- Of the reasons `vs` some have been logged, and all if `done`; the rest of what was logged was rejected
meanwhile. -/
structure Written (vs : Multiset Value) (done : Prop) (w w' : World σ) : Prop where
  busy : w'.busy = w.busy
  opened : w'.bridge.deferred = none
  journal : ∃ es, w'.bridge.journal = es ++ w.bridge.journal ∧
    ∃ told more, logs es = told + more ∧ told ≤ vs ∧ more ≤ rejections es ∧ (done → told = vs)

namespace Written

variable {vs us : Multiset Value} {done : Prop} {w w' w'' : World σ}

theorem nothing (hd : w.bridge.deferred = none) : Written 0 done w w :=
  ⟨rfl, hd, [], rfl, 0, 0, rfl, le_rfl, le_rfl, fun _ => rfl⟩

/-- All of the first reasons, then some of the others. -/
theorem trans (h : Written vs True w w') (h' : Written us done w' w'') :
    Written (vs + us) done w w'' := by
  obtain ⟨es, hes, told, more, hlogs, -, hmore, hall⟩ := h.journal
  obtain ⟨fs, hfs, told', more', hlogs', htold', hmore', hall'⟩ := h'.journal
  have htold : told = vs := hall trivial
  refine ⟨h'.busy.trans h.busy, h'.opened, fs ++ es, ?_, vs + told', more + more', ?_, ?_, ?_, ?_⟩
  · rw [hfs, hes, List.append_assoc]
  · rw [logs_append, hlogs, hlogs', htold]
    abel
  · exact add_le_add le_rfl htold'
  · rw [rejections_append, add_comm (rejections fs)]
    exact add_le_add hmore hmore'
  · intro hdone
    rw [hall' hdone]

/-- Only some of the first reasons, and none of the others. -/
theorem cut (h : Written vs done w w') (us : Multiset Value) : Written (vs + us) False w w' := by
  obtain ⟨es, hes, told, more, hlogs, htold, hmore, -⟩ := h.journal
  exact ⟨h.busy, h.opened, es, hes, told, more, hlogs, htold.trans (Multiset.le_add_right vs us), hmore,
    False.elim⟩

theorem weaken {done' : Prop} (h : Written vs done w w') (hd : done' → done) : Written vs done' w w' := by
  obtain ⟨es, hes, told, more, hlogs, htold, hmore, hall⟩ := h.journal
  exact ⟨h.busy, h.opened, es, hes, told, more, hlogs, htold, hmore, hall ∘ hd⟩

/-- Whatever happens while nothing is withheld. -/
theorem of_reports {P : Prop} (h : Reports P w w') (hd : w.bridge.deferred = none) :
    Written 0 True w w' := by
  obtain ⟨es, hes, hde⟩ := h.journal
  rw [hd] at hde
  obtain ⟨hd', hlogs⟩ := hde.open_balance
  exact ⟨h.busy, hd', es, hes, 0, logs es, (zero_add _).symm, le_rfl, hlogs, fun _ => rfl⟩

theorem logged (v : Value) (hd : w.bridge.deferred = none) :
    Written {v} True w { w with bridge := w.bridge.note (.logged v) } :=
  ⟨rfl, hd, [.logged v], rfl, {v}, 0, rfl, le_rfl, le_rfl, fun _ => rfl⟩

end Written

section Reported

variable (run : Runner σ) (host : Host σ) {w : World σ}

theorem Runner.reportRejection_withheld {reasons : List Value} (hd : w.bridge.deferred = some reasons)
    (reason : Value) : run.reportRejection host reason w
      = .ok () { w with bridge := { w.bridge with deferred := some (reasons ++ [reason]) } } := by
  rw [reportRejection, Act.bind_bridge, hd]
  rfl

theorem Runner.reportRejection_worded (hd : w.bridge.deferred = none) (reason : Value) :
    run.reportRejection host reason w = (do
      let text ← run.script (renderThrown reason)
      Act.note (.logged reason)
      Runner.writeLog host ("Possibly unhandled promise rejection: " ++ text) : Act σ Unit) w := by
  rw [reportRejection, Act.bind_bridge, hd]

end Reported

section Runs

variable {P : Prop} (host : Host σ) {run : Runner σ} (hr : run.Obeys (Reports P)) {w : World σ}

include hr

/-- While nothing is withheld a rejection is worded and logged; wording it may give rise to others. -/
theorem Runner.reportRejection_writes (v : Value) (hd : w.bridge.deferred = none) :
    Written {v} (∃ w', run.reportRejection host v w = .ok () w') w
      ((run.reportRejection host v).after w) := by
  -- nothing is withheld, so the rejection is worded at once
  have hopen := run.reportRejection_worded host hd v
  rcases e : run.script (renderThrown v) w with ⟨text, w₁⟩ | ⟨f, w₁⟩
  · have hworded : Written 0 True w w₁ := .of_reports ((hr.script _).of_ok e) hd
    have hnoted : Written {v} True w₁ { w₁ with bridge := w₁.bridge.note (.logged v) } :=
      .logged v hworded.opened
    have hsent : Reports P _ _ := Reports.upkeep.writeLog host
      ("Possibly unhandled promise rejection: " ++ text) { w₁ with bridge := w₁.bridge.note (.logged v) }
    have hall := (hworded.trans hnoted).trans (.of_reports hsent hnoted.opened)
    rw [zero_add, add_zero] at hall
    rw [Act.after, hopen, Act.bind_ok e]
    exact hall.weaken fun _ => trivial
  · have hworded : Written 0 True w w₁ := .of_reports ((hr.script _).of_error e) hd
    -- wording it was interrupted, so this reason is among those that were not logged
    have hcut := hworded.cut {v}
    have herror : run.reportRejection host v w = .error f w₁ := hopen.trans (Act.bind_error e)
    rw [zero_add] at hcut
    rw [Act.after, herror]
    refine hcut.weaken ?_
    rintro ⟨w', h⟩
    cases h

theorem Runner.reportEach_writes (vs : List Value) (hd : w.bridge.deferred = none) :
    Written vs (∃ w', run.reportEach host vs w = .ok () w') w ((run.reportEach host vs).after w) := by
  induction vs generalizing w with
  | nil => exact .nothing hd
  | cons v rest ih =>
    have hfirst := run.reportRejection_writes host hr v hd
    have hlist : ((v :: rest : List Value) : Multiset Value) = {v} + rest := rfl
    rw [hlist]
    rcases e : run.reportRejection host v w with ⟨u, w₁⟩ | ⟨f, w₁⟩
    · have hone : Written {v} True w w₁ := by
        rw [Act.after_ok e] at hfirst
        exact hfirst.weaken fun _ => ⟨w₁, e⟩
      have hboth := hone.trans (ih hone.opened)
      rw [Runner.reportEach, Act.after_bind_ok e, Act.bind_ok e]
      exact hboth
    · have herror : run.reportEach host (v :: rest) w = .error f w₁ := Act.bind_error e
      rw [Act.after_error e] at hfirst
      rw [Act.after, herror]
      refine (hfirst.cut rest).weaken ?_
      rintro ⟨w', h⟩
      cases h

/-- Withholding stops, and what was withheld is logged, without what is `handled`. -/
theorem Runner.releaseRejections_writes (handled : Option Value) :
    Written ((waiting w.bridge.deferred).filter fun v => !handled.any (Value.identical v))
      (∃ w', run.releaseRejections host handled w = .ok () w') w
      ((run.releaseRejections host handled).after w) := by
  have hfilter : (waiting w.bridge.deferred).filter (fun v => !handled.any (Value.identical v))
      = ((w.bridge.deferred.getD []).filter fun v => !handled.any (Value.identical v) : List Value) := by
    simp [waiting]
  rw [hfilter]
  have heach := run.reportEach_writes host (w := { w with
    bridge := { w.bridge with deferred := none } }) hr
    ((w.bridge.deferred.getD []).filter fun v => !handled.any (Value.identical v)) rfl
  exact ⟨heach.busy, heach.opened, heach.journal⟩

end Runs

/-! ### Every run -/

namespace Reports

variable {P : Prop} {host : Host σ} {run : Runner σ} (hr : run.Obeys (Reports P)) {w w' : World σ}

include hr

/-- The engine tells of a rejection: it is withheld or logged. -/
theorem rejection (promise : Ref) (reason : Value) : Act.Keeps (Reports P) (do
    Act.note (.rejected promise reason)
    run.reportRejection host reason) := by
  intro w
  show Reports P w ((run.reportRejection host reason).after
    { w with bridge := w.bridge.note (.rejected promise reason) })
  rcases hd : w.bridge.deferred with - | l
  -- logged at once: what is logged is the reason itself and what came up while it was worded
  · obtain ⟨hb, hd', es, hes, told, more, hlogs, htold, hmore, -⟩ := run.reportRejection_writes
      host (w := { w with bridge := w.bridge.note (.rejected promise reason) }) hr reason hd
    refine ⟨hb, es ++ [.rejected promise reason], ?_, ?_⟩
    · rw [hes, List.append_assoc]
      rfl
    · rw [hd, hd']
      refine .of_open ?_
      have hnote : logs [.rejected promise reason] = 0 := rfl
      rw [logs_append, rejections_append, hlogs, hnote, add_zero, add_comm (rejections es)]
      exact add_le_add htold hmore
  · rw [Act.after_ok (run.reportRejection_withheld host
      (w := { w with bridge := w.bridge.note (.rejected promise reason) }) hd reason)]
    exact ⟨rfl, [.rejected promise reason], rfl, hd ▸ .withheld promise reason l⟩

omit hr in
theorem encodeAll_deferred (args : List Value) (b : Bridge) :
    (b.encodeAll args).2.deferred = b.deferred := by
  induction args generalizing b with
  | nil => rfl
  | cons v rest ih =>
    have hv : (b.encode v).2.deferred = b.deferred := by
      cases v <;> rfl
    rw [Bridge.encodeAll_cons_snd, ih, hv]

theorem callback (c : Callback) (slots : List Slot) (args : List Value) {finish : Reply → Act σ α}
    (hf : ∀ r, (finish r).Keeps (Reports P)) :
    Act.Keeps (Reports P) (run.callHost host c slots args finish) := by
  intro w
  have hopen : Reports P w (openFrame args w).2 := by
    obtain ⟨es, hes, hissued⟩ := openFrame_issues args w
    refine aside es (fun x hx => ?_) hes (encodeAll_deferred args _) rfl
    obtain ⟨h, rfl⟩ := hissued x hx
    rfl
  refine upkeep.callHost hr hf hopen (fun hb w' h => ?_) fun w' => silent rfl rfl rfl
  have hentered : Deferral P (openFrame args w).2.bridge.deferred
      [.entered c (slots ++ (openFrame args w).1)] (openFrame args w).2.bridge.deferred :=
    .aside (by simp [Occurrence.reports, Occurrence.rejection?, Occurrence.logged?])
  have hleft : Deferral P w'.bridge.deferred [.left] w'.bridge.deferred :=
    .aside (by simp [Occurrence.reports, Occurrence.rejection?, Occurrence.logged?])
  obtain ⟨es, hes, hde⟩ := h.journal
  refine ⟨hb.symm, .left :: (es ++ [.entered c (slots ++ (openFrame args w).1)]), ?_, ?_⟩
  · show Occurrence.left :: w'.bridge.journal = _
    rw [hes, List.cons_append, List.append_assoc]
    rfl
  · exact (hentered.trans hde).trans hleft

omit hr in
theorem bystander (host : Host σ) : Bystander host (Reports (σ := σ) P) where
  toBackground := upkeep.toBackground
  engineChange _ _ := silent rfl rfl rfl
  rejection _ hr := rejection hr
  tokenDrawn _ _ := noted rfl rfl rfl rfl
  tokenMade _ _ := noted rfl rfl rfl rfl
  tokenRefused _ _ := noted rfl rfl rfl rfl
  instanceBuilt _ _ _ _ := noted rfl rfl rfl rfl
  memberAsked _ _ _ _ _ := noted rfl rfl rfl rfl
  callback _ hr _ c slots args _ _ _ hf := callback hr c slots args hf

end Reports

/-! ### Withholding -/

namespace Dispatch

variable (host : Host σ)

/-- What was withheld is logged, without the failure. -/
theorem withholding_writes {P : Prop} {run : Runner σ} (hr : run.Obeys (Reports P)) (m : Act σ α)
    (w : World σ) :
    Written ((waiting (m.after w.withholding).bridge.deferred).filter
        fun v => !(m.thrown? w.withholding).any (Value.identical v))
      (∃ w', run.releaseRejections host (m.thrown? w.withholding) (m.after w.withholding) = .ok () w')
      (m.after w.withholding) ((withholding run host m).after w) := by
  rw [after_withholding]
  exact Runner.releaseRejections_writes host hr _

end Dispatch

namespace Reports

variable {host : Host σ} {run : Runner σ}

/-- Whatever was withheld before, it is not afterwards. -/
theorem withholding (hr : run.Obeys (Reports False)) {m : Act σ α} (hm : m.Keeps (Reports False)) :
    Act.Keeps (Reports False) (Dispatch.withholding run host m) := by
  intro w
  have hduring : Reports False w.withholding (m.after w.withholding) := hm _
  obtain ⟨es, hes, hde⟩ := hduring.journal
  obtain ⟨hb, hd, fs, hfs, told, more, hlogs, htold, hmore, -⟩ := Dispatch.withholding_writes host hr m w
  refine ⟨hb.trans hduring.busy, fs ++ es, ?_, fun _ => hd, ?_, False.elim⟩
  · rw [hfs, hes, List.append_assoc]
    rfl
  -- withholding began with nothing withheld, so what waits at its end was rejected during it
  · have hbalance : logs es + waiting (m.after w.withholding).bridge.deferred ≤ rejections es := by
      rw [← zero_add (rejections es)]
      exact hde.balance
    rw [hd, logs_append, rejections_append, hlogs]
    calc told + more + logs es + 0
        = (logs es + told) + more := by abel
      _ ≤ (logs es + waiting (m.after w.withholding).bridge.deferred) + rejections fs :=
        add_le_add (add_le_add le_rfl (htold.trans (Multiset.filter_le _ _))) hmore
      _ ≤ rejections es + rejections fs := add_le_add hbalance le_rfl
      _ ≤ waiting w.bridge.deferred + (rejections es + rejections fs) := Multiset.le_add_left _ _
      _ = waiting w.bridge.deferred + (rejections fs + rejections es) := by abel

/-- Every operation, and the end of withholding among them. -/
theorem service (host : Host σ) : Service host (Reports (σ := σ) False) :=
  TableBystander.service {
    toBystander := bystander host
    retained := upkeep.retained
    released := upkeep.released
    promised := upkeep.promised
    withholding := fun _ hr _ _ hm => withholding hr hm
    busy := Reports.busy
    valueStaged := fun _ _ _ => noted rfl rfl rfl rfl
    valueHeld := fun _ _ _ => noted rfl rfl rfl rfl
    promiseTaken := fun _ _ _ _ _ => noted rfl rfl rfl rfl
    classAdded := fun _ _ => silent rfl rfl rfl
    intrinsicsSet := fun _ _ => silent rfl rfl rfl
    cacheCleared := fun _ => silent rfl rfl rfl
    tablesReleased := fun _ => ⟨rfl, [.ended], rfl, fun _ => rfl, Multiset.zero_le _, False.elim⟩
    deathQueued := fun _ _ => noted rfl rfl rfl rfl
    dequeued := fun _ _ => silent rfl rfl rfl
    notice := fun _ hr _ w _ => callback hr _ _ _ (fun _ => upkeep.pure ()) w }

end Reports

/-- Between operations nothing is withheld, and no more was logged than rejected. -/
theorem Context.Reachable.unwithheld {c : Context σ} (hc : c.Reachable) :
    c.world.bridge.deferred = none ∧ logs c.world.bridge.journal ≤ rejections c.world.bridge.journal := by
  obtain ⟨s, memory, hreports⟩ := hc.kept (Reports.service c.host)
  obtain ⟨es, hes, hde⟩ := hreports.journal
  have hj : c.world.bridge.journal = es := hes.trans (List.append_nil es)
  rw [hj]
  exact hde.open_balance

/-! ### Running a module -/

theorem Runner.writeLog_finishes (host : Host σ) (fragment : String) :
    Act.Finishes (Runner.writeLog host fragment) := by
  have printed : ∀ lines, Act.Finishes (Runner.printAll host .log lines) := by
    intro lines
    induction lines with
    | nil => exact .pure ()
    | cons line rest ih => exact (Act.Finishes.modify _).bind fun _ => ih
  exact .bridge fun b => (Act.Finishes.modify _).bind fun _ => printed _

section

variable (host : Host σ) (steps depth : Nat)

/-- Nothing but an interruption keeps a rejection from being logged. -/
theorem Runner.reportRejection_finishes (v : Value) :
    Act.Finishes ((Machine.runner host steps depth).reportRejection host v) := by
  refine .bridge fun b => ?_
  have logged : Act.Finishes (do
      let text ← (Machine.runner host steps depth).script (renderThrown v)
      Act.note (.logged v)
      Runner.writeLog host ("Possibly unhandled promise rejection: " ++ text) : Act σ Unit) := by
    refine (Machine.script_finishes host steps depth (.renderThrown v)).bind fun text => ?_
    exact (Act.Finishes.modify _).bind fun _ => Runner.writeLog_finishes host _
  cases b.deferred with
  | some l => exact .modify _
  | none => exact logged

theorem Runner.releaseRejections_finishes (handled : Option Value) :
    Act.Finishes ((Machine.runner host steps depth).releaseRejections host handled) := by
  have each : ∀ vs : List Value, Act.Finishes ((Machine.runner host steps depth).reportEach host vs) := by
    intro vs
    induction vs with
    | nil => exact .pure ()
    | cons v rest ih => exact (Runner.reportRejection_finishes host steps depth v).bind fun _ => ih
  exact .bridge fun b => (Act.Finishes.modify _).bind fun _ => each _

end

theorem Dispatch.evaluateModuleText_reports {P : Prop} {run : Runner σ} (hr : run.Obeys (Reports P))
    (name code : String) : Act.Keeps (Reports P) (evaluateModuleText run name code) := by
  have hR : Upkeep (σ := σ) (Reports P) := Reports.upkeep
  refine hR.bind (hR.orFault _) fun _ => hR.bind (hR.orFault _) fun _ => hR.bind (hr.script _) fun v => ?_
  intro w
  show Reports P w { w with bridge := (w.bridge.encode v).2 }
  cases hv : v.kept with
  | true =>
    rw [(Bridge.encode_kept hv).2]
    exact .noted rfl rfl rfl rfl
  | false =>
    rw [(Bridge.encode_plain hv).2]
    exact .silent rfl rfl rfl

/-- An operation while rejections are withheld: those of the first part, in which none is logged, are
logged when it is over, but for its own failure. -/
theorem Dispatch.withholding_settles (host : Host σ) (steps depth : Nat) {m : Act σ α}
    (hm : m.Keeps (Reports True)) (w : World σ) :
    let done := withholding (Machine.runner host steps depth) host m
    (done.after w).bridge.deferred = none ∧
    ∃ during after, (done.after w).bridge.journal = after ++ during ++ w.bridge.journal ∧
      logs during = 0 ∧
      ((∃ w', done w = .error .interrupted w') ∨
        ∃ more ≤ rejections after, logs after
          = (rejections during).filter (fun v => !(done.thrown? w).any (Value.identical v)) + more) := by
  intro done
  have hr : (Machine.runner host steps depth).Obeys (Reports True) :=
    (Reports.bystander host).conduct.runner steps depth
  obtain ⟨during, hduring, hde⟩ := (hm w.withholding).journal
  obtain ⟨-, hlogs, hwaiting⟩ := hde.lasts trivial nofun
  obtain ⟨-, hd, after, hafter, told, more, hlogs', -, hmore, hall⟩ := withholding_writes host hr m w
  refine ⟨hd, during, after, ?_, hlogs, ?_⟩
  · rw [hafter, hduring, List.append_assoc]
    rfl
  · refine (withholding_ends _ host m w (Runner.releaseRejections_finishes host steps depth _)).imp_right
      fun ⟨hreleased, hthrown⟩ => ⟨more, hmore, ?_⟩
    have hwithheld : waiting (m.after w.withholding).bridge.deferred = rejections during :=
      hwaiting.trans (zero_add _)
    rw [hlogs', hall hreleased, hwithheld, hthrown]

/-- **A run of a module hides only what equals its own failure.**  In every context that a host can come
to, whatever the arguments, nothing is withheld when the run is over, and of what has happened in it,
first `during` the evaluation and then `after`,

1. nothing was logged during the evaluation;
2. unless the run is interrupted, afterwards every rejection that the engine told of during the evaluation
   was logged once, except those whose reason is identical to what the run throws, and besides those only
   rejections that the engine told of meanwhile. -/
theorem Context.Reachable.run_reports {c : Context σ} (hc : c.Reachable) (args : List Slot) :
    let done := Dispatch.runModule c.runner c.host args
    (done.after c.world).bridge.deferred = none ∧
    ∃ during after, (done.after c.world).bridge.journal = after ++ during ++ c.world.bridge.journal ∧
      logs during = 0 ∧
      ((∃ w, done c.world = .error .interrupted w) ∨
        ∃ more ≤ rejections after, logs after
          = (rejections during).filter (fun v => !(done.thrown? c.world).any (Value.identical v))
            + more) := by
  intro done
  have hr : c.runner.Obeys (Reports True) :=
    (Reports.bystander c.host).conduct.runner c.limits.steps c.limits.depth
  -- the arguments are looked at before withholding begins, and nothing changes by that
  have hsame : Steady (σ := σ) fun w w' => w' = w := ⟨fun _ => rfl, fun h h' => h'.trans h⟩
  have hsource := hsame.sourcePair args
  rcases e : Dispatch.sourcePair args c.world with ⟨⟨code, name⟩, w⟩ | ⟨f, w⟩
  · have hw : w = c.world := hsource.of_ok e
    have hdone : done c.world = Dispatch.withholding c.runner c.host
        (Dispatch.evaluateModuleText c.runner name code) c.world := by
      rw [hw] at e
      show Dispatch.runModule c.runner c.host args c.world = _
      rw [Dispatch.runModule, Act.bind_ok e]
    have hsettles := Dispatch.withholding_settles c.host c.limits.steps c.limits.depth
      (Dispatch.evaluateModuleText_reports hr name code) c.world
    rw [Act.after, Act.thrown?, hdone]
    exact hsettles
  · have hw : w = c.world := hsource.of_error e
    have herror : done c.world = .error f c.world := by
      rw [hw] at e
      show Dispatch.runModule c.runner c.host args c.world = _
      rw [Dispatch.runModule, Act.bind_error e]
    rw [Act.after, herror]
    exact ⟨hc.unwithheld.1, [], [], rfl, rfl, .inr ⟨0, le_rfl, rfl⟩⟩

namespace Context

/-- A fresh context that is told of rejections. -/
def tracking : Context Unit := ((blank .agreeing ⟨120, 8⟩ ⟨8, true, none⟩ ()).perform install).2

theorem tracking_reachable : tracking.Reachable :=
  .created (create_of_ok .agreeing ⟨120, 8⟩ rfl (by decide +kernel))

/-- The run of a module in it. -/
def running (code : String) : Act Unit Slot :=
  Dispatch.runModule tracking.runner tracking.host [.text code, .text ""]

/-- A module fails, and another rejection is logged. -/
theorem Reachable.run_reports_tracking :
    let done := running "Promise.reject(8);throw 7"
    tracking.Reachable ∧ (done.thrown? tracking.world).isSome = true ∧
    ∃ during after, (done.after tracking.world).bridge.journal
        = after ++ during ++ tracking.world.bridge.journal ∧ logs during = 0 ∧
      ∃ more ≤ rejections after, logs after
        = (rejections during).filter (fun v => !(done.thrown? tracking.world).any (Value.identical v))
          + more := by
  have hthrown : ((running "Promise.reject(8);throw 7").thrown? tracking.world).isSome = true := by
    decide +kernel
  have h := (run_reports tracking_reachable [.text "Promise.reject(8);throw 7", .text ""]).2
  unfold running at hthrown ⊢
  -- the rest does not depend on which module it is
  generalize Dispatch.runModule tracking.runner tracking.host
    [.text "Promise.reject(8);throw 7", .text ""] = done at h hthrown ⊢
  obtain ⟨during, after, hj, hlogs, hafter⟩ := h
  refine ⟨tracking_reachable, hthrown, during, after, hj, hlogs, hafter.resolve_left ?_⟩
  rintro ⟨w, hinterrupted⟩
  rw [Act.thrown?, hinterrupted] at hthrown
  cases hthrown

/-- **A rejection is lost when its reason is identical to what the run fails by.**  The failure itself is
told of twice, and the promise that the script has rejected makes three; with another reason it is logged. -/
theorem running_hides_equal_reason :
    Multiset.card (rejections ((running "Promise.reject(7);throw 7").after
      tracking.world).bridge.journal) = 3 ∧
    Multiset.card (logs ((running "Promise.reject(7);throw 7").after
      tracking.world).bridge.journal) = 0 ∧
    Multiset.card (logs ((running "Promise.reject(8);throw 7").after
      tracking.world).bridge.journal) = 1 := by
  decide +kernel

end Context

end ScriptBridge
