import ScriptBridge.Proofs.Passage

/-!
Callbacks balance.

A callback is opened, lets the host answer, reads the reply and is closed:

    after (callHost ..) w  =  closeFrame (after body (openFrame args w))

The frame that is closed is the one that was opened, because everything in between is `Tidy`; and
because the machine's runs are `Tidy` only if callbacks are, the two are proved together: `callback`
takes runners that obey `Tidy`, and `Conduct.runner` closes the circle.
-/
namespace ScriptBridge

open Data Text Script Script.Script

variable {σ α : Type} {host : Host σ} {run : Runner σ}

namespace Runner

/-- The handles that a callback stages, each with the argument it stands for. -/
def stagedArguments (args : List Value) (w : World σ) : List (Handle × Value) :=
  Bridge.staged { w.bridge with ledger := w.bridge.ledger.pushFrame } args

theorem openFrame_encodes (args : List Value) (w : World σ) :
    Bridge.Encodes { w.bridge with ledger := w.bridge.ledger.pushFrame }
      (openFrame args w).2.bridge (stagedArguments args w) [] w.bridge.ledger.frames :=
  Bridge.encodes args rfl

/-- The journal tells of the opening of a callback by the handles that are issued. -/
theorem openFrame_issues (args : List Value) (w : World σ) :
    ∃ es, (openFrame args w).2.bridge.journal = es ++ w.bridge.journal ∧ ∀ x ∈ es, ∃ h, x = .issued h := by
  refine ⟨_, (openFrame_encodes args w).journal, fun x hx => ?_⟩
  obtain ⟨e, -, rfl⟩ := List.mem_map.mp (List.mem_reverse.mp hx)
  exact ⟨e.1, rfl⟩

end Runner

namespace Tidy

open Runner

/-! ### The host's turn -/

/-- The host is entered once, and the journal tells of its turn in between. -/
theorem enterHost (host : Host σ) (hr : run.Obeys Tidy) (c : Callback) (slots : List Slot) {w : World σ}
    (hb : w.busy = false) :
    Tidy w ((run.enterHost host c slots).after w) ∧
      ∃ turn, ((run.enterHost host c slots).after w).bridge.journal
          = .left :: turn ++ .entered c slots :: w.bridge.journal ∧
        ∀ x ∈ turn, x.enters = false := by
  have hturn := upkeep.takeTurn hr (host.act w.memory c slots) (entering c slots w)
  rw [after_enterHost]
  generalize (run.takeTurn (host.act w.memory c slots)).after (entering c slots w) = w' at hturn
  obtain ⟨turn, hjournal, hquiet, hpass⟩ := hturn.grown
  have hj : (w'.bridge.note .left).journal = .left :: turn ++ .entered c slots :: w.bridge.journal := by
    show Occurrence.left :: w'.bridge.journal = _
    rw [hjournal]
    rfl
  refine ⟨⟨hturn.frames, hturn.cache, hb.symm, .left :: turn ++ [.entered c slots], ?_, ?_, ?_⟩,
    turn, hj, hquiet rfl⟩
  · show (w'.bridge.note .left).journal = _
    rw [hj, List.append_assoc]
    rfl
  · intro hbusy
    rw [hb] at hbusy
    cases hbusy
  · intro h h0
    have hturn0 : issues h turn = 0 := by
      rw [issues_append] at h0
      have : issues h (.left :: turn) = issues h turn := by simp [issues, Occurrence.isIssued]
      omega
    have hstart : Passes h [.entered c slots] (w.bridge.ledger.entry? h)
        (w.bridge.ledger.entry? h) := .single rfl _
    exact (hstart.append (hpass h hturn0)).append (.single (x := .left) rfl _)

/-- The whole body of a callback. -/
theorem callBody (host : Host σ) (hr : run.Obeys Tidy) (c : Callback) (slots : List Slot)
    {finish : Reply → Act σ α} (hf : ∀ r, (finish r).Keeps Tidy) (w : World σ) :
    Tidy w ((run.callBody host c slots finish w.busy).after w) :=
  upkeep.callBody hr hf fun hb => (enterHost host hr c slots hb).1

/-! ### Closing -/

/-- Closing takes the lists of the ledger back to what they were below the frame, and touches only
the entries that the frame lists. -/
theorem closeFrame_frames {w : World σ} {hs : List Handle} {below : List (List Handle)}
    (hf : w.bridge.ledger.frames = hs :: below) :
    (closeFrame w).bridge.ledger.frames = below ∧
      (closeFrame w).bridge.ledger.cache = w.bridge.ledger.cache ∧
      ∀ g, (closeFrame w).bridge.ledger.entry? g
        = (fun e => Option.bind e LedgerEntry.less)^[hs.count g] (w.bridge.ledger.entry? g) := by
  have hpop : (closeFrame w).bridge.ledger
      = ({ w.bridge.ledger with frames := below }.releaseAll hs).2 := by
    show w.bridge.ledger.popFrame.2 = _
    rw [Ledger.popFrame_cons _ hf]
  obtain ⟨-, hc, hfr⟩ := Ledger.releaseAll_rest { w.bridge.ledger with frames := below } hs
  rw [hpop]
  exact ⟨hfr, hc, Ledger.entry?_releaseAll_count _ hs⟩

theorem issues_reverse (h : Handle) (hs : List Handle) :
    issues h (hs.map Occurrence.issued).reverse = hs.count h := by
  rw [issues, List.countP_reverse, List.countP_map]
  rfl

/-- A callback as a whole is tidy: what it gives out it takes back. -/
theorem callback (hr : run.Obeys Tidy) (c : Callback) (slots : List Slot) (args : List Value)
    {finish : Reply → Act σ α} (hf : ∀ r, (finish r).Keeps Tidy) :
    Act.Keeps Tidy (run.callHost host c slots args finish) := by
  intro w
  have hopen := openFrame_encodes args w
  have hbody := callBody host hr c (slots ++ (openFrame args w).1) hf (openFrame args w).2
  have hbusy : (openFrame args w).2.busy = w.busy := rfl
  rw [hbusy] at hbody
  rw [after_callHost]
  generalize (run.callBody host c (slots ++ (openFrame args w).1) finish w.busy).after
    (openFrame args w).2 = w' at hbody
  -- the body is tidy, so the frame on top is still the one that was opened
  have hframes : w'.bridge.ledger.frames
      = (stagedArguments args w).map Prod.fst :: w.bridge.ledger.frames :=
    hbody.frames.trans hopen.frames
  obtain ⟨hfr, hc, hent⟩ := closeFrame_frames hframes
  obtain ⟨es, hjournal, hquiet, hpass⟩ := hbody.grown
  refine ⟨hfr, hc.trans (hbody.cache.trans hopen.cache), hbody.busy.trans hbusy,
    es ++ ((stagedArguments args w).map fun e => Occurrence.issued e.1).reverse, ?_, ?_, ?_⟩
  · show w'.bridge.journal = _
    rw [hjournal, hopen.journal, List.append_assoc]
  · intro hb x hx
    rcases List.mem_append.mp hx with hx | hx
    · exact hquiet hb x hx
    · obtain ⟨e, -, rfl⟩ := List.mem_map.mp (List.mem_reverse.mp hx)
      rfl
  · intro h h0
    -- a handle that is not issued is not staged either, so its entry is that of the body
    have hmap : ((stagedArguments args w).map fun e => Occurrence.issued e.1)
        = ((stagedArguments args w).map Prod.fst).map Occurrence.issued := by
      rw [List.map_map]
      rfl
    rw [hmap, issues_append, issues_reverse] at h0
    have hout : ((stagedArguments args w).map Prod.fst).count h = 0 := by omega
    rw [hent h, hout, hmap]
    have hpre : Passes h (((stagedArguments args w).map Prod.fst).map Occurrence.issued).reverse
        (w.bridge.ledger.entry? h) (w.bridge.ledger.entry? h) := by
      refine .unconcerned (fun x hx => ?_) _
      obtain ⟨g, hg, rfl⟩ := List.mem_map.mp (List.mem_reverse.mp hx)
      have hgh : g ≠ h := by
        rintro rfl
        exact List.count_eq_zero.mp hout hg
      simpa [Occurrence.concerns, Occurrence.isIssued, Occurrence.isRetained,
        Occurrence.isReleased] using hgh
    have hmid := hpass h (by omega)
    rw [hopen.others h (List.count_eq_zero.mp hout)] at hmid
    exact hpre.append hmid

theorem bystander (host : Host σ) : Bystander host Tidy where
  toBackground := upkeep.toBackground
  engineChange _ _ := of_same rfl rfl rfl
  rejection _ hr := upkeep.rejection hr reporting host
  instanceBuilt _ _ _ _ := of_note rfl rfl rfl rfl fun _ => rfl
  memberAsked _ _ _ _ _ := of_note rfl rfl rfl rfl fun _ => rfl
  tokenDrawn _ _ := of_note rfl rfl rfl rfl fun _ => rfl
  tokenMade _ _ := of_note rfl rfl rfl rfl fun _ => rfl
  tokenRefused _ _ := of_note rfl rfl rfl rfl fun _ => rfl
  callback _ hr _ c slots args _ _ _ hf := callback hr c slots args hf

/-- **Every run of the machine is tidy.** -/
theorem runner (host : Host σ) (steps depth : Nat) : (Machine.runner host steps depth).Obeys Tidy :=
  (bystander host).conduct.runner steps depth

end Tidy

/-! ### What a callback is for -/

/-- The program's ways to read a reply. -/
inductive Purpose where
  /-- the result of a member or of a wrapped function -/
  | value
  | approval
  | moduleName (base name : String)
  | moduleText
  /-- a notice of death, whose reply is not read -/
  | notice

namespace Purpose

@[reducible] def Result : Purpose → Type
  | value => Value
  | approval | notice => Unit
  | moduleName .. | moduleText => Option String

def finish (run : Runner σ) : (p : Purpose) → Reply → Act σ p.Result
  | value => run.replyValue
  | approval => run.approval
  | moduleName base name => Machine.namedModule base name
  | moduleText => Machine.moduleSource
  | notice => fun _ => pure ()

theorem finish_keeps {R : World σ → World σ → Prop} (hR : Upkeep R) (hr : run.Obeys R)
    (p : Purpose) (r : Reply) : (p.finish run r).Keeps R := by
  cases p with
  | value => exact hR.replyValue hr r
  | approval => exact hR.approval hr r
  | moduleName base name => exact hR.namedModule base name r
  | moduleText => exact hR.moduleSource r
  | notice => exact hR.pure ()

end Purpose

/-! ### Arguments of a callback -/

namespace Runner

open Tidy

/-- An argument's handle, given out once: how its entry stands when nothing but `Tidy` steps have
come since the frame was opened. -/
theorem argument_entry {args : List Value} {w w₁ : World σ} {es : List Occurrence} {h : Handle}
    {v : Value} (hpass : issues h es = 0 → Passes h es ((openFrame args w).2.bridge.ledger.entry? h)
      (w₁.bridge.ledger.entry? h)) (hm : (h, v) ∈ stagedArguments args w)
    (hissued : issues h (es ++ ((stagedArguments args w).map fun e => Occurrence.issued e.1).reverse)
      = 1) (hbound : retains h es < 2 ^ 32 - 1) :
    ((stagedArguments args w).map Prod.fst).count h = 1 ∧
      match w₁.bridge.ledger.entry? h with
      | some e => e.value = v ∧ e.refs ≠ 0 ∧ e.refs.toNat + releases h es = 1 + retains h es
      | none => releases h es = 1 + retains h es := by
  have hmap : ((stagedArguments args w).map fun e => Occurrence.issued e.1)
      = ((stagedArguments args w).map Prod.fst).map Occurrence.issued := by
    rw [List.map_map]
    rfl
  rw [hmap, issues_append, issues_reverse] at hissued
  have hin : 0 < ((stagedArguments args w).map Prod.fst).count h :=
    List.count_pos_iff.mpr (List.mem_map.mpr ⟨(h, v), hm, rfl⟩)
  have hcount : ((stagedArguments args w).map Prod.fst).count h = 1 := by omega
  have hp := hpass (by omega)
  rw [(openFrame_encodes args w).entries h v hm hcount] at hp
  have hone : (1 : UInt32).toNat = 1 := rfl
  exact ⟨hcount, hp.counts (by decide) (by omega)⟩

/-- Staging is neither retaining nor releasing. -/
theorem counts_staged (h : Handle) (es : List Occurrence) (hs : List (Handle × Value)) :
    retains h (es ++ (hs.map fun e => Occurrence.issued e.1).reverse) = retains h es ∧
      releases h (es ++ (hs.map fun e => Occurrence.issued e.1).reverse) = releases h es := by
  constructor
  · rw [retains, List.countP_append, List.countP_reverse, List.countP_map]
    simp [Occurrence.isRetained, retains, Function.comp_def]
  · rw [releases, List.countP_append, List.countP_reverse, List.countP_map]
    simp [Occurrence.isReleased, releases, Function.comp_def]

/-- **An argument outlives its callback exactly when the host has kept it.** -/
theorem argument_live (hr : run.Obeys Tidy) (c : Callback) (slots : List Slot) (args : List Value)
    {finish : Reply → Act σ α} (hf : ∀ r, (finish r).Keeps Tidy) (w : World σ) :
    ∃ es, ((run.callHost host c slots args finish).after w).bridge.journal = es ++ w.bridge.journal ∧
      ∀ h v, (h, v) ∈ stagedArguments args w → issues h es = 1 → retains h es < 2 ^ 32 - 1 →
        (((run.callHost host c slots args finish).after w).bridge.ledger.contains h = true
          ↔ releases h es < retains h es) := by
  have hopen := openFrame_encodes args w
  have hbody := Tidy.callBody host hr c (slots ++ (openFrame args w).1) hf (openFrame args w).2
  have hbusy : (openFrame args w).2.busy = w.busy := rfl
  rw [hbusy] at hbody
  rw [after_callHost]
  generalize (run.callBody host c (slots ++ (openFrame args w).1) finish w.busy).after
    (openFrame args w).2 = w₁ at hbody
  obtain ⟨-, -, hent⟩ := closeFrame_frames (hbody.frames.trans hopen.frames)
  obtain ⟨es, hjournal, -, hpass⟩ := hbody.grown
  refine ⟨es ++ ((stagedArguments args w).map fun e => Occurrence.issued e.1).reverse, ?_, ?_⟩
  · show w₁.bridge.journal = _
    rw [hjournal, hopen.journal, List.append_assoc]
  · intro h v hm hissued hbound
    obtain ⟨hret, hrel⟩ := counts_staged h es (stagedArguments args w)
    rw [hret] at hbound
    obtain ⟨hcount, he⟩ := argument_entry (hpass h) hm hissued hbound
    rw [hret, hrel, Ledger.contains, hent h, List.nil_append, hcount]
    -- one reference goes with the frame
    show (Option.bind (w₁.bridge.ledger.entry? h) LedgerEntry.less).isSome = true ↔ _
    rcases hw : w₁.bridge.ledger.entry? h with - | e
    · rw [hw] at he
      simp only at he
      rw [he]
      simp
    · rw [hw] at he
      obtain ⟨-, hne, hsum⟩ := he
      have hpred := Ledger.toNat_sub_one hne
      rw [Option.bind_some, LedgerEntry.less]
      by_cases hlast : e.refs - 1 = 0
      · rw [if_pos hlast]
        rw [hlast] at hpred
        have h1 : (0 : UInt32).toNat = 0 := rfl
        simp
        omega
      · rw [if_neg hlast]
        have h1 : (e.refs - 1).toNat ≠ 0 := fun h0 => hlast (UInt32.toNat_inj.mp h0)
        simp
        omega

/-! ### Replies that name an argument -/

theorem decode_handle {b : Bridge} {s : Slot} {h : Handle} (hs : s.handle? = some h) :
    b.decode s = b.ledger.get h := by
  cases s with
  | scriptString g | scriptValue g | managed g | hostClass _ g | hostObject _ g =>
    cases hs
    rfl
  | _ => cases hs

/-- **A slot that names an argument still means that argument when the host replies**, unless the
host has given back more than it took. -/
theorem argument_decodes (hr : run.Obeys Tidy) {c : Callback} {slots : List Slot}
    {args : List Value} {w w₁ : World σ} {r : Reply} (hb : w.busy = false)
    (he : run.enterHost host c slots (openFrame args w).2 = .ok r w₁) :
    ∃ es, w₁.bridge.journal = es ++ w.bridge.journal ∧
      ∀ h v, (h, v) ∈ stagedArguments args w → issues h es = 1 → retains h es < 2 ^ 32 - 1 →
        releases h es ≤ retains h es → ∀ s : Slot, s.handle? = some h → w₁.bridge.decode s = .ok v := by
  have hopen := openFrame_encodes args w
  have hbusy : (openFrame args w).2.busy = false := hb
  have hturn := (Tidy.enterHost host hr c slots hbusy).1
  rw [Act.after, he] at hturn
  obtain ⟨es, hjournal, -, hpass⟩ := hturn.grown
  refine ⟨es ++ ((stagedArguments args w).map fun e => Occurrence.issued e.1).reverse, ?_, ?_⟩
  · rw [hjournal, hopen.journal, List.append_assoc]
  · intro h v hm hissued hbound hkept s hs
    obtain ⟨hret, hrel⟩ := counts_staged h es (stagedArguments args w)
    rw [hret] at hbound
    rw [hret, hrel] at hkept
    obtain ⟨-, hentry⟩ := argument_entry (hpass h) hm hissued hbound
    rw [decode_handle hs]
    rcases hw : w₁.bridge.ledger.entry? h with - | e
    · rw [hw] at hentry
      simp only at hentry
      omega
    · rw [hw] at hentry
      rw [Ledger.get_live _ hw, hentry.1]

/-! ### A busy host -/

/-- The error object that the bridge throws. -/
def errorObject (c : ErrorClass) (message : String) : Obj :=
  [(Key.ofString "message", Property.hidden (.spelled (Units.bounded messageLimit
      (Units.ofString message)))), (Key.ofString "stack", .hidden (.spelled []))].foldl
    (fun o m => o.put m.1 m.2) ⟨some (.builtin (.object (.errorPrototype c))), true, .script .error,
      .empty, []⟩

/-- Throwing a new error makes one object and nothing else; it takes two steps. -/
theorem throwNew_eq (host : Host σ) (steps depth : Nat) (c : ErrorClass) (message : String)
    (w : World σ) :
    ((Machine.runner host steps depth).throwNew c message : Act σ α) w
      = let made := { w with engine := (w.engine.allocateObj (errorObject c message)).2 }
        match steps with
        | 0 => .error .interrupted w
        | 1 => .error .interrupted made
        | _ + 2 => .error (.thrown (.object (.made w.engine.next))) made := by
  rcases steps with - | - | n <;> rfl

theorem obj_allocate (e : Engine) (o : Obj) :
    (e.allocateObj o).2.obj (.made e.next) = o := by
  have hnode : (e.allocateObj o).2.nodes.get? e.next = some (.object o) := by
    show (e.nodes.insert e.next (.object o)).get? e.next = _
    rw [NatMap.get?_insert, if_pos rfl]
  simp only [Engine.obj, hnode]

/-- While the host is busy, the frame of a callback is closed on the error that says so. -/
theorem callHost_of_busy {run : Runner σ} {c : Callback} {slots : List Slot} {args : List Value}
    {finish : Reply → Act σ α} {w w' : World σ} {e : Failure} (hb : w.busy = true)
    (hthrow : (run.throwNew .internalError BridgeFault.hostBusy.message : Act σ α) (openFrame args w).2
      = .error e w') : run.callHost host c slots args finish w = .error e (closeFrame w') := by
  have hfault : (run.throwFault .hostBusy : Act σ α) (openFrame args w).2 = .error e w' := hthrow
  rw [callHost_eq, callBody, if_pos hb, hfault]

/-- A busy host is not entered: the script gets an error, and nothing has moved but the handles
that the callback staged itself. -/
theorem callHost_busy (steps depth : Nat) (c : Callback) (slots : List Slot) (args : List Value)
    (finish : Reply → Act σ α) {w : World σ} (hb : w.busy = true) :
    let done := (Machine.runner host steps depth).callHost host c slots args finish
    (done.after w).memory = w.memory ∧
      (done.after w).bridge.journal
        = ((stagedArguments args w).map fun e => .issued e.1).reverse ++ w.bridge.journal ∧
      (∀ h, h ∉ (stagedArguments args w).map Prod.fst →
        (done.after w).bridge.ledger.entry? h = w.bridge.ledger.entry? h) ∧
      (2 ≤ steps → ∃ r, done w = .error (.thrown (.object r)) (done.after w) ∧
        (done.after w).engine.obj r
          = errorObject .internalError BridgeFault.hostBusy.message) := by
  intro done
  have hopen := openFrame_encodes args w
  have hthrow := throwNew_eq (α := α) host steps depth .internalError BridgeFault.hostBusy.message
    (openFrame args w).2
  -- whatever the steps, the world is that of the opened frame but for the engine
  have hworld : ∃ e, done.after w = closeFrame { (openFrame args w).2 with engine := e } := by
    rcases steps with - | - | n
    · exact ⟨_, Act.after_error (callHost_of_busy hb hthrow)⟩
    · exact ⟨_, Act.after_error (callHost_of_busy hb hthrow)⟩
    · exact ⟨_, Act.after_error (callHost_of_busy hb hthrow)⟩
  obtain ⟨e, he⟩ := hworld
  obtain ⟨-, -, hent⟩ := closeFrame_frames (w := { (openFrame args w).2 with engine := e })
    hopen.frames
  refine ⟨?_, ?_, ?_, ?_⟩
  · rw [he]
    rfl
  · rw [he]
    exact hopen.journal
  · intro h hh
    rw [he, hent h, List.nil_append, List.count_eq_zero.mpr hh]
    exact hopen.others h hh
  · intro hsteps
    obtain ⟨n, rfl⟩ := Nat.exists_eq_add_of_le' hsteps
    have hdone : done w = _ := callHost_of_busy hb hthrow
    refine ⟨.made (openFrame args w).2.engine.next, ?_, ?_⟩
    · rw [Act.after_error hdone, hdone]
    · rw [Act.after_error hdone]
      exact obj_allocate _ _

example : (errorObject .internalError BridgeFault.hostBusy.message).find? (Key.ofString "message")
    = some (.hidden (.text "Host handler is busy")) := rfl

/-! ### The whole callback -/

/-- **Callbacks balance and leak nothing.**  For every host, every way that a callback is used, all
arguments and every world in which it may begin:

1. it ends with the frames and the cache list that it began with, however it ends;
2. a handle staged for an argument is live afterwards exactly when the host retained it more often
   than it released it, as long as its number did not come round;
3. a slot that names an argument decodes to it when the host replies, and so becomes the result, or
   what is thrown;
4. while the host answers it is not entered again;
5. a callback that meets a busy host ends in an error of the script, and of the ledger it touches no
   handle but those that it staged itself. -/
theorem callHost_balances (host : Host σ) (steps depth : Nat) (p : Purpose) (c : Callback)
    (slots : List Slot) (args : List Value) (w : World σ) :
    let run := Machine.runner host steps depth
    let done := run.callHost host c slots args (p.finish run)
    let w' := done.after w
    (w'.bridge.ledger.frames = w.bridge.ledger.frames ∧
      w'.bridge.ledger.cache = w.bridge.ledger.cache) ∧
    (∃ es, w'.bridge.journal = es ++ w.bridge.journal ∧
      ∀ h v, (h, v) ∈ stagedArguments args w → issues h es = 1 → retains h es < 2 ^ 32 - 1 →
        (w'.bridge.ledger.contains h = true ↔ releases h es < retains h es)) ∧
    (w.busy = false → ∀ r w₁,
      run.enterHost host c (slots ++ (openFrame args w).1) (openFrame args w).2 = .ok r w₁ →
      ∃ es, w₁.bridge.journal = es ++ w.bridge.journal ∧
        ∀ h v, (h, v) ∈ stagedArguments args w → issues h es = 1 → retains h es < 2 ^ 32 - 1 →
          releases h es ≤ retains h es → ∀ s : Slot, s.handle? = some h →
            w₁.bridge.decode s = .ok v ∧
            (r = .value s → run.callHost host c slots args run.replyValue w
              = .ok v (closeFrame w₁)) ∧
            (r = .throw s → run.callHost host c slots args run.replyValue w
              = .error (.thrown v) (closeFrame w₁))) ∧
    (w.busy = false → ∃ turn,
      ((run.enterHost host c slots).after w).bridge.journal
        = .left :: turn ++ .entered c slots :: w.bridge.journal ∧
      ∀ x ∈ turn, x.enters = false) ∧
    (w.busy = true → w'.memory = w.memory ∧
      w'.bridge.journal
        = ((stagedArguments args w).map fun e => .issued e.1).reverse ++ w.bridge.journal ∧
      (∀ h, h ∉ (stagedArguments args w).map Prod.fst →
        w'.bridge.ledger.entry? h = w.bridge.ledger.entry? h) ∧
      (2 ≤ steps → ∃ r, done w = .error (.thrown (.object r)) w' ∧
        w'.engine.obj r = errorObject .internalError "Host handler is busy")) := by
  intro run done w'
  have hr : run.Obeys Tidy := Tidy.runner host steps depth
  have hf := p.finish_keeps Tidy.upkeep hr
  have htidy : Tidy w w' := Tidy.callback hr c slots args hf w
  refine ⟨⟨htidy.frames, htidy.cache⟩, argument_live hr c slots args hf w, ?_, ?_, ?_⟩
  · intro hb r w₁ he
    obtain ⟨es, hjournal, hdecode⟩ := argument_decodes hr hb he
    refine ⟨es, hjournal, ?_⟩
    intro h v hm hissued hbound hkept s hs
    have hd := hdecode h v hm hissued hbound hkept s hs
    -- the reply is read before the frame is closed, while the argument is live
    have hcall : run.callHost host c slots args run.replyValue w
        = match run.replyValue r w₁ with
          | .ok a w' => .ok a (closeFrame w')
          | .error e w' => .error e (closeFrame w') := by
      rw [callHost_eq, Runner.callBody, hb, if_neg Bool.false_ne_true, Act.bind_ok he]
      rcases run.replyValue r w₁ with ⟨a, w₂⟩ | ⟨e, w₂⟩ <;> rfl
    have hread : (run.orThrowFault (w₁.bridge.decode s) : Act σ Value) w₁ = .ok v w₁ := by
      rw [hd]
      rfl
    refine ⟨hd, ?_, ?_⟩
    · rintro rfl
      have hreply : run.replyValue (.value s) w₁ = .ok v w₁ := hread
      rw [hcall, hreply]
    · rintro rfl
      have hreply : run.replyValue (.throw s) w₁ = .error (.thrown v) w₁ := by
        show (run.orThrowFault (w₁.bridge.decode s) >>= fun v => throw (.thrown v)) w₁ = _
        rw [Act.bind_ok hread]
        rfl
      rw [hcall, hreply]
  · intro hb
    exact (Tidy.enterHost host hr c slots hb).2
  · intro hb
    exact callHost_busy steps depth c slots args _ hb

end Runner

end ScriptBridge
