import ScriptBridge.Proofs.ActionShapes
import ScriptBridge.Proofs.DispatchResults
import ScriptBridge.Proofs.OwnReferences

/-!
Slots tell the truth.

A slot that the bridge hands to the host and that carries a handle carries a live one, and what it
says of its value is so:

    script string   ↔   a string;      any other slot with a handle   ↔   an object

Design.  Whoever makes the slot, the handle was given out for a value of the slot's kind
(`Ledger.Trail.truthful`), so what is left to show is that it is live when the slot reaches the host.
A result is listed in the cache; a retained slot and a registered class are the host's own
(`Ledger.Trail.live_of_owned`); an argument lies in the frame that was just opened.

The host is one that gives back no more than it was given, and here a reference counts as given
once the call that gives it has returned.
-/
namespace ScriptBridge

open Data Text Script Script.Script

variable {σ α : Type}

/-! ### Worlds since the beginning -/

/-- The ledger came about from the empty one as the journal tells, and the host holds the
handles `hs` besides what it retained. -/
def World.Recounted (hs : List Handle) (w : World σ) : Prop :=
  ∃ ps, Ledger.Trail .empty w.bridge.journal ps w.bridge.ledger ∧ ∀ h, hs.count h ≤ Ledger.held h ps

namespace World.Recounted

variable {hs : List Handle} {w w' : World σ}

theorem later (hw : w.Recounted hs) (h : ∃ es ps, w'.bridge.journal = es ++ w.bridge.journal ∧
    Ledger.Trail w.bridge.ledger es ps w'.bridge.ledger) : w'.Recounted hs := by
  obtain ⟨ps, ht, hheld⟩ := hw
  obtain ⟨es, qs, hj, ht'⟩ := h
  refine ⟨ps ++ qs, hj ▸ ht.trans ht', fun h => (hheld h).trans ?_⟩
  rw [Ledger.held_append]
  exact Nat.le_add_right _ _

/-- Every entry is a string or an object. -/
theorem entry_kept (hw : w.Recounted hs) {h : Handle} {e : LedgerEntry Value}
    (he : w.bridge.ledger.entry? h = some e) : e.value.kept = true := by
  obtain ⟨ps, ht, -⟩ := hw
  exact ht.entry_kept he

/-- A slot that tells the truth goes on telling it while its handle lives. -/
theorem stays_truthful (hw : w.Recounted hs) (h : ∃ es ps, w'.bridge.journal = es ++ w.bridge.journal ∧
    Ledger.Trail w.bridge.ledger es ps w'.bridge.ledger)
    (hfew : (givenOut w'.bridge.journal).length < 2 ^ 32 - 1) {s : Slot} {g : Handle}
    (hs : s.handle? = some g) (htrue : s.Truthful w.bridge.ledger)
    (hlive : w'.bridge.ledger.contains g = true) : s.Truthful w'.bridge.ledger := by
  obtain ⟨ps, ht, -⟩ := hw
  obtain ⟨es, qs, hj, ht'⟩ := h
  obtain ⟨e, he, -, htext⟩ := htrue.entry hs
  rw [hj] at hfew
  exact (ht.trans ht').truthful hfew hs
    (Ledger.entered_append ps qs ▸ List.mem_append_left _ (ht.mem_entered he)) htext
    (Option.isSome_iff_exists.mp hlive)

end World.Recounted

/-! ### A value put into the ledger -/

/-- The value is given a handle out, for the host to hold if `n` is `1`. -/
def Gives (n : Nat) (put : World σ → Value → World σ) : Prop :=
  ∀ w v, v.kept = true → ∃ es ps, (put w v).bridge.journal = es ++ w.bridge.journal ∧
    Ledger.Trail w.bridge.ledger es ps (put w v).bridge.ledger ∧
      ((⟨w.bridge.ledger.next⟩ : Handle), v) ∈ Ledger.entered ps ∧
        n ≤ Ledger.held ⟨w.bridge.ledger.next⟩ ps

theorem gives_staging : Gives 0 (World.staging (σ := σ)) := by
  intro w v hv
  have hone := Ledger.Trail.start.perform (l := w.bridge.ledger) (.stage v) hv
  rw [List.append_nil, List.nil_append, Ledger.postings_stage] at hone
  refine ⟨_, _, ?_, hone, List.mem_singleton.mpr rfl, Nat.zero_le _⟩
  show Occurrence.issued (w.bridge.ledger.stage v).1 :: _ = _
  rw [Ledger.stage_fst]
  rfl

theorem gives_holding : Gives 1 (World.holding (σ := σ)) := by
  intro w v hv
  have hone := Ledger.Trail.start.perform (l := w.bridge.ledger) (.insert v 1) ⟨hv, rfl⟩
  rw [List.append_nil, List.nil_append, Ledger.postings_insert] at hone
  refine ⟨_, _, rfl, hone, List.mem_singleton.mpr rfl, ?_⟩
  simp [Ledger.held, Ledger.Posting.isHeld]

/-- The slot of a value that was put into the ledger, in the light of all that the journal tells. -/
theorem Hands.recounted {n : Nat} {put : World σ → Value → World σ} (hput : Gives n put) {hs : List Handle}
    {w w' : World σ} (hw : w.Recounted hs) {s : Slot} (h : Hands put Recounts w (some s) w') {g : Handle}
    (hg : s.handle? = some g) :
    ∃ ps v, Ledger.Trail .empty w'.bridge.journal ps w'.bridge.ledger ∧
      (g, v) ∈ Ledger.entered ps ∧ s.isString = v.isText ∧
        ∀ f, hs.count f + (if f = g then n else 0) ≤ Ledger.held f ps := by
  cases h with
  | nothing ho => cases ho.symm.trans hg
  | @one w₁ _ v _ hbefore hv hslot htext hafter =>
    cases hslot.symm.trans hg
    obtain ⟨ps, ht, hheld⟩ := hw.later hbefore.trail
    obtain ⟨es, qs, hj, hone, hin, hn⟩ := hput w₁ v hv
    obtain ⟨fs, rs, hj', hrest⟩ := hafter.trail
    refine ⟨ps ++ (qs ++ rs), v, ?_, ?_, htext, fun f => ?_⟩
    · rw [hj', hj, ← List.append_assoc]
      exact ht.trans (hone.trans hrest)
    · rw [Ledger.entered_append, Ledger.entered_append]
      exact List.mem_append_right _ (List.mem_append_left _ hin)
    · have := hheld f
      rw [Ledger.held_append, Ledger.held_append]
      split
      · rename_i hf
        rw [← hf] at hn
        omega
      · omega

/-- The handle of a value that was staged is listed. -/
theorem Hands.listed {w w' : World σ} {s : Slot} (h : Hands World.staging Tidy w (some s) w') {g : Handle}
    (hg : s.handle? = some g) : g ∈ w'.bridge.ledger.listed := by
  cases h with
  | nothing ho => cases ho.symm.trans hg
  | @one w₁ _ v _ _ _ hslot _ hafter =>
    cases hslot.symm.trans hg
    have hsame : w'.bridge.ledger.listed = (w₁.bridge.ledger.stage v).2.listed := by
      rw [Ledger.listed, Ledger.listed, hafter.cache, hafter.frames]
      rfl
    rw [hsame]
    exact (Ledger.listed_stage v).mem_iff.mpr List.mem_cons_self

/-! ### Retaining -/

namespace Runner

variable {run : Runner σ} {w w' : World σ} {s₀ s : Slot}

theorem of_retain_ok (h : run.retain s₀ w = .ok s w') : ∃ g v l, s₀.handle? = some g ∧
    w.bridge.ledger.get g = .ok v ∧ w.bridge.ledger.addRef g = .ok l ∧
      run.script (classify g v) { w with bridge := { w.bridge with ledger := l }.note (.retained g) }
        = .ok s w' := by
  obtain ⟨b, w₁, hbridge, h⟩ := Act.of_bind_ok h
  cases hbridge
  rcases hg : s₀.handle? with - | g
  · rw [hg] at h
    cases h
  · rw [hg] at h
    obtain ⟨v, w₂, hget, h⟩ := Act.of_bind_ok h
    obtain ⟨l, w₃, hadd, h⟩ := Act.of_bind_ok h
    have hv := Dispatch.orFault_ok hget
    have hl := Dispatch.orFault_ok hadd
    rw [hv] at hget
    rw [hl] at hadd
    cases hget
    cases hadd
    exact ⟨g, v, l, rfl, hv, hl, h⟩

/-- **A retained slot tells the truth**, whatever the slot that was to be retained said of its value. -/
theorem retain_truthful (hr : run.Obeys Recounts) {hs : List Handle} (hw : w.Recounted hs)
    (h : run.retain s₀ w = .ok s w') (hb : InBounds w'.bridge.journal)
    (hown : ∀ g, s.handle? = some g →
      releases g w'.bridge.journal < retains g w'.bridge.journal + hs.count g) :
    s.Truthful w'.bridge.ledger := by
  obtain ⟨g, v, l, -, hget, hadd, hscript⟩ := of_retain_ok h
  obtain ⟨hslot, htext⟩ := hr.result (ensures_classify g v) hscript
  have hafter := Recounts.steady.trans (Recounts.retained w hadd) ((hr.script _).of_ok hscript)
  obtain ⟨ps, ht, hheld⟩ := hw
  obtain ⟨es, qs, hj, ht'⟩ := hafter.trail
  have htrail : Ledger.Trail .empty w'.bridge.journal (ps ++ qs) w'.bridge.ledger := hj ▸ ht.trans ht'
  -- the value is the one that the handle was given out for
  rcases he : w.bridge.ledger.entry? g with - | e
  · rw [Ledger.get_dead _ he] at hget
    cases hget
  rw [Ledger.get_live _ he] at hget
  cases hget
  refine htrail.truthful hb.few hslot
    (Ledger.entered_append ps qs ▸ List.mem_append_left _ (ht.mem_entered he)) htext ?_
  have := hown g hslot
  have := hheld g
  refine htrail.live_of_owned hb ?_
  rw [Ledger.held_append]
  omega

end Runner

/-! ### Contexts -/

namespace Context

/-- The handle that a registration hands to the host. -/
def registered? (c : Context σ) : HostOp → Option Handle
  | .registerClass d classId => (c.registerClass d classId).1.toOption.bind Slot.handle?
  | _ => none

/-- A context that a host can come to without ending it, with the handles that registrations have handed to the
host on the way. -/
inductive Handed : Context σ → List Handle → Prop where
  | created {host : Host σ} {limits : Limits} {s : Setup} {memory : σ} {c : Context σ} :
      create host limits s memory = .ok c → Handed c []
  | step {c : Context σ} {hs : List Handle} {op : HostOp} : op ≠ .close → Handed c hs →
      Handed (c.apply op) (hs ++ (c.registered? op).toList)

variable {c : Context σ} {hs : List Handle}

/-- A registration holds the class's constructor for the host. -/
theorem registerClass_hands {d : ClassDescriptor} {classId : Int32} {s : Slot}
    (h : (c.registerClass d classId).1 = .ok s) :
    Hands World.holding Recounts c.world (some s) (c.apply (.registerClass d classId)).world := by
  have hR : Attendance c.host Recounts := (Recounts.usage c.host).toAttendance
  have hyields := Act.Yields.settle hR.toSteady hR.runner
    (hR.registerClass hR.runner c.calm Recounts.enrolled d classId)
  have hworld : (c.apply (.registerClass d classId)).world
      = (c.runner.settle (c.runner.registerClass d classId)).after c.world := by
    show (c.perform fun run => run.settle (run.registerClass d classId)).2.world = _
    rw [perform_world]
  rcases e : c.runner.settle (c.runner.registerClass d classId) c.world with ⟨a, w⟩ | ⟨f, w⟩
  · have ha : (c.registerClass d classId).1 = .ok a := by
      rw [registerClass, perform, e]
    cases ha.symm.trans h
    rw [hworld, Act.after_ok e]
    exact hyields.ok e
  · have hf : (c.registerClass d classId).1 = .error (faultOf f) := by
      rw [registerClass, perform, e]
    cases hf.symm.trans h

namespace Handed

theorem recounted (hc : c.Handed hs) : c.world.busy = false ∧ c.world.Recounted hs := by
  induction hc with
  | @created host limits s memory c h =>
    have hR : Attendance (blank host limits s memory).host Recounts := (Recounts.usage host).toAttendance
    have hinstalled : Recounts (emptyWorld s memory) c.world := by
      rw [create_ok h]
      exact Attendance.performed (hR.install _ hR.runner)
    have hempty : (emptyWorld s memory).Recounted [] := ⟨[], .start, fun _ => Nat.le_refl 0⟩
    exact ⟨hinstalled.busy, hempty.later hinstalled.trail⟩
  | @step c hs op hop hc ih =>
    have happly := (Recounts.usage c.host).operation ih.1 hop fun _ => Recounts.enrolled
    refine ⟨happly.busy.trans ih.1, ?_⟩
    rcases hreg : c.registered? op with - | g
    · rw [Option.toList_none, List.append_nil]
      exact ih.2.later happly.trail
    · cases op with
      | registerClass d classId =>
        obtain ⟨s, hs', hg⟩ := Option.bind_eq_some_iff.mp hreg
        have hok : (c.registerClass d classId).1 = .ok s := by
          rcases ha : (c.registerClass d classId).1 with f | a
          · rw [ha] at hs'
            cases hs'
          · rw [ha] at hs'
            cases hs'
            rfl
        obtain ⟨ps, v, ht, -, -, hheld⟩ := (registerClass_hands hok).recounted gives_holding ih.2 hg
        refine ⟨ps, ht, fun f => ?_⟩
        have := hheld f
        rw [List.count_append, Option.toList_some, List.count_singleton]
        by_cases hf : f = g
        · rw [if_pos hf] at this
          simpa [hf] using this
        · rw [if_neg hf] at this
          simpa [Ne.symm hf] using this
      | _ => cases hreg

/-- The context is one that a host can come to. -/
theorem reachable (hc : c.Handed hs) : c.Reachable := by
  induction hc with
  | created h => exact .created h
  | step _ _ ih => exact .step _ ih

end Handed

end Context

/-! ### Slots passed back -/

section Accepted

variable {b : Bridge} {s : Slot}

theorem Slot.Truthful.isObject (ht : s.Truthful b.ledger) (hs : s.objectHandle?.isSome = true) :
    b.IsObject s := by
  obtain ⟨h, hh⟩ := Option.isSome_iff_exists.mp hs
  have hval := ht h
  cases s <;> cases hh <;> exact ⟨h, (hval rfl).choose, rfl, (hval rfl).choose_spec⟩

theorem Slot.Truthful.isText (ht : s.Truthful b.ledger) (hs : s.isString = true) : b.IsText s := by
  cases s with
  | text t => exact .inl ⟨t, rfl⟩
  | scriptString h =>
    obtain ⟨u, mark, hget⟩ := ht h rfl
    exact .inr ⟨h, u, mark, rfl, hget⟩
  | _ => cases hs

/-- A slot may stand for a key of a member. -/
def Slot.isKey (s : Slot) : Bool := s.isString || s.int32?.isSome

theorem Slot.Truthful.isKey (ht : s.Truthful b.ledger) (hs : s.isKey = true) : b.IsKey s := by
  cases s with
  | int32 i => exact .inl ⟨i, rfl⟩
  | text t => exact .inr (ht.isText rfl)
  | scriptString h => exact .inr (ht.isText rfl)
  | _ => cases hs

end Accepted

namespace Dispatch

/-- The slots say that they are what the action takes. -/
def Fits (a : Action) (args : List Slot) : Prop :=
  match a with
  | .eval | .run => ∃ code name, args = [code, name] ∧ code.isString = true ∧ name.isString = true
  | .toString => ∃ s, args = [s]
  | .set => ∃ target k v, args = [target, k, v] ∧ target.objectHandle?.isSome = true ∧ k.isKey = true
  | .get => ∃ target k, args = [target, k] ∧ target.objectHandle?.isSome = true ∧ k.isKey = true
  | .invoke => ∃ target name n rest, args = target :: name :: .int32 n :: rest ∧
      target.objectHandle?.isSome = true ∧ name.isString = true ∧ Bridge.IsCounted n rest
  | .call => ∃ target n rest, args = target :: .int32 n :: rest ∧
      target.objectHandle?.isSome = true ∧ Bridge.IsCounted n rest
  | .bind => ∃ target rest, args = target :: rest ∧ target.objectHandle?.isSome = true
  | .promiseComplete => ∃ id code rest, args = .promise id :: .int32 code :: rest
  | .runPromise => ∃ target onResolve onReject, args = [target, onResolve, onReject] ∧
      target.objectHandle?.isSome = true ∧ onResolve.objectHandle?.isSome = true ∧
        onReject.objectHandle?.isSome = true
  | .propertyNames | .isArray | .isFunction | .isConstructor =>
    ∃ target, args = [target] ∧ target.objectHandle?.isSome = true
  | .wrapFunction | .newObject => True

/-- Slots that tell the truth are what they say that they are. -/
theorem Fits.wellShaped {b : Bridge} {a : Action} {args : List Slot} (h : Fits a args)
    (ht : ∀ s ∈ args, s.Truthful b.ledger) : WellShaped b a args := by
  cases a with
  | eval | run =>
    obtain ⟨code, name, rfl, hcode, hname⟩ := h
    exact ⟨code, name, rfl, (ht code (by simp)).isText hcode, (ht name (by simp)).isText hname⟩
  | set =>
    obtain ⟨target, k, v, rfl, htarget, hk⟩ := h
    exact ⟨target, k, v, rfl, (ht target (by simp)).isObject htarget, (ht k (by simp)).isKey hk⟩
  | get =>
    obtain ⟨target, k, rfl, htarget, hk⟩ := h
    exact ⟨target, k, rfl, (ht target (by simp)).isObject htarget, (ht k (by simp)).isKey hk⟩
  | invoke =>
    obtain ⟨target, name, n, rest, rfl, htarget, hname, hcount⟩ := h
    exact ⟨target, name, n, rest, rfl, (ht target (by simp)).isObject htarget,
      (ht name (by simp)).isText hname, hcount⟩
  | call =>
    obtain ⟨target, n, rest, rfl, htarget, hcount⟩ := h
    exact ⟨target, n, rest, rfl, (ht target (by simp)).isObject htarget, hcount⟩
  | bind =>
    obtain ⟨target, rest, rfl, htarget⟩ := h
    exact ⟨target, rest, rfl, (ht target (by simp)).isObject htarget⟩
  | runPromise =>
    obtain ⟨target, onResolve, onReject, rfl, htarget, hresolve, hreject⟩ := h
    exact ⟨target, onResolve, onReject, rfl, (ht target (by simp)).isObject htarget,
      (ht onResolve (by simp)).isObject hresolve, (ht onReject (by simp)).isObject hreject⟩
  | propertyNames | isArray | isFunction | isConstructor =>
    obtain ⟨target, rfl, htarget⟩ := h
    exact ⟨target, rfl, (ht target (by simp)).isObject htarget⟩
  | _ => exact h

end Dispatch

/-! ### Slots handed to the host -/

/-- The host has given back no more references than it retained and was handed. -/
def Fair (hs : List Handle) (es : List Occurrence) : Prop :=
  ∀ h, releases h es ≤ retains h es + hs.count h

/-- An operation's success as the host sees it is a success of the operation. -/
theorem Runner.of_answered_ok {m : Act σ α} {a : α} {w w' : World σ}
    (h : Runner.answered m w = .ok (.ok a) w') : m w = .ok a w' := by
  unfold Runner.answered at h
  rcases e : m w with ⟨b, w₁⟩ | ⟨f, w₁⟩ <;> rw [e] at h
  · cases h
    rfl
  · cases f <;> cases h

namespace World.Recounted

variable {hs : List Handle} {w : World σ}

/-- The host is told the truth when it is entered. -/
theorem entering_truthful (hw : w.Recounted hs) {c : Callback} {fixed : List Slot}
    (hfixed : ∀ s ∈ fixed, s.handle? = none) {args : List Value} :
    let slots := fixed ++ (Runner.openFrame args w).1
    let w' := Runner.entering c slots (Runner.openFrame args w).2
    (givenOut w'.bridge.journal).length < 2 ^ 32 - 1 → ∀ s ∈ slots, s.Truthful w'.bridge.ledger := by
  intro slots w' hfew
  have hopened := (Recounts.opened args w).trail
  obtain ⟨ps, ht, -⟩ := hw.later hopened
  obtain ⟨es, qs, hj, -⟩ := hopened
  refine Runner.openFrame_truthful hfixed hj ?_
  have hnodup : (givenOut (Runner.openFrame args w).2.bridge.journal).Nodup := by
    rw [ht.told.1]
    exact ht.nodup hfew
  rw [hj, givenOut_append] at hnodup
  exact hnodup.of_append_right

/-- It was told the truth whenever it was entered. -/
theorem entered_truthful (hw : w.Recounted hs) (hfew : (givenOut w.bridge.journal).length < 2 ^ 32 - 1)
    {c : Callback} {slots : List Slot} {later earlier : List Occurrence}
    (hj : w.bridge.journal = later ++ .entered c slots :: earlier) :
    ∃ given l given', Ledger.Course .empty given l ∧ given.map Prod.fst = givenOut earlier ∧
      Ledger.Course l given' w.bridge.ledger ∧ ∀ s ∈ slots, s.Truthful l := by
  obtain ⟨ps, ht, -⟩ := hw
  rw [hj] at ht hfew
  obtain ⟨ps₁, l, given', ht₁, hafter, htrue⟩ := ht.entering
  refine ⟨_, l, given', ht₁.course, ht₁.told.1.symm, hafter, htrue ?_⟩
  rw [ht₁.told.1]
  rw [givenOut_append, List.length_append] at hfew
  exact ht₁.nodup (Nat.lt_of_le_of_lt (Nat.le_add_right _ _) hfew)

end World.Recounted

namespace Context

variable {c : Context σ} {hs : List Handle}

/-- The result of a dispatch tells the truth. -/
theorem Handed.result_truthful (hc : c.Handed hs) {op : HostOp} {s : Slot}
    (ha : c.answer? op = some (.ok (some s))) (hb : InBounds (c.apply op).world.bridge.journal)
    (hfair : Fair hs (c.apply op).world.bridge.journal) : s.Truthful (c.apply op).world.bridge.ledger := by
  obtain ⟨hbusy, hw⟩ := hc.recounted
  have hgiven : Hands World.staging Recounts c.world (some s) (c.apply op).world :=
    apply_dispatched (Recounts.usage c.host).toAttendance Recounts.reporting hbusy ha
  have hstaged : Hands World.staging Tidy c.world (some s) (c.apply op).world :=
    apply_dispatched (Tidy.attendance c.host).toAttendance Tidy.reporting hbusy ha
  intro g hg
  obtain ⟨ps, v, ht, hin, htext, hheld⟩ := hgiven.recounted gives_staging hw hg
  refine ht.truthful hb.few hg hin htext (ht.live_of_listed hb (hstaged.listed hg) ?_) g hg
  have := hfair g
  have := hheld g
  omega

/-- The constructor of a registered class tells the truth. -/
theorem Handed.registered_truthful (hc : c.Handed hs) {d : ClassDescriptor} {classId : Int32} {s : Slot}
    {c' : Context σ} (h : c.registerClass d classId = (.ok s, c')) (hb : InBounds c'.world.bridge.journal)
    (hfair : Fair hs c'.world.bridge.journal) : s.Truthful c'.world.bridge.ledger := by
  have hheldout := registerClass_hands (congrArg Prod.fst h)
  have hworld : (c.apply (.registerClass d classId)) = c' := congrArg Prod.snd h
  rw [hworld] at hheldout
  intro g hg
  obtain ⟨ps, v, ht, hin, htext, hheld⟩ := hheldout.recounted gives_holding hc.recounted.2 hg
  refine ht.truthful hb.few hg hin htext (ht.live_of_owned hb ?_) g hg
  have := hfair g
  have hone := hheld g
  rw [if_pos rfl] at hone
  omega

/-- The result of retaining a slot tells the truth. -/
theorem Handed.retained_truthful (hc : c.Handed hs) {s₀ s : Slot} {c' : Context σ}
    (h : c.retain s₀ = (.ok s, c')) (hb : InBounds c'.world.bridge.journal)
    (hown : ∀ g, s.handle? = some g →
      releases g c'.world.bridge.journal < retains g c'.world.bridge.journal + hs.count g) :
    s.Truthful c'.world.bridge.ledger := by
  have hr : c.runner.Obeys Recounts := (Recounts.usage c.host).toAttendance.runner
  rcases e : c.runner.retain s₀ c.world with ⟨a, w⟩ | ⟨f, w⟩ <;> rw [Context.retain, perform, e] at h <;> cases h
  exact Runner.retain_truthful hr hc.recounted.2 e hb hown

/-- Where handles have been handed to the host by registrations, the slots that it is given tell the truth.
In every clause there are numbers left for handles, and in those about an answer for counts as well. -/
structure TellsTruth (c : Context σ) (hs : List Handle) : Prop where
  /-- Every entry of the ledger is a string or an object, also in the middle of an operation. -/
  entries : ∀ w, Follows c.host c.world w → ∀ h e, w.bridge.ledger.entry? h = some e → e.value.kept = true
  /-- The arguments of a callback, when the host is entered for it. -/
  arguments : ∀ w, Follows c.host c.world w → ∀ (cb : Callback) fixed args, (∀ s ∈ fixed, s.handle? = none) →
    let slots := fixed ++ (Runner.openFrame args w).1
    let w' := Runner.entering cb slots (Runner.openFrame args w).2
    (givenOut w'.bridge.journal).length < 2 ^ 32 - 1 → ∀ s ∈ slots, s.Truthful w'.bridge.ledger
  /-- Whenever the host was entered, the slots told the truth about the ledger of that moment. -/
  entered : ∀ w, Follows c.host c.world w → (givenOut w.bridge.journal).length < 2 ^ 32 - 1 →
    ∀ cb slots later earlier, w.bridge.journal = later ++ .entered cb slots :: earlier →
      ∃ given l given', Ledger.Course .empty given l ∧ given.map Prod.fst = givenOut earlier ∧
        Ledger.Course l given' w.bridge.ledger ∧ ∀ s ∈ slots, s.Truthful l
  /-- The result of a dispatch. -/
  result : ∀ op s, c.answer? op = some (.ok (some s)) → InBounds (c.apply op).world.bridge.journal →
    Fair hs (c.apply op).world.bridge.journal → s.Truthful (c.apply op).world.bridge.ledger
  /-- The constructor of a registered class. -/
  registered : ∀ d classId s c', c.registerClass d classId = (.ok s, c') →
    InBounds c'.world.bridge.journal → Fair hs c'.world.bridge.journal → s.Truthful c'.world.bridge.ledger
  /-- What the context retains, whatever kind of slot it was to retain.  The host has not yet given
  back the reference that it is just being given. -/
  retained : ∀ s₀ s c', c.retain s₀ = (.ok s, c') → InBounds c'.world.bridge.journal →
    (∀ h, s.handle? = some h →
      releases h c'.world.bridge.journal < retains h c'.world.bridge.journal + hs.count h) →
    s.Truthful c'.world.bridge.ledger
  /-- What is retained while the host answers a callback. -/
  retainedWithin : ∀ (steps depth : Nat) w, Follows c.host c.world w → ∀ s₀ s w',
    (Machine.runner c.host steps depth).answerScope (.retain s₀) w = .ok (.ok s) w' →
    InBounds w'.bridge.journal →
    (∀ h, s.handle? = some h →
      releases h w'.bridge.journal < retains h w'.bridge.journal + hs.count h) →
    s.Truthful w'.bridge.ledger
  /-- A slot that tells the truth goes on telling it as long as its handle lives. -/
  lasting : ∀ w w', Follows c.host c.world w → Follows c.host w w' →
    (givenOut w'.bridge.journal).length < 2 ^ 32 - 1 → ∀ (s : Slot) (h : Handle), s.handle? = some h →
      s.Truthful w.bridge.ledger → w'.bridge.ledger.contains h = true → s.Truthful w'.bridge.ledger
  /-- It is an object argument, or, if it is a script string's, a string argument. -/
  accepted : ∀ (b : Bridge) (s : Slot) (h : Handle), s.handle? = some h → s.Truthful b.ledger →
    (s.isString = false → ∃ r, b.object s = .ok r) ∧
    (s.isString = true → ∀ f, b.stringOf s = .error f → f ≠ .wrongArguments)
  /-- No action refuses slots of the kinds that it takes as wrong. -/
  fitting : ∀ a args, Dispatch.Fits a args → (∀ s ∈ args, s.Truthful c.world.bridge.ledger) →
    ∀ w', Dispatch.perform c.runner c.host a args c.world ≠ .error (.fault .wrongArguments) w'

/-- **Slots tell the truth**, in every run of a context, to a host that gives back no more references
than it retained and was handed.  A reference counts once the call that gives it has returned. -/
theorem Handed.slots_tell_truth (hc : c.Handed hs) : c.TellsTruth hs := by
  obtain ⟨-, hw⟩ := hc.recounted
  constructor
  case entries =>
    intro w hf h e he
    exact (hw.later hf.trail).entry_kept he
  case arguments =>
    intro w hf cb fixed args hfixed
    exact (hw.later hf.trail).entering_truthful hfixed
  case entered =>
    intro w hf hfew cb slots later earlier hj
    exact (hw.later hf.trail).entered_truthful hfew hj
  case result =>
    intro op s ha hb hfair
    exact hc.result_truthful ha hb hfair
  case registered =>
    intro d classId s c' h hb hfair
    exact hc.registered_truthful h hb hfair
  case retained =>
    intro s₀ s c' h hb hown
    exact hc.retained_truthful h hb hown
  case retainedWithin =>
    intro steps depth w hf s₀ s w' h hb hown
    exact Runner.retain_truthful (Recounts.runner c.host steps depth) (hw.later hf.trail)
      (Runner.of_answered_ok h) hb hown
  case lasting =>
    intro w w' hf hf' hfew s h hs htrue hlive
    exact (hw.later hf.trail).stays_truthful hf'.trail hfew hs htrue hlive
  case accepted =>
    intro b s h hs htrue
    refine ⟨fun hobject => ?_, fun htext f hfault => ?_⟩
    · have hcarries : s.objectHandle?.isSome = true := by
        cases s with
        | scriptString g => cases hobject
        | scriptValue g | managed g | hostClass _ g | hostObject _ g => rfl
        | _ => cases hs
      exact (htrue.isObject hcarries).object
    · rintro rfl
      cases (htrue.isText htext).stringOf hfault
  case fitting =>
    intro a args hfits htrue w' hwrong
    have hr : c.runner.Looks := Machine.runner_looks c.host c.limits.steps c.limits.depth
    exact (Dispatch.perform_refuses hr c.world args c.host hc.reachable.pledged a _ w' rfl hwrong).2.2
      (hfits.wellShaped htrue) rfl

/-- A context in which an object was made, with the handle `1`. -/
def withObject : Context Unit := smallest.apply (.tryDispatch .newObject [])

/-- The object is retained under the name of a string, and told of as what it is. -/
theorem Handed.slots_tell_truth_relabelled :
    withObject.Handed [] ∧ ∃ s c', withObject.retain (.scriptString ⟨1⟩) = (.ok s, c') ∧
      s.handle? = some ⟨1⟩ ∧ s.isString = false ∧ s.Truthful c'.world.bridge.ledger := by
  have hmade : withObject.Handed [] := by
    have hopen : HostOp.tryDispatch .newObject [] ≠ .close := nofun
    exact .step hopen (.created smallest_created)
  refine ⟨hmade, ?_⟩
  obtain ⟨hanswer, hjournal⟩ : (withObject.retain (.scriptString ⟨1⟩)).1.toOption.map
        (fun s => (s.handle?, s.isString)) = some (some ⟨1⟩, false) ∧
      (withObject.retain (.scriptString ⟨1⟩)).2.world.bridge.journal.length < 2 ^ 32 - 1 ∧
      (givenOut (withObject.retain (.scriptString ⟨1⟩)).2.world.bridge.journal).length < 2 ^ 32 - 1 ∧
      releases ⟨1⟩ (withObject.retain (.scriptString ⟨1⟩)).2.world.bridge.journal
        < retains ⟨1⟩ (withObject.retain (.scriptString ⟨1⟩)).2.world.bridge.journal := by decide +kernel
  rcases h : withObject.retain (.scriptString ⟨1⟩) with ⟨f | s, c'⟩ <;> rw [h] at hanswer hjournal
  · cases hanswer
  · obtain ⟨hslot, hobject⟩ := Prod.mk.inj (Option.some.inj hanswer)
    refine ⟨s, c', rfl, hslot, hobject, ?_⟩
    refine (slots_tell_truth hmade).retained _ s c' h ⟨hjournal.2.1, fun g => ?_⟩ fun g hg => ?_
    · exact Nat.lt_of_le_of_lt List.countP_le_length hjournal.1
    · cases hslot.symm.trans hg
      exact hjournal.2.2

end Context

end ScriptBridge
