import ScriptBridge.Proofs.Lasting

/-!
What the host knows its objects by.

An object that carries a token shows it, and the token was drawn for it (`World.Sound`); and whatever else
an object of the host's side shows in a fixed property, it shows as long as it is one:

    Upholds w w'   :   w'.Few → w.Sound → w'.Sound   and every object of w endures in w'

Design.  `TokenLife` and `Lasting` compare heap and journal object by object, and need for it that the host
is called in good order.  What an object shows does not depend on that, so `Honors` holds of every
step that the bridge ever takes, the host's coming and going included; and a claim about what objects show
at any moment of a run needs nothing else.
-/
namespace ScriptBridge

open Data Text Script Script.Script Runner

variable {σ α : Type}

namespace Script.Engine

/-- The heap has given the object out. -/
def Known (e : Engine) (r : Ref) : Prop := ∀ n, r = .made n → n < e.next

/-- The objects that the heap has given out endure. -/
structure Persists (e e' : Engine) : Prop where
  next : e.next ≤ e'.next
  endures : ∀ r, e.Known r → (e.obj r).Endures (e'.obj r)

namespace Persists

variable {e e' e'' : Engine}

theorem known (h : Persists e e') {r : Ref} (hr : e.Known r) : e'.Known r :=
  fun n hn => Nat.lt_of_lt_of_le (hr n hn) h.next

theorem refl (e : Engine) : Persists e e := ⟨Nat.le_refl _, fun r _ => .refl (e.obj r)⟩

theorem trans (h : Persists e e') (h' : Persists e' e'') : Persists e e'' :=
  ⟨Nat.le_trans h.next h'.next, fun r hr => (h.endures r hr).trans (h'.endures r (h.known hr))⟩

theorem of_endures (h : Endures e e') (hnext : e.next ≤ e'.next) : Persists e e' :=
  ⟨hnext, fun r _ => h r⟩

/-- A new object, of whatever kind, is put where none was given out. -/
theorem allocateObj (e : Engine) (o : Obj) : Persists e (e.allocateObj o).2 := by
  refine ⟨Nat.le_succ _, fun r hr => ?_⟩
  rcases obj_allocateObj e o r with ⟨hnew, -⟩ | hsame
  · exact absurd (hr e.next hnew) (Nat.lt_irrefl _)
  · rw [hsame]
    exact .refl _

end Persists

end Script.Engine

/-! ### Sound worlds -/

/-- Every object that carries a token shows it, and the token was drawn. -/
structure World.Sound (w : World σ) : Prop where
  numbers : Numbers w.bridge.journal w.bridge.lastToken
  carriers : ∀ {r t}, w.engine.Carries r t → (w.engine.obj r).Marked ∧ .drawn t ∈ w.bridge.journal

namespace World.Sound

variable {w w' : World σ}

/-- The token of an object has a double of its own. -/
theorem small (h : w.Sound) (hfew : w.Few) {r : Ref} {t : UInt64} (hr : w.engine.Carries r t) :
    0 < t.toNat ∧ t.toNat < 2 ^ 53 := h.numbers.small hfew (h.carriers hr).2

/-- No token is drawn, and no object with one is made. -/
theorem aside (h : w.Sound) (es : List Occurrence) (hes : ∀ x ∈ es, x.drawn? = none)
    (hj : w'.bridge.journal = es ++ w.bridge.journal) (hlast : w'.bridge.lastToken = w.bridge.lastToken)
    (he : Engine.Harmless w.engine w'.engine) : w'.Sound := by
  refine ⟨?_, fun {r t} hr => ?_⟩
  · rw [hj, hlast]
    exact h.numbers.later es hes
  · obtain ⟨hmarked, hdrawn⟩ := h.carriers (he.carries hr)
    refine ⟨?_, hj ▸ List.mem_append_right _ hdrawn⟩
    rcases he r with hnone | ⟨-, hkeeps⟩
    · exact Obj.marked_of_none hnone
    · exact hkeeps hmarked

theorem drawn (h : w.Sound) (hfew : ((Runner.drawToken : Act σ UInt64).after w).Few) :
    ((Runner.drawToken : Act σ UInt64).after w).Sound := by
  refine ⟨h.numbers.drawn ?_, fun {r t} hr => ?_⟩
  · have hlength : (draws (.drawn (w.bridge.lastToken + 1) :: w.bridge.journal)).length < 2 ^ 53 := hfew
    rw [draws, findings_cons, List.length_append] at hlength
    exact hlength
  · obtain ⟨hmarked, hdrawn⟩ := h.carriers (r := r) (t := t) hr
    exact ⟨hmarked, List.mem_cons_of_mem _ hdrawn⟩

/-- An object is made with a token that was drawn. -/
theorem made (h : w.Sound) {o : Obj} {t : UInt64} (ho : o.token? = some t) (hm : o.Marked)
    (ht : .drawn t ∈ w.bridge.journal) (es : List Occurrence) (hes : ∀ x ∈ es, x.drawn? = none)
    (hj : w'.bridge.journal = es ++ w.bridge.journal) (hlast : w'.bridge.lastToken = w.bridge.lastToken)
    (he : w'.engine = (w.engine.allocateObj o).2) : w'.Sound := by
  refine ⟨?_, fun {r u} hr => ?_⟩
  · rw [hj, hlast]
    exact h.numbers.later es hes
  · rw [Engine.Carries, he] at hr
    rw [he, hj]
    rcases Engine.obj_allocateObj w.engine o r with ⟨-, hobj⟩ | hobj
    · rw [hobj] at hr ⊢
      cases ho.symm.trans hr
      exact ⟨hm, List.mem_append_right _ ht⟩
    · rw [hobj] at hr ⊢
      obtain ⟨hmarked, hdrawn⟩ := h.carriers hr
      exact ⟨hmarked, List.mem_append_right _ hdrawn⟩

/-- Nothing has happened yet. -/
theorem start (s : Setup) (memory : σ) : (Context.emptyWorld s memory).Sound := by
  refine ⟨.start, fun {r t} hr => ?_⟩
  cases r with
  | builtin b => cases (token?_initial b).symm.trans hr
  | made n => cases hr

end World.Sound

/-! ### From world to world -/

/-- The journal grows, what the heap has given out endures, and a sound world stays sound. -/
structure Honors (w w' : World σ) : Prop where
  journal : ∃ es, w'.bridge.journal = es ++ w.bridge.journal
  persists : Engine.Persists w.engine w'.engine
  sound : w'.Few → w.Sound → w'.Sound

/-- The same, with the host as busy as before. -/
structure Upholds (w w' : World σ) : Prop extends Honors w w' where
  busy : w'.busy = w.busy

namespace Honors

variable {w w' w'' : World σ}

theorem refl (w : World σ) : Honors w w := ⟨⟨[], rfl⟩, .refl _, fun _ h => h⟩

theorem few (h : Honors w w') (hfew : w'.Few) : w.Few := by
  obtain ⟨es, hes⟩ := h.journal
  exact hfew.earlier hes

theorem trans (h : Honors w w') (h' : Honors w' w'') : Honors w w'' := by
  refine ⟨?_, h.persists.trans h'.persists, fun hfew hs => h'.sound hfew (h.sound (h'.few hfew) hs)⟩
  obtain ⟨es, hes⟩ := h.journal
  obtain ⟨fs, hfs⟩ := h'.journal
  exact ⟨fs ++ es, by rw [hfs, hes, List.append_assoc]⟩

/-- A step that draws no token and makes no object of the host's side. -/
theorem aside (es : List Occurrence) (hes : ∀ x ∈ es, x.drawn? = none)
    (hj : w'.bridge.journal = es ++ w.bridge.journal) (hlast : w'.bridge.lastToken = w.bridge.lastToken)
    (he : Engine.Endures w.engine w'.engine) (hnext : w.engine.next ≤ w'.engine.next) : Honors w w' :=
  ⟨⟨es, hj⟩, .of_endures he hnext, fun _ hs => hs.aside es hes hj hlast (.of_endures he)⟩

/-- A note, and the heap as it was. -/
theorem noted {x : Occurrence} (hx : x.drawn? = none) (hj : w'.bridge.journal = x :: w.bridge.journal)
    (hlast : w'.bridge.lastToken = w.bridge.lastToken) (he : w'.engine = w.engine) : Honors w w' :=
  aside [x] (List.forall_mem_singleton.mpr hx) hj hlast (he ▸ .refl _) (Nat.le_of_eq (he ▸ rfl))

/-- No note, and the heap as it was. -/
theorem silent (hj : w'.bridge.journal = w.bridge.journal)
    (hlast : w'.bridge.lastToken = w.bridge.lastToken) (he : w'.engine = w.engine) : Honors w w' :=
  aside [] (fun _ h => absurd h List.not_mem_nil) hj hlast (he ▸ .refl _) (Nat.le_of_eq (he ▸ rfl))

theorem drawn (w : World σ) : Honors w ((Runner.drawToken : Act σ UInt64).after w) :=
  ⟨⟨[.drawn (w.bridge.lastToken + 1)], rfl⟩, .refl _, fun hfew hs => hs.drawn hfew⟩

/-- An object is made that carries a token which was drawn. -/
theorem carrier {h : HostData} {t : UInt64} (ht : h.token? = some t) (proto : Ref)
    (members : List (Key × Property)) (hdrawn : .drawn t ∈ w.bridge.journal) :
    Honors w ((Runner.makeCarrier h t proto members : Act σ Ref).after w) :=
  ⟨⟨[.made t], rfl⟩, .allocateObj _ _, fun _ hs =>
    hs.made ((token?_hostObject h proto _).trans ht) (marked_hostObject h t proto members ht) hdrawn
      [.made t] (List.forall_mem_singleton.mpr rfl) rfl rfl rfl⟩

/-- The host is entered. -/
theorem entered (c : Callback) (slots : List Slot) (w : World σ) : Honors w (entering c slots w) :=
  noted (x := .entered c slots) rfl rfl rfl rfl

/-- The host leaves. -/
theorem left (w : World σ) : Honors w (leaving w) := noted (x := .left) rfl rfl rfl rfl

theorem opened (args : List Value) (w : World σ) : Honors w (openFrame args w).2 := by
  obtain ⟨hlast, -, -⟩ :=
    Lives.encodeAll_rest args { w.bridge with ledger := w.bridge.ledger.pushFrame }
  obtain ⟨es, hes, hissued⟩ := openFrame_issues args w
  refine aside es (fun x hx => ?_) hes hlast (.refl _) (Nat.le_refl _)
  obtain ⟨h, rfl⟩ := hissued x hx
  rfl

/-- Objects die. -/
theorem swept {e : Engine} {ts : List UInt64} (he : Engine.Endures w.engine e)
    (hnext : e.next = w.engine.next) :
    Honors w { w with engine := e, bridge := Context.queueDeaths w.bridge ts } := by
  rw [Context.queueDeaths_eq]
  refine aside _ (fun x hx => ?_) rfl rfl he (Nat.le_of_eq hnext.symm)
  obtain ⟨t, -, rfl⟩ := mem_dying.mp hx
  rfl

end Honors

namespace Upholds

variable {w w' : World σ}

theorem steady : Steady (σ := σ) Upholds where
  refl w := ⟨.refl w, rfl⟩
  trans h h' := ⟨h.toHonors.trans h'.toHonors, h'.busy.trans h.busy⟩

theorem upkeep : Upkeep (σ := σ) Upholds where
  toSteady := steady
  memory _ _ := ⟨.silent rfl rfl rfl, rfl⟩
  log _ _ := ⟨.silent rfl rfl rfl, rfl⟩
  retained _ _ _ _ := ⟨.noted rfl rfl rfl rfl, rfl⟩
  released _ _ _ _ _ := ⟨.noted rfl rfl rfl rfl, rfl⟩
  promised _ _ _ := ⟨.noted rfl rfl rfl rfl, rfl⟩

theorem reporting : Reporting (σ := σ) Upholds where
  deferred _ _ := ⟨.silent rfl rfl rfl, rfl⟩
  rejected _ _ _ := ⟨.noted rfl rfl rfl rfl, rfl⟩
  logged _ _ := ⟨.noted rfl rfl rfl rfl, rfl⟩

/-- Every callback, whatever it carries. -/
theorem callback {host : Host σ} {run : Runner σ} (hr : run.Obeys Upholds) (c : Callback)
    (slots : List Slot) (args : List Value) {finish : Reply → Act σ α}
    (hf : ∀ r, (finish r).Keeps Upholds) : Act.Keeps Upholds (run.callHost host c slots args finish) := by
  refine fun w => upkeep.callHost hr hf ⟨.opened args w, rfl⟩ (fun hb w' h => ⟨?_, hb.symm⟩) fun _ =>
    ⟨.silent rfl rfl rfl, rfl⟩
  exact ((Honors.entered c _ _).trans h.toHonors).trans (.left w')

theorem makeWrapped : Act.Keeps Upholds (Runner.makeWrapped : Act σ Ref) := by
  intro w
  have hcarrier : Honors ((Runner.drawToken : Act σ UInt64).after w) _ :=
    .carrier (h := .wrapped (w.bridge.lastToken + 1)) rfl functionPrototype (hostFunctionMembers none)
      List.mem_cons_self
  exact ⟨(Honors.drawn w).trans hcarrier, rfl⟩

/-- An instance is made with a token that was drawn. -/
theorem makeInstance (c : Int32) {t : UInt64} (proto : Ref) (ht : .drawn t ∈ w.bridge.journal) :
    Upholds w ((Runner.makeInstance c t proto : Act σ Value).after w) := by
  have hcarrier : Honors w _ := .carrier (h := .instance c t) rfl proto [] ht
  exact ⟨hcarrier.trans (.noted (x := .built (.made w.engine.next) c t) rfl rfl rfl rfl), rfl⟩

/-- A construction, whatever is done in the middle of it. -/
theorem constructed (classId : Int32) (proto : Ref) (m : UInt64 → Act σ Unit)
    (hm : ∀ t, (m t).Keeps Upholds) : Act.Keeps Upholds (do
      let t ← Runner.drawToken
      m t
      Runner.makeInstance classId t proto) := by
  intro w
  have hdrawn : Upholds w ((Runner.drawToken : Act σ UInt64).after w) := ⟨.drawn w, rfl⟩
  have hmem : .drawn (w.bridge.lastToken + 1)
      ∈ ((Runner.drawToken : Act σ UInt64).after w).bridge.journal := List.mem_cons_self
  rw [Act.after_bind_ok (show (Runner.drawToken : Act σ UInt64) w
    = .ok (w.bridge.lastToken + 1) ((Runner.drawToken : Act σ UInt64).after w) from rfl)]
  generalize (Runner.drawToken : Act σ UInt64).after w = w₁ at hdrawn hmem ⊢
  -- the token is still in the journal when its object is made
  refine steady.trans hdrawn (steady.bindAt (hm (w.bridge.lastToken + 1) w₁) fun a w₂ e => ?_)
  obtain ⟨es, hes⟩ := ((hm (w.bridge.lastToken + 1)).of_ok e).journal
  refine makeInstance classId proto ?_
  rw [hes]
  exact List.mem_append_right _ hmem

theorem sendMember {host : Host σ} {run : Runner σ} (hr : run.Obeys Upholds) (classId : Int32)
    (position : Nat) (route : MemberRoute) (this : Value) (args : List Value) :
    Act.Keeps Upholds (run.sendMember host classId position route this args) := by
  have hR : Upkeep (σ := σ) Upholds := upkeep
  exact fun w => hR.sendMember hr fun fixed w₁ _ _ =>
    callback hr .call fixed _ (fun r => hR.replyValue hr r) w₁

theorem callMember {host : Host σ} {run : Runner σ} (hr : run.Obeys Upholds) (classId : Int32)
    (position : Nat) (this : Value) (args : List Value) :
    Act.Keeps Upholds (run.callMember host classId position this args) := by
  refine Act.keeps_bridge fun w => ?_
  rcases w.bridge.classes.route? classId position with - | route
  · exact upkeep.throwFault hr _ w
  · have hasked : Upholds w { w with bridge := w.bridge.note (.asked classId position route this) } :=
      ⟨.noted (x := .asked classId position route this) rfl rfl rfl rfl, rfl⟩
    exact steady.trans hasked (sendMember hr classId position route this args _)

theorem hold {run : Runner σ} (hr : run.Obeys Upholds) (v : Value) : Act.Keeps Upholds (run.hold v) :=
  fun w => by
    have hheld : Upholds w (w.holding v) := ⟨.noted rfl rfl rfl rfl, rfl⟩
    rw [Act.after, hold_eq, ← Act.after]
    exact steady.trans hheld (hr.script _ _)

/-! ### Every run -/

theorem observer (host : Host σ) : Observer host (Upholds (σ := σ)) where
  toBackground := upkeep.toBackground
  engineAnswer w q := ⟨.aside [] (fun _ h => absurd h List.not_mem_nil) rfl rfl
    (Engine.endures_answer w.engine q) (Engine.stays_answer w.engine q).next, rfl⟩
  taskWritten w id t := ⟨.aside [] (fun _ h => absurd h List.not_mem_nil) rfl rfl
    (Engine.endures_writeTask w.engine id t) (Engine.stays_writeTask w.engine id t).next, rfl⟩
  taskKept _ _ := ⟨.aside [] (fun _ h => absurd h List.not_mem_nil) rfl rfl (.of_same rfl rfl)
    (Nat.le_refl _), rfl⟩
  rejection _ hr := upkeep.rejection hr reporting host
  tokenRefused _ _ := ⟨.noted rfl rfl rfl rfl, rfl⟩
  constructed := constructed
  memberCall _ hr := callMember hr
  callback _ hr _ c slots args _ _ _ _ hf := callback hr c slots args hf

/-- **Every operation of a context upholds what its objects show.** -/
theorem service (host : Host σ) : Service host (Upholds (σ := σ)) where
  toConduct := (observer host).conduct
  retained := upkeep.retained
  released := upkeep.released
  promised := upkeep.promised
  busy h := h.busy
  withholding _ hr _ _ := upkeep.withholding hr reporting host
  valueStaged _ _ _ := ⟨.noted rfl rfl rfl rfl, rfl⟩
  valueHeld _ _ _ := ⟨.noted rfl rfl rfl rfl, rfl⟩
  promiseTaken _ _ _ _ _ := ⟨.noted rfl rfl rfl rfl, rfl⟩
  hostMade w h proto members hh := by
    have hnone : (hostObject h proto members).token? = none := (token?_hostObject h proto members).trans hh
    exact ⟨⟨⟨[], rfl⟩, .allocateObj _ _, fun _ hs => hs.aside [] (fun _ h => absurd h List.not_mem_nil)
      rfl rfl (Engine.harmless_allocateObj w.engine hnone)⟩, rfl⟩
  functionWrapped := makeWrapped
  classAdded _ _ := ⟨.silent rfl rfl rfl, rfl⟩
  intrinsicsSet _ _ := ⟨.silent rfl rfl rfl, rfl⟩
  jobTaken _ _ := ⟨.aside [] (fun _ h => absurd h List.not_mem_nil) rfl rfl (.of_same rfl rfl)
    (Nat.le_refl _), rfl⟩
  cacheCleared _ := ⟨.silent rfl rfl rfl, rfl⟩
  collected _ := ⟨.swept (Engine.endures_collect _ _) (Engine.leaves_collect _ _).next, rfl⟩
  tablesReleased _ := ⟨.noted rfl rfl rfl rfl, rfl⟩
  noticesDelivered run hr n _ hb := by
    have dequeued : ∀ (w : World σ) ts,
        Upholds w { w with bridge := { w.bridge with finalized := ts } } :=
      fun _ _ => ⟨.silent rfl rfl rfl, rfl⟩
    have notice : ∀ t (w : World σ), w.busy = false → Upholds w
        (Act.after (run.callHost host .delete [.rawPointer t] [] fun _ => pure ()) w) :=
      fun t w _ => callback hr .delete [.rawPointer t] [] (fun _ => steady.pure ()) w
    have swept : ∀ w : World σ, Upholds w (Context.sweep w) :=
      fun _ => ⟨.swept (Engine.endures_release _ _) (Engine.leaves_release _ _).next, rfl⟩
    exact steady.deliverDue (fun h => h.busy)
      (fun _ hb => steady.deliverNext (fun h => h.busy) dequeued notice hb) swept n hb

end Upholds

/-- The objects of a reachable context show what they carry. -/
theorem Context.Reachable.sound {c : Context σ} (hc : c.Reachable) (hfew : c.world.Few) : c.world.Sound := by
  obtain ⟨s, memory, hupholds⟩ := hc.kept (Upholds.service c.host)
  exact hupholds.sound hfew (World.Sound.start s memory)

end ScriptBridge
