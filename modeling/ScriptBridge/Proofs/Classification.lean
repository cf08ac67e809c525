import ScriptBridge.Proofs.Chains
import ScriptBridge.Proofs.ClassObjects
import ScriptBridge.Proofs.ClassTables
import ScriptBridge.Proofs.TruthfulSlots

/-!
What objects are taken for.

An object is known to the host by two numbers that it shows, each read along its chain of prototypes:

    classify h (.object r)  =  .hostObject t h    if the first `_$tar` of the chain is the number t
                            =  .hostClass k h     otherwise, if the first `_$class` of the chain is k
                            =  .managed h         otherwise

An instance, a wrapped function and a registered constructor have theirs in a property of their own that
stays what it is, so at every moment an instance and a wrapped function are taken for what they are, and a
constructor is unless its chain shows it a token.  Nothing else keeps an object from showing a number: a
script's own object is taken for whatever it says.

Design.  `Unfolds` are the worlds that a context can be found in, in the middle of an operation, a script or
a callback.  What is claimed of them follows from `Honors`, which every step on the way bears.
-/
namespace ScriptBridge

open Data Text Script Script.Script Runner

variable {σ α : Type}

/-! ### Brands -/

/-- The object was given out, and as long as it is one of the host's side it is the constructor of the class and
shows the number of the class. -/
def Script.Engine.Brands (e : Engine) (r : Ref) (k : Int32) : Prop :=
  e.Known r ∧ ∀ d, (e.obj r).kind = .host d → d = .constructor k ∧
    ∃ p, (e.obj r).find? classKey = some p ∧ p.Fixes (Number.Rounds k)

namespace Script.Engine

variable {e e' : Engine} {r : Ref} {k : Int32}

theorem Brands.persists (h : e.Brands r k) (hp : Persists e e') : e'.Brands r k := by
  refine ⟨hp.known h.1, fun d hd => ?_⟩
  obtain ⟨hbefore, hshown⟩ := hp.endures r h.1 d hd
  obtain ⟨hkind, hfixed⟩ := h.2 d hbefore
  exact ⟨hkind, hshown classKey _ (Number.Rounds.common k) hfixed⟩

end Script.Engine

/-- A class begins with its number on the constructor. -/
theorem Bare.brands {d : ClassDescriptor} {k : Int32} {e e' : Engine} {c p : Ref} (h : Bare d k e e' c p) :
    e'.Brands c k := by
  refine ⟨h.bearsConstructor.known, fun host hhost => ⟨?_, .fixed (.int k), ?_, ?_⟩⟩
  · exact (Kind.host.inj (h.kind.symm.trans hhost)).symm
  · rw [h.ownConstructor, bareConstructor, if_pos rfl]
  · exact ⟨.int k, false, rfl, _, rfl, Number.rounds_ofInt k⟩

/-- It is still there when the class is shown. -/
theorem Machine.showClass_brands {host : Host σ} {steps depth : Nat} {d : ClassDescriptor} {k : Int32}
    {shown : Ref × Ref} {w w' : World σ}
    (h : (Machine.runner host steps depth).showClass d k w = .ok shown w') : w'.engine.Brands shown.1 k := by
  have hR : Attendance host (Upholds (σ := σ)) := (Upholds.service host).toAttendance
  have hr : (Machine.runner host steps depth).Obeys (Upholds (σ := σ)) := hR.toConduct.runner steps depth
  obtain ⟨bare, w₂, hfurnished, h⟩ := Act.of_bind_ok h
  rw [furnishClass_eq] at hfurnished
  obtain ⟨bare', w₁, hbare, hfurnished⟩ := Act.of_bind_ok hfurnished
  obtain ⟨_, w₃, hmembers, hfurnished⟩ := Act.of_bind_ok hfurnished
  cases hfurnished
  obtain ⟨_, w₄, hset, h⟩ := Act.of_bind_ok h
  cases h
  have hbegun := ((Machine.bareClass_builds d k).result hbare).brands
  have hmade := hbegun.persists ((hR.installMembers hr d k _).of_ok hmembers).persists
  exact hmade.persists ((hr.script _).of_ok hset).persists

/-- The constructors in the table show the numbers of their classes. -/
def World.Branded (w : World σ) : Prop :=
  ∀ x ∈ w.bridge.classes, ∃ r, x.2.constructor = .object r ∧ w.engine.Brands r x.1

namespace World.Branded

variable {w w' : World σ}

theorem kept (h : w.Branded) (hp : Engine.Persists w.engine w'.engine)
    (hclasses : w'.bridge.classes = w.bridge.classes) : w'.Branded := by
  intro x hx
  rw [hclasses] at hx
  obtain ⟨r, hr, hbrand⟩ := h x hx
  exact ⟨r, hr, hbrand.persists hp⟩

/-- A registration enters a constructor that shows the number, or none. -/
theorem registered {host : Host σ} (steps depth : Nat) (d : ClassDescriptor) (k : Int32) (h : w.Branded) :
    (((Machine.runner host steps depth).registerClass d k).after w).Branded := by
  have hU : Attendance host (Upholds (σ := σ)) := (Upholds.service host).toAttendance
  have hT : Attendance host (SameTables (σ := σ)) := (SameTables.usage host).toAttendance
  have hu := hU.toConduct.runner steps depth
  have ht := hT.toConduct.runner steps depth
  rcases hfree : w.bridge.classes.lookup k with - | e
  · rw [Act.after, registerClass_free _ d k hfree]
    have hshown := hU.showClass hu d k w
    have htables := hT.showClass ht d k w
    rcases hs : (Machine.runner host steps depth).showClass d k w with ⟨shown, w₁⟩ | ⟨f, w₁⟩
    · rw [Act.after_ok hs] at hshown htables
      have hbrands := Machine.showClass_brands hs
      have hentered : (w₁.enrolling (classEntry d k shown)).Branded := by
        intro x hx
        rcases List.mem_append.mp hx with hx | hx
        · exact h.kept hshown.persists htables.classes x hx
        · cases List.mem_singleton.mp hx
          exact ⟨shown.1, rfl, hbrands⟩
      rw [Act.bind_ok hs]
      exact hentered.kept (Upholds.hold hu _ _).persists (SameTables.hold ht _ _).classes
    · rw [Act.after_error hs] at hshown htables
      rw [Act.bind_error hs]
      exact h.kept hshown.persists htables.classes
  · have htaken := (Machine.runner host steps depth).registerClass_taken d k (by rw [hfree]; rfl)
    rw [Act.after_error htaken]
    exact h

end World.Branded

/-- A context that has not ended has constructors that show the numbers of their classes. -/
theorem Context.Declared.branded {s : Setup} {c : Context σ} {ds : List (Int32 × ClassDescriptor)}
    (hc : c.Declared s ds) : c.world.Branded := by
  induction hc with
  | @created host limits memory c h =>
    have hT : Attendance (blank host limits s memory).host (SameTables (σ := σ)) :=
      (SameTables.usage host).toAttendance
    have hinstalled : SameTables (emptyWorld s memory) c.world := by
      rw [create_ok h]
      exact Attendance.performed (hT.install _ hT.runner)
    intro x hx
    rw [hinstalled.classes] at hx
    cases hx
  | @step c ds op hopen hc ih =>
    by_cases hop : op.enrols = true
    · cases op with
      | registerClass d k =>
        have hU : Attendance c.host (Upholds (σ := σ)) := (Upholds.service c.host).toAttendance
        have hT : Attendance c.host (SameTables (σ := σ)) := (SameTables.usage c.host).toAttendance
        have hregistered := @World.Branded.registered _ _ c.host c.limits.steps c.limits.depth d k ih
        show (c.registerClass d k).2.world.Branded
        rw [registerClass, perform_world]
        exact hregistered.kept (hU.settled hU.runner _ _).persists (hT.settled hT.runner _ _).classes
      | _ => cases hop
    · have hb := hc.table.1
      have hsame := SameTables.operation hb hopen (Bool.not_eq_true _ ▸ hop)
      exact ih.kept ((Upholds.service c.host).operation hb op).persists hsame.classes

/-! ### Moments -/

/-- The worlds that the bridge goes through from this one on: a script runs for a while, a callback begins, the
host asks for something or replies, a value gets a handle. -/
inductive Unfolds (host : Host σ) (w : World σ) : World σ → Prop where
  | now : Unfolds host w w
  | ran {w' : World σ} (steps depth : Nat) {ρ : Type} (p : Prog ρ) :
      Unfolds host w w' → Unfolds host w (Machine.run host steps depth p w').2
  | entered {w' : World σ} (c : Callback) (slots : List Slot) (args : List Value) :
      Unfolds host w w' → Unfolds host w (entering c slots (openFrame args w').2)
  | answered {w' : World σ} (steps depth : Nat) (q : ScopeRequest) : Unfolds host w w' →
      Unfolds host w (((Machine.runner host steps depth).answerScope q).after w')
  | booked {w' : World σ} (l : Ledger Value) {x : Occurrence} : x.drawn? = none → Unfolds host w w' →
      Unfolds host w { w' with bridge := { w'.bridge with ledger := l }.note x }

namespace Unfolds

variable {host : Host σ} {w w' : World σ}

theorem trans {w'' : World σ} (h : Unfolds host w w') (h' : Unfolds host w' w'') : Unfolds host w w'' := by
  induction h' with
  | now => exact h
  | ran steps depth p _ ih => exact ih.ran steps depth p
  | entered c slots args _ ih => exact ih.entered c slots args
  | answered steps depth q _ ih => exact ih.answered steps depth q
  | booked l hx _ ih => exact ih.booked l hx

theorem honors (h : Unfolds host w w') : Honors w w' := by
  have hU : Attendance host (Upholds (σ := σ)) := (Upholds.service host).toAttendance
  induction h with
  | now => exact .refl w
  | ran steps depth p _ ih => exact ih.trans ((hU.toConduct.runner steps depth).keeps p _).toHonors
  | entered c slots args _ ih => exact (ih.trans (.opened args _)).trans (.entered c slots _)
  | answered steps depth q _ ih =>
    exact ih.trans (hU.toUpkeep.answerScope (hU.toConduct.runner steps depth) q _).toHonors
  | booked l hx _ ih => exact ih.trans (.noted hx rfl rfl rfl)

/-- No class is entered, and none is taken out. -/
theorem classes (h : Unfolds host w w') : w'.bridge.classes = w.bridge.classes := by
  have hT : Attendance host (SameTables (σ := σ)) := (SameTables.usage host).toAttendance
  induction h with
  | now => rfl
  | ran steps depth p _ ih => exact ((hT.toConduct.runner steps depth).keeps p _).classes.trans ih
  | entered c slots args _ ih => exact (SameTables.opened args _).classes.trans ih
  | answered steps depth q _ ih =>
    exact (hT.toUpkeep.answerScope (hT.toConduct.runner steps depth) q _).classes.trans ih
  | booked l hx _ ih => exact ih

/-- A script that has come to a result. -/
theorem script (h : Unfolds host w w') {steps depth : Nat} {ρ : Type} {m : Script ρ ρ} {a : ρ} {w'' : World σ}
    (hm : (Machine.runner host steps depth).script m w' = .ok a w'') : Unfolds host w w'' := by
  have hran := h.ran steps depth m.run
  have hafter : ((Machine.runner host steps depth).script m).after w'
      = (Machine.run host steps depth m.run w').2 := by
    show Act.after ((Machine.runner host steps depth).exec m.run) w' = _
    rcases e : Machine.run host steps depth m.run w' with ⟨f, w₁⟩
    cases f <;> simp [Act.after, Runner.exec, Machine.runner, e]
  rw [Act.after_ok hm] at hafter
  exact hafter ▸ hran

end Unfolds

/-! ### Recognition -/

/-- Classification of the object comes to this slot and changes nothing, unless the steps do not suffice. -/
def Runner.TakesFor (run : Runner σ) (w : World σ) (r : Ref) (s : Handle → Slot) : Prop :=
  ∀ h, run.script (classify h (.object r)) w = .error .interrupted w ∨
    run.script (classify h (.object r)) w = .ok (s h) w

/-- What objects are taken for in a world. -/
structure World.Recognizes (run : Runner σ) (w : World σ) : Prop where
  /-- an instance or a wrapped function, for its own token -/
  carriers : ∀ {r d t}, (w.engine.obj r).kind = .host d → d.token? = some t →
    run.TakesFor w r (.hostObject t ·)
  /-- a registered constructor, for its own class, unless its chain shows a token -/
  constructors : ∀ x ∈ w.bridge.classes, ∃ r, x.2.constructor = .object r ∧
    ∀ {d}, (w.engine.obj r).kind = .host d → d = .constructor x.1 ∧
      ∀ {n target}, w.engine.Finds targetKey n r target → n < chainLimit → run.TakesFor w r fun h =>
        match target.bind Value.float? with
        | some y => .hostObject (Number.saturatingUInt64 y) h
        | none => .hostClass x.1 h
  /-- every object, for what its chain shows -/
  chains : ∀ {r n m target brand}, w.engine.Finds targetKey n r target → n < chainLimit →
    (target.bind Value.float? = none → w.engine.Finds classKey m r brand) → m < chainLimit →
      run.TakesFor w r (slotOf · target brand)
  /-- which is what some object of the chain has for its own -/
  owners : ∀ {r n k v}, w.engine.Finds k n r (some v) →
    ∃ q wr en co, w.engine.Inherits r q ∧ w.engine.own q k = (some (.data v wr en co), w.engine)

/-- **What an object is taken for in a sound world.** -/
theorem World.Sound.recognizes {w : World σ} (hs : w.Sound) (hfew : w.Few) (hb : w.Branded)
    {R : World σ → World σ → Prop} {run : Runner σ} (hr : run.Obeys R) : w.Recognizes run where
  carriers {r d t} hkind ht h := by
    have hcarries : w.engine.Carries r t := Engine.carries_iff.mpr ⟨d, hkind, ht⟩
    obtain ⟨hpos, hsmall⟩ := hs.small hfew hcarries
    exact classify_carrier hr h hkind ht (hs.carriers hcarries).1 hpos hsmall
  constructors x hx := by
    obtain ⟨r, hconstructor, -, hbrand⟩ := hb x hx
    refine ⟨r, hconstructor, fun {d} hkind => ?_⟩
    obtain ⟨hd, p, hp, hfixed⟩ := hbrand d hkind
    refine ⟨hd, fun {n target} htarget hn h => ?_⟩
    -- its own number comes first on the chain
    obtain ⟨v, ⟨y, hy, hrounds⟩, hfinds⟩ := Engine.Finds.fixed hkind hp hfixed
    have hsees := hr.script_sees (sees_classify h htarget hn (fun _ => hfinds) (by decide))
    rw [slotOf, Option.bind_some, hy] at hsees
    simp only [hrounds.1] at hsees
    exact hsees
  chains htarget hn hbrand hm h := hr.script_sees (sees_classify h htarget hn hbrand hm)
  owners h := h.owner rfl

/-- The token that an answer names, with the handle. -/
def Answer.token? (a : Answer Slot) : Option (UInt64 × Handle) :=
  match a with
  | .ok (.hostObject t h) => some (t, h)
  | _ => none

theorem Answer.of_token? {a : Answer Slot} {t : UInt64} {h : Handle} (ha : a.token? = some (t, h)) :
    a = .ok (.hostObject t h) := by
  unfold token? at ha
  split at ha
  · cases ha
    rfl
  · cases ha

namespace Context

/-- What a context takes objects for, at any moment, and what it tells the host of them. -/
structure Classifies (c : Context σ) (run : Runner σ) : Prop where
  recognizes : ∀ {w}, Unfolds c.host c.world w → w.Few → w.Recognizes run
  /-- a slot that is retained, by the context or in a callback, is what its value is taken for -/
  retained : ∀ {w s₀ s w'}, Unfolds c.host c.world w → run.retain s₀ w = .ok s w' → w'.Few →
    ∃ g v w₁, s₀.handle? = some g ∧ w.bridge.ledger.get g = .ok v ∧ w₁.engine = w.engine ∧
      w₁.Recognizes run ∧ run.script (classify g v) w₁ = .ok s w'
  /-- a slot that is bound is what the object of its construction is taken for -/
  bound : ∀ {w args s w'}, Unfolds c.host c.world w → Dispatch.bind run args w = .ok s w' → w'.Few →
    ∃ target rest f i r g w₀ w₁ w₂, args = target :: rest ∧ w.bridge.object target = .ok f ∧
      w₀.bridge.intrinsics = some i ∧ run.script (construct f [i.sentinel] f) w₀ = .ok (.object r) w₁ ∧
      w₂.Recognizes run ∧ run.script (classify g (.object r)) w₂ = .ok s w'

/-- The value of a bound slot has been constructed, and is then classified. -/
theorem of_bind_ok {host : Host σ} {steps depth : Nat} {args : List Slot} {s : Slot} {w w' : World σ}
    (h : Dispatch.bind (Machine.runner host steps depth) args w = .ok s w') :
    ∃ target rest f i r g w₀ w₁ w₂, args = target :: rest ∧ w.bridge.object target = .ok f ∧
      w₀.bridge.intrinsics = some i ∧
      (Machine.runner host steps depth).script (construct f [i.sentinel] f) w₀ = .ok (.object r) w₁ ∧
      Unfolds host w w₂ ∧
      (Machine.runner host steps depth).script (classify g (.object r)) w₂ = .ok s w' := by
  cases args with
  | nil => cases h
  | cons target rest =>
    obtain ⟨f, w₁, hobject, h⟩ := Act.of_bind_ok h
    obtain ⟨b, w₂, hbridge, hobject⟩ := Act.of_bind_ok hobject
    cases hbridge
    have hf := Dispatch.orFault_ok hobject
    rw [hf] at hobject
    cases hobject
    obtain ⟨constructs, w₂, hconstructor, h⟩ := Act.of_bind_ok h
    have u₂ : Unfolds host w w₂ := Unfolds.now.script hconstructor
    cases constructs with
    | false => cases h
    | true =>
      obtain ⟨b, w₃, hbridge, h⟩ := Act.of_bind_ok h
      cases hbridge
      rcases hi : w₂.bridge.intrinsics with - | i
      · rw [hi] at h
        cases h
      · rw [hi] at h
        obtain ⟨v, w₄, hconstruct, h⟩ := Act.of_bind_ok h
        have u₄ := u₂.script hconstruct
        obtain ⟨shows, w₅, hshows, h⟩ := Act.of_bind_ok h
        cases shows with
        | false => cases h
        | true =>
          cases v with
          | object r =>
            obtain ⟨x, w₆, hmarker, hshows⟩ := Act.of_bind_ok hshows
            injection hshows with _ hsame
            subst hsame
            have u₅ := u₄.script hmarker
            have hstaged : Unfolds host w (w₆.staging (.object r)) :=
              u₅.booked (w₆.bridge.ledger.stage (.object r)).2
                (x := .issued (w₆.bridge.ledger.stage (.object r)).1) rfl
            exact ⟨target, rest, f, i, r, _, w₂, w₄, _, rfl, hf, hi, hconstruct, hstaged, h⟩
          | _ => cases hshows

/-- **What a context takes objects for.**  At every moment, whatever scripts have run:

1. an instance and a wrapped function are taken for their own tokens;
2. a registered constructor is taken for its own class, unless its chain shows a token;
3. any other object is taken for what its chain shows, its token first;

and the slots that are retained or bound are what their values are taken for. -/
theorem Declared.classification {s : Setup} {c : Context σ} {ds : List (Int32 × ClassDescriptor)}
    (hc : c.Declared s ds) (steps depth : Nat) : c.Classifies (Machine.runner c.host steps depth) := by
  have hU : Attendance c.host (Upholds (σ := σ)) := (Upholds.service c.host).toAttendance
  have hr := hU.toConduct.runner steps depth
  have hall : ∀ {w}, Unfolds c.host c.world w → w.Few →
      w.Recognizes (Machine.runner c.host steps depth) := by
    intro w hw hfew
    have hhonors := hw.honors
    have hsound := hhonors.sound hfew (hc.reachable.sound (hhonors.few hfew))
    exact hsound.recognizes hfew (hc.branded.kept hhonors.persists hw.classes) hr
  refine ⟨hall, fun {w s₀ s w'} hw h hfew => ?_, fun {w args s w'} hw h hfew => ?_⟩
  · obtain ⟨g, v, l, hhandle, hget, -, hscript⟩ := of_retain_ok h
    have hbefore := ((hr.script _).of_ok hscript).few hfew
    have hrecognizes := hall (hw.booked l (x := .retained g) rfl) hbefore
    exact ⟨g, v, _, hhandle, hget, by rfl, hrecognizes, hscript⟩
  · obtain ⟨target, rest, f, i, r, g, w₀, w₁, w₂, hargs, hobject, hi, hconstruct, hw₂, hscript⟩ := of_bind_ok h
    have hbefore := ((hr.script _).of_ok hscript).few hfew
    have hrecognizes := hall (hw.trans hw₂) hbefore
    exact ⟨target, rest, f, i, r, g, w₀, w₁, w₂, hargs, hobject, hi, hconstruct, hrecognizes, hscript⟩

/-- The instance that was bound is taken for its token. -/
theorem Declared.classification_binding :
    binding.Declared ⟨8, false, none⟩ [(7, ⟨"Counter", [⟨"add", .function⟩]⟩)] ∧
    ∃ d, (binding.world.engine.obj (.made 9)).kind = .host d ∧ d.token? = some 1 ∧
      (Machine.runner binding.host 400 5).TakesFor binding.world (.made 9) (.hostObject 1 ·) := by
  obtain ⟨hcarries, hfew⟩ : (binding.world.engine.obj (.made 9)).token? = some 1 ∧
      (draws binding.world.bridge.journal).length < 2 ^ 53 := by decide +kernel
  obtain ⟨d, hd, ht⟩ := Engine.carries_iff.mp hcarries
  exact ⟨binding_declared, d, hd, ht, ((binding_declared.classification 400 5).recognizes .now hfew).carriers hd ht⟩

/-- A script has made an object that says that its token is 5. -/
def forging : Context Unit := spacious.apply (.tryDispatch .eval [.text "(\x7b_$tar: 5\x7d)", .text "a"])

/-- **A script forges an object of the host's side**: the token is one that was never drawn, and no object
carries it. -/
theorem forging_retained : forging.Declared ⟨8, false, none⟩ [] ∧
    (forging.retain (.scriptValue ⟨1⟩)).1 = .ok (.hostObject 5 ⟨1⟩) ∧
    .drawn 5 ∉ forging.world.bridge.journal ∧ ∀ r, ¬ forging.world.engine.Carries r 5 := by
  have hdeclared : forging.Declared ⟨8, false, none⟩ [] :=
    spacious_declared.declaring (.tryDispatch .eval [.text "(\x7b_$tar: 5\x7d)", .text "a"]) nofun rfl
  obtain ⟨hdraws, htoken⟩ : draws forging.world.bridge.journal = [] ∧
      Answer.token? (forging.retain (.scriptValue ⟨1⟩)).1 = some (5, ⟨1⟩) := by decide +kernel
  have hundrawn : .drawn 5 ∉ forging.world.bridge.journal := fun h => by
    have hmem := mem_draws.mpr h
    rw [hdraws] at hmem
    cases hmem
  have hsound := hdeclared.reachable.sound (show (draws _).length < 2 ^ 53 by rw [hdraws]; decide)
  exact ⟨hdeclared, Answer.of_token? htoken, hundrawn, fun r hr => hundrawn (hsound.carriers hr).2⟩

end Context

end ScriptBridge
