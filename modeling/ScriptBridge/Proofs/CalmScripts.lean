import ScriptBridge.Proofs.Running

/-!
Scripts that do not throw.

The text of a thrown value is made by script code of its own: the value is turned into a string and its
`stack` is read, and either may call functions of a script, which may throw in turn.  That is taken as an
answer, so the wording of a thrown value always comes to a text, unless it is interrupted.

Design.  A piece of a script has two ends, one for a value and one for what it throws.  `Continues` says
that it reaches one of them and does not throw past both; it is what a piece needs to stand under
`attempt`, of which `Ends` can then say that it only comes to a value.  Looking at an object may run
through proxies, whose handlers are objects again, so the operations on objects are taken together, by
induction on the length of the chain (`Operations`).
-/
namespace ScriptBridge

namespace Script

open Text Script

variable {ρ α β : Type}

/-! ### Programs and pieces -/

/-- Whatever the answers to its requests are, the program comes to a result that satisfies `D`, or throws
a value that satisfies `F`. -/
def Prog.Comes (D : ρ → Prop) (F : Value → Prop) : Prog ρ → Prop
  | .done a => D a
  | .fail v => F v
  | .ask _ k => ∀ a, (k a).Comes D F

/-- The program does not throw, whatever the answers to its requests are. -/
abbrev Prog.Calm : Prog ρ → Prop := Comes (fun _ => True) fun _ => False

theorem Prog.Comes.ensures {D : ρ → Prop} {F : Value → Prop} {p : Prog ρ} (hp : p.Comes D F) :
    p.Ensures D := by
  induction p with
  | done a => exact hp
  | fail v => trivial
  | ask q k ih => exact fun a => ih a (hp a)

namespace Script

/-- The piece goes on with a value or with what it throws. -/
def Continues (m : Script ρ α) : Prop :=
  ∀ (D : ρ → Prop) (F : Value → Prop) k e,
    (∀ a, (k a).Comes D F) → (∀ v, (e v).Comes D F) → (m k e).Comes D F

/-- The piece goes on with a value. -/
def Ends (m : Script ρ α) : Prop :=
  ∀ (D : ρ → Prop) (F : Value → Prop) k e, (∀ a, (k a).Comes D F) → (m k e).Comes D F

/-- The piece goes on with a value that satisfies `P`. -/
def EndsIn (P : α → Prop) (m : Script ρ α) : Prop :=
  ∀ (D : ρ → Prop) (F : Value → Prop) k e, (∀ a, P a → (k a).Comes D F) → (m k e).Comes D F

theorem Ends.calm {m : Script ρ ρ} (hm : m.Ends) : m.run.Calm := hm _ _ .done .fail fun _ => trivial

theorem EndsIn.ensures {P : ρ → Prop} {m : Script ρ ρ} (hm : m.EndsIn P) : m.run.Ensures P :=
  Prog.Comes.ensures (hm P (fun _ => True) .done .fail fun _ h => h)

theorem EndsIn.ends {P : α → Prop} {m : Script ρ α} (hm : m.EndsIn P) : m.Ends :=
  fun D F k e hk => hm D F k e fun a _ => hk a

theorem EndsIn.pure {P : α → Prop} {a : α} (ha : P a) : (Pure.pure a : Script ρ α).EndsIn P :=
  fun _ _ _ _ hk => hk a ha

/-- What a sequence ends in is what its last part ends in. -/
theorem EndsIn.bind {P : β → Prop} {m : Script ρ α} {f : α → Script ρ β} (hm : m.Ends)
    (hf : ∀ a, (f a).EndsIn P) : (m >>= f).EndsIn P := fun D F k e hk =>
  hm D F _ e fun a => hf a D F k e hk

namespace Continues

theorem pure (a : α) : (Pure.pure a : Script ρ α).Continues := fun _ _ _ _ hk _ => hk a

theorem throwValue (v : Value) : (Script.throwValue v : Script ρ α).Continues := fun _ _ _ _ _ he => he v

theorem request (q : Request) : (Script.request q : Script ρ q.Answer).Continues := fun _ _ _ _ hk _ => hk

theorem bind {m : Script ρ α} {f : α → Script ρ β} (hm : m.Continues) (hf : ∀ a, (f a).Continues) :
    (m >>= f).Continues := fun D F _ e hk he => hm D F _ e (fun a => hf a D F _ e hk he) he

theorem caught {m : Script ρ α} {f : Value → Script ρ α} (hm : m.Continues)
    (hf : ∀ v, (f v).Continues) : (tryCatch m f).Continues := fun D F k _ hk he =>
  hm D F k _ hk fun v => hf v D F k _ hk he

theorem orThrow (x : Except Value α) : (Script.orThrow x : Script ρ α).Continues := by
  cases x with
  | ok a => exact pure a
  | error v => exact throwValue v

/-- What may be thrown on the way is thrown before the rest. -/
theorem guarded {c : Prop} [Decidable c] {m : Script ρ Unit} {f : Unit → Script ρ β} (hm : m.Continues)
    (hf : (f ()).Continues) : (if c then m >>= f else f ()).Continues := by
  split
  · exact hm.bind fun _ => hf
  · exact hf

end Continues

namespace Ends

theorem pure (a : α) : (Pure.pure a : Script ρ α).Ends := fun _ _ _ _ hk => hk a

theorem request (q : Request) : (Script.request q : Script ρ q.Answer).Ends := fun _ _ _ _ hk => hk

theorem bind {m : Script ρ α} {f : α → Script ρ β} (hm : m.Ends) (hf : ∀ a, (f a).Ends) :
    (m >>= f).Ends := fun D F _ e hk => hm D F _ e fun a => hf a D F _ e hk

/-- An attempt comes to a value, which tells what was thrown. -/
theorem attempt {m : Script ρ α} (hm : m.Continues) : (Script.attempt m).Ends := fun D F _ _ hk =>
  hm D F _ _ (fun _ => hk _) fun _ => hk _

end Ends

/-! ### Errors and calls -/

namespace Continues

theorem throwUnits (c : ErrorClass) (message : Units) :
    (Script.throwUnits c message : Script ρ α).Continues :=
  bind (request _) fun _ => throwValue _

theorem throwType (message : String) : (Script.throwType message : Script ρ α).Continues := throwUnits _ _

theorem throwDeep : (Script.throwDeep : Script ρ α).Continues := throwUnits _ _

theorem inconsistent (what : String) : (Script.inconsistent what : Script ρ α).Continues := throwType _

theorem look (r : Ref) : (Script.look r : Script ρ Shape).Continues := request _

theorem call (f : Ref) (this : Value) (args : List Value) :
    (Script.call f this args : Script ρ Value).Continues :=
  bind (request _) fun _ => orThrow _

theorem callValue (f this : Value) (args : List Value) :
    (Script.callValue f this args : Script ρ Value).Continues := by
  cases f with
  | object r => exact call r this args
  | _ => exact throwType _

theorem isCallable (v : Value) : (Script.isCallable v : Script ρ Bool).Continues := by
  cases v with
  | object r => exact bind (look r) fun _ => pure _
  | _ => exact pure _

theorem virtualOwn (kind : Kind) (k : Key) :
    (Script.virtualOwn kind k : Script ρ (Option Property)).Continues := by
  unfold Script.virtualOwn
  split
  · split
    · exact pure _
    · exact pure _
  · split
    · split
      · exact pure _
      · refine bind (request _) fun v => ?_
        cases v with
        | some v => exact pure _
        | none => exact throwUnits _ _
    · exact pure _
  · exact pure _

end Continues

/-! ### Objects -/

/-- The operations that reading an object may come to, along chains of at most `n` objects. -/
structure Operations (ρ : Type) (n : Nat) : Prop where
  trap : ∀ p name, (Script.trap n p name : Script ρ _).Continues
  isExtensible : ∀ r, (Script.isExtensible n r : Script ρ _).Continues
  getOwn : ∀ r k, (Script.getOwn n r k : Script ρ _).Continues
  readChange : ∀ d, (Script.readChange n d : Script ρ _).Continues
  has : ∀ r k, (Script.has n r k : Script ρ _).Continues
  get : ∀ r k receiver, (Script.get n r k receiver : Script ρ _).Continues

namespace Operations

theorem zero : Operations ρ 0 where
  trap _ _ := .throwDeep
  isExtensible _ := .throwDeep
  getOwn _ _ := .throwDeep
  readChange _ := .throwDeep
  has _ _ := .throwDeep
  get _ _ _ := .throwDeep

section Step

variable {n : Nat} (h : Operations ρ n)

include h

theorem trap_succ (p : ProxyData) (name : String) :
    (Script.trap (n + 1) p name : Script ρ _).Continues := by
  rw [Script.trap]
  exact .guarded (.throwType _) (.bind (h.get _ _ _) fun _ => .pure _)

theorem isExtensible_succ (r : Ref) : (Script.isExtensible (n + 1) r : Script ρ _).Continues := by
  rw [Script.isExtensible]
  refine .bind (.look r) fun s => ?_
  split
  · refine .bind (h.trap _ _) fun (target, handler, f) => ?_
    cases f with
    | none => exact h.isExtensible _
    | some f =>
      refine .bind (.callValue _ _ _) fun v => .bind (h.isExtensible _) fun b => ?_
      exact .guarded (.inconsistent _) (.pure _)
  · exact .pure _
  · exact .pure _

theorem getOwn_succ (r : Ref) (k : Key) : (Script.getOwn (n + 1) r k : Script ρ _).Continues := by
  rw [Script.getOwn]
  refine .bind (.look r) fun s => ?_
  split
  -- a proxy asks its handler, and what that says is checked against the target
  · split
    · exact .request _
    · refine .bind (h.trap _ _) fun (target, handler, f) => ?_
      cases f with
      | none => exact h.getOwn _ _
      | some f =>
        refine .bind (.callValue _ _ _) fun v => ?_
        split
        · refine .bind (h.getOwn _ _) fun own => .bind (h.isExtensible _) fun open_ => ?_
          refine .bind (h.readChange _) fun c => ?_
          exact .guarded (.inconsistent _) (.pure _)
        · refine .bind (h.getOwn _ _) fun own => ?_
          cases own with
          | none => exact .pure _
          | some p =>
            refine .bind (.look _) fun s => ?_
            exact .guarded (.inconsistent _) (.pure _)
        · exact .inconsistent _
  · refine .bind (.virtualOwn _ _) fun own => ?_
    cases own with
    | some p => exact .pure _
    | none => exact .request _

theorem readChange_succ (d : Ref) : (Script.readChange (n + 1) d : Script ρ _).Continues := by
  have field : ∀ name, (do
      if ← Script.has n d (Key.ofString name) then
        return some (← Script.get n d (Key.ofString name) (.object d))
      else return none : Script ρ (Option Value)).Continues := by
    intro name
    refine .bind (h.has _ _) fun b => ?_
    split
    · exact .bind (h.get _ _ _) fun _ => .pure _
    · exact .pure _
  have accessor : ∀ name what, (do
      let k := Key.ofString name
      if !(← Script.has n d k) then return none
      let v ← try Script.get n d k (.object d) catch _ => Pure.pure .null
      if v.isUndefined then return some none
      if ← Script.isCallable v then return some v.object?
      Script.throwType (what ++ " must be a function") : Script ρ (Option (Option Ref))).Continues := by
    intro name what
    refine .bind (h.has _ _) fun b => ?_
    split
    · exact .pure _
    · refine .bind (.caught (h.get _ _ _) fun _ => .pure _) fun v => ?_
      split
      · exact .pure _
      · refine .bind (.isCallable _) fun b => ?_
        split
        · exact .pure _
        · exact .throwType _
  -- the descriptor's six fields are read one by one, the accessors last
  rw [Script.readChange]
  refine .bind (field _) fun _ => .bind (field _) fun _ => .bind (field _) fun _ => .bind (field _) fun _ => ?_
  refine .bind (accessor _ _) fun _ => .bind (accessor _ _) fun _ => ?_
  exact .guarded (.throwType _) (.pure _)

theorem has_succ (r : Ref) (k : Key) :
    (Script.has (n + 1) r k : Script ρ _).Continues := by
  rw [Script.has]
  refine .bind (.look r) fun s => ?_
  split
  · refine .bind (h.trap _ _) fun (target, handler, f) => ?_
    cases f with
    | none => exact h.has _ _
    | some f =>
      refine .bind (.callValue _ _ _) fun v => ?_
      split
      · exact .pure _
      · refine .bind (h.getOwn _ _) fun own => ?_
        cases own with
        | none => exact .pure _
        | some p =>
          refine .bind (.look _) fun s => ?_
          exact .guarded (.inconsistent _) (.pure _)
  · refine .bind (h.getOwn _ _) fun own => ?_
    split
    · exact .pure _
    · split
      · exact h.has _ _
      · exact .pure _

/-- The value of an own property, or that of the prototype's, one link less to go. -/
theorem ownOrInherited (proto : Option Ref) (k : Key) (receiver : Value) (own : Option Property) :
    (match own with
      | some (.data v _ _ _) => return v
      | some (.accessor g _ _ _) =>
        match g with
        | some g => Script.call g receiver []
        | none => return .undefined
      | some .pendingPrototype => return .undefined
      | none =>
        match proto with
        | some p => Script.get n p k receiver
        | none => return .undefined : Script ρ Value).Continues := by
  split
  · exact .pure _
  · split
    · exact .call _ _ _
    · exact .pure _
  · exact .pure _
  · split
    · exact h.get _ _ _
    · exact .pure _

theorem get_succ (r : Ref) (k : Key) (receiver : Value) :
    (Script.get (n + 1) r k receiver : Script ρ _).Continues := by
  rw [Script.get]
  refine .bind (.look r) fun s => ?_
  split
  · refine .bind (h.trap _ _) fun (target, handler, f) => ?_
    cases f with
    | none => exact h.get _ _ _
    | some f =>
      refine .bind (.callValue _ _ _) fun v => .bind (h.getOwn _ _) fun own => ?_
      cases own with
      | none => exact .pure _
      | some p =>
        show (if fixesOther p v then Script.inconsistent "get" else return v).Continues
        split
        · exact .inconsistent _
        · exact .pure _
  -- an ordinary object: what stands there, or else what stands in its place
  · refine .bind (.virtualOwn _ _) fun own => ?_
    cases own with
    | some p => exact .bind (.pure _) (h.ownOrInherited s.proto k receiver)
    | none => exact .bind (.request _) (h.ownOrInherited s.proto k receiver)

end Step

theorem all (n : Nat) : Operations ρ n := by
  induction n with
  | zero => exact zero
  | succ n ih => exact {
      trap := ih.trap_succ
      isExtensible := ih.isExtensible_succ
      getOwn := ih.getOwn_succ
      readChange := ih.readChange_succ
      has := ih.has_succ
      get := ih.get_succ }

end Operations

theorem Continues.getOf (r : Ref) (k : Key) : (r.get k : Script ρ Value).Continues :=
  (Operations.all chainLimit).get _ _ _

/-! ### Text -/

namespace Continues

theorem primitiveBy (r : Ref) (name : String) :
    (Script.primitiveBy r name : Script ρ (Option Value)).Continues := by
  refine bind (getOf r _) fun f => bind (isCallable f) fun b => ?_
  split
  · refine bind (callValue _ _ _) fun v => ?_
    split
    · exact pure _
    · exact pure _
  · exact pure _

/-- Two methods in the order of preference. -/
theorem primitiveByEither (r : Ref) (first second : String) : (do
    match ← Script.primitiveBy r first with
    | some v => return v
    | none =>
      match ← Script.primitiveBy r second with
      | some v => return v
      | none => Script.throwType "toPrimitive" : Script ρ Value).Continues := by
  refine bind (primitiveBy r _) fun v => ?_
  cases v with
  | some v => exact pure _
  | none =>
    refine bind (primitiveBy r _) fun v => ?_
    cases v with
    | some v => exact pure _
    | none => exact throwType _

theorem toPrimitive (p : Preference) (v : Value) :
    (Script.toPrimitive p v : Script ρ Value).Continues := by
  cases v with
  | object r =>
    refine bind (getOf r _) fun exotic => ?_
    simp only
    split
    · refine bind (callValue _ _ _) fun v => ?_
      split
      · exact bind (throwType _) fun _ => primitiveByEither r _ _
      · exact pure _
    · exact primitiveByEither r _ _
  | _ => exact pure _

theorem primitiveUnits (v : Value) : (Script.primitiveUnits v : Script ρ Units).Continues := by
  cases v with
  | symbol s => exact throwType _
  | _ => exact pure _

theorem toUnits (v : Value) : (Script.toUnits v : Script ρ Units).Continues := by
  cases v with
  | object r => exact bind (toPrimitive _ _) fun v => primitiveUnits v
  | symbol s => exact throwType _
  | _ => exact pure _

theorem isArray (v : Value) : (Script.isArray v : Script ρ Bool).Continues := by
  unfold Script.isArray
  generalize chainLimit = n
  induction n generalizing v with
  | zero => exact throwDeep
  | succ n ih =>
    cases v with
    | object r =>
      refine bind (bind (look r) fun s => ?_) fun p => ?_
      · split <;> exact pure _
      · split
        · exact pure _
        · exact guarded (throwType _) (ih _)
        · exact pure _
    | _ => exact pure _

end Continues

namespace Ends

theorem look (r : Ref) : (Script.look r : Script ρ Shape).Ends := request _

theorem isConstructor (v : Value) : (Script.isConstructor v : Script ρ Bool).Ends := by
  cases v with
  | object r =>
    show (isConstructorFrom chainLimit r).Ends
    generalize chainLimit = n
    induction n generalizing r with
    | zero => exact pure _
    | succ n ih =>
      refine bind (look r) fun s => ?_
      split
      · exact ih _
      · exact pure _
  | _ => exact pure _

theorem shownType (v : Value) : (ScriptBridge.shownType v : Script ρ String).Ends := by
  cases v with
  | object r =>
    refine bind (attempt (.isArray _)) fun isArray => ?_
    split
    · exact pure _
    · refine bind (isConstructor _) fun constructs => ?_
      split
      · exact pure _
      · refine bind (look r) fun s => ?_
        split <;> exact pure _
  | _ => exact pure _

/-- What is told of a value, with its stack if it has one. -/
theorem wordedWith (text : String) (stack : Option String) : (match stack with
    | some s => return text ++ "\n" ++ s ++ "\n"
    | none => return text ++ "\n" : Script ρ String).EndsIn fun t => ∃ text, t = text ++ "\n" := by
  cases stack <;> exact .pure ⟨_, rfl⟩

/-- **The wording of a thrown value does not throw**, and ends its last line. -/
theorem worded (v : Value) : (ScriptBridge.renderThrown v : Script ρ String).EndsIn
    fun t => ∃ text, t = text ++ "\n" := by
  unfold ScriptBridge.renderThrown
  refine .bind (attempt (.toUnits v)) fun u => ?_
  extract_lets withText
  -- once there is a text for the value, its stack is read, which fails in silence
  have stacked : ∀ text, (withText text).EndsIn fun t => ∃ text, t = text ++ "\n" := by
    intro text
    cases v with
    | object r =>
      refine .bind (attempt (.getOf r _)) fun s => ?_
      cases s with
      | error e => exact wordedWith text none
      | ok s =>
        show (if s.isNullish then _ else _ : Script ρ String).EndsIn _
        split
        · exact wordedWith text none
        · refine .bind (attempt (.toUnits s)) fun u => ?_
          cases u with
          | error e => exact wordedWith text none
          | ok u => exact wordedWith text _
    | _ => exact wordedWith text none
  have typed : ∀ f : String → String, (do
      let type ← ScriptBridge.shownType v
      withText (f type) : Script ρ String).EndsIn fun t => ∃ text, t = text ++ "\n" :=
    fun f => .bind (shownType v) fun _ => stacked _
  split
  · split
    · exact stacked _
    · exact typed _
  · exact typed _

theorem renderThrown (v : Value) : (ScriptBridge.renderThrown v : Script ρ String).Ends := (worded v).ends

/-! ### Classification -/

theorem marker (r : Ref) (k : Key) : (ScriptBridge.marker r k : Script ρ (Option Float)).Ends := by
  unfold ScriptBridge.marker
  refine bind (attempt ((Operations.all chainLimit).has r k)) fun found => ?_
  split
  · refine bind (attempt (.getOf r k)) fun v => ?_
    cases v <;> exact pure _
  · exact pure _

theorem classify (h : Handle) (v : Value) : (ScriptBridge.classify h v : Script ρ Slot).Ends := by
  cases v with
  | object r =>
    refine bind (marker r targetKey) fun token => ?_
    cases token with
    | some x => exact pure _
    | none =>
      refine bind (marker r classKey) fun classId => ?_
      cases classId <;> exact pure _
  | _ => exact pure _

end Ends

end Script

end Script

open Script Script.Script

/-- Is the value a string? -/
def Script.Value.isText : Value → Bool
  | .string .. => true
  | _ => false

/-- **A value is classified under its own handle, as a string just when it is one.** -/
theorem ensures_classify (h : Handle) (v : Value) : (classify h v : Script Slot Slot).run.Ensures fun s =>
    s.handle? = some h ∧ s.isString = v.isText := by
  cases v with
  | object r =>
    refine EndsIn.ensures (.bind (.marker r targetKey) fun token => ?_)
    cases token with
    | some x => exact .pure ⟨rfl, rfl⟩
    | none =>
      refine .bind (.marker r classKey) fun classId => ?_
      cases classId <;> exact .pure ⟨rfl, rfl⟩
  | _ => exact ⟨rfl, rfl⟩

/-! ### Runs -/

variable {σ ρ : Type}

/-- A calm program is not run to an end by throwing, by induction on the number of steps. -/
theorem Machine.run_calm (host : Host σ) (steps depth : Nat) {p : Prog ρ} (hp : p.Calm)
    (w w' : World σ) (v : Value) : Machine.run host steps depth p w ≠ (.threw v, w') := by
  induction steps generalizing depth p w with
  | zero => rintro ⟨⟩
  | succ n ih =>
    unfold Machine.run
    split
    · rintro ⟨⟩
    · exact hp.elim
    · rintro ⟨⟩
    · split
      · exact ih depth (hp _) _
      · rintro ⟨⟩

/-- A piece that comes to a value ends early only when it is interrupted. -/
theorem Machine.script_finishes (host : Host σ) (steps depth : Nat) {m : Script ρ ρ} (hm : m.Ends) :
    Act.Finishes ((Machine.runner host steps depth).script m : Act σ ρ) := by
  intro w e w' h
  rcases hrun : (Machine.runner host steps depth).run m.run w with ⟨f, w''⟩
  rw [Runner.script, Runner.exec, hrun] at h
  cases f with
  | threw v => exact absurd hrun (run_calm host steps depth hm.calm w w'' v)
  | done a => cases h
  | suspended v p k =>
    cases h
    rfl
  | interrupted =>
    cases h
    rfl

/-- A runner that throws nothing into a piece that comes to a value. -/
def Runner.Calm (run : Runner σ) : Prop :=
  ∀ {ρ : Type} {m : Script ρ ρ}, m.Ends → Act.Finishes (run.script m : Act σ ρ)

theorem Machine.runner_calm (host : Host σ) (steps depth : Nat) : (runner host steps depth).Calm :=
  fun hm => script_finishes host steps depth hm

end ScriptBridge
