import ScriptBridge.Proofs.Classification
import ScriptBridge.Proofs.ClassMembers

/-!
Registrations as a whole.

A registration furnishes a class, assigns its constructor to a global, enters the class, and has the host hold the
constructor:

    registerClass d k  =  furnishClass d k  ;  globalObject.setNamed d.name  ;  enrolClass  ;  hold

The class is what its descriptor says when it is furnished (`Engine.Embodies`).  The assignment is one as scripts make
it, so where a script has put a setter under the name, the setter sees the class first and may change it
(`Context.meddled_registration`); and `hold` looks for a token on the constructor.  Where neither meets an accessor
(`Engine.Undisturbed`), the class is what its descriptor says when the registration is over, and beside the heap
nothing has changed but the table, and the handle for the host.

A registration that fails has entered nothing.  Until the assignment it has changed nothing but the heap, and the
assignment changes no more than that unless something of a script answers it.
-/
namespace ScriptBridge

open Data Text Script Script.Script Script.Engine Runner

variable {σ : Type} {host : Host σ} {steps depth : Nat} {w w' : World σ} {e e' : Engine} {classId : Int32}
  {c p r : Ref} {d : ClassDescriptor}

/-! ### Classes that are what their descriptors say -/

/-- Constructor and prototype have what the descriptor says under every name, and nothing else but what they began
with. -/
structure Script.Engine.Embodies (e : Engine) (d : ClassDescriptor) (classId : Int32) (c p : Ref) : Prop where
  kind : (e.obj c).kind = .host (.constructor classId)
  kindPrototype : (e.obj p).kind = .script .ordinary
  members : ∀ b name, (d.entries b name).Describes e classId (bareProperty d classId c p b (Key.ofString name))
    ((e.obj (holder c p b)).find? (Key.ofString name))
  other : ∀ b k, (∀ name, k ≠ Key.ofString name) →
    (e.obj (holder c p b)).find? k = bareProperty d classId c p b k

theorem Furnished.embodies {e₀ : Engine} (h : Furnished d classId e₀ e c p d.entries) : e.Embodies d classId c p :=
  ⟨h.kind, h.kindPrototype, h.describes, h.other⟩

/-- Where a method is missing, the class is not what its descriptor says. -/
theorem Script.Engine.not_embodies_of_absent {b : Bool} {name : String} {n : Nat}
    (hn : d.entries b name = ⟨some n, none, none⟩)
    (habsent : ((e.obj (holder c p b)).find? (Key.ofString name)).isNone = true) : ¬ e.Embodies d classId c p := by
  intro h
  have hm := h.members b name
  rw [hn, Entries.Describes, if_neg (by simp)] at hm
  obtain ⟨f, hf, -⟩ := hm
  cases (Option.isNone_iff_eq_none.mp habsent).symm.trans hf

/-- Built-in objects are none of a class. -/
theorem Furnished.ne_builtin {e₀ : Engine} {t : EntryTable} (h : Furnished d classId e₀ e c p t) (b : Bool)
    (x : Builtin) : holder c p b ≠ .builtin x := by
  intro heq
  cases b with
  | true =>
    cases (show c = .builtin x from heq)
    exact h.newConstructor nofun
  | false =>
    cases (show p = .builtin x from heq)
    exact h.newPrototype nofun

theorem Script.Engine.IsMember.putValue {n : Nat} {f : Ref} (h : e.IsMember classId n f) (r : Ref) (k : Key)
    (v : Value) (wr en co : Bool) : (e.putValue r k v wr en co).IsMember classId n f :=
  ⟨known_putValue e r k v wr en co h.known, (rest_putValue e r f k v wr en co).1.trans h.kind⟩

/-- A value that is put elsewhere does not matter. -/
theorem Script.Engine.Embodies.putValue (h : e.Embodies d classId c p) (hr : ∀ b, holder c p b ≠ r) (k : Key)
    (v : Value) (wr en co : Bool) : (e.putValue r k v wr en co).Embodies d classId c p := by
  have same : ∀ b, (e.putValue r k v wr en co).obj (holder c p b) = e.obj (holder c p b) := fun b =>
    obj_setObj_other e _ (hr b)
  refine ⟨(congrArg Obj.kind (same true)).trans h.kind, (congrArg Obj.kind (same false)).trans h.kindPrototype,
    fun b name => ?_, fun b k hk => ?_⟩
  · rw [same]
    exact (h.members b name).mono fun n f hf => hf.putValue r k v wr en co
  · rw [same]
    exact h.other b k hk

/-! ### Classes that are shown undisturbed -/

/-- Nothing is called while the class is assigned to its global and looked at. -/
structure Script.Engine.Undisturbed (e : Engine) (d : ClassDescriptor) : Prop where
  shown : e.Quiet (Key.ofString d.name) globalObject
  marker : e.Quiet targetKey functionPrototype
  unmarked : (d.entries true "_$tar").getter = none ∧ (d.entries true "_$tar").setter = none

/-- A plain object is quiet where neither it nor the prototype of all objects has the property. -/
theorem Script.Engine.Quiet.of_absent {k : Key} (hU : e.Unaltered) (hr : e.Known r)
    (hplain : (e.obj r).kind.isPlain = true) (hproto : (e.obj r).proto = some objectPrototype)
    (hfree : ((e.obj r).find? k).isNone = true) (htop : ((e.obj objectPrototype).find? k).isNone = true) :
    e.Quiet k r :=
  ⟨2, none, by decide, .above hr hplain (Option.isNone_iff_eq_none.mp hfree) hproto
    (.nowhere nofun hU.prototypePlain (Option.isNone_iff_eq_none.mp htop) hU.prototypeTop)⟩

/-- The constructor shows a value under the key of tokens, or nothing. -/
theorem Furnished.shows {e₀ : Engine} (h : Furnished d classId e₀ e c p d.entries) (hd : e₀.Undisturbed d) :
    ∃ n o, n < chainLimit ∧ e.Shows targetKey n c o := by
  obtain ⟨n, o, hn, hup⟩ := hd.marker.touched h.touches
  have hbears : e.Bears c := h.bears true
  have hx := h.describes true "_$tar"
  rw [Entries.Describes, hd.unmarked.1, hd.unmarked.2, if_neg (by simp)] at hx
  split at hx
  · obtain ⟨f, hf, -⟩ := hx
    exact ⟨1, _, by decide, .here hbears.known hbears.plain hf⟩
  · have hbare : bareProperty d classId c p true (Key.ofString "_$tar") = none := by
      rw [bareProperty, if_pos rfl, bareConstructor, if_neg (by decide), if_neg (by decide), if_neg (by decide),
        if_neg (by decide)]
    exact ⟨n + 1, o, hn, .above hbears.known hbears.plain (hx.trans hbare) h.inherits hup⟩

theorem HeapOnly.enrolling (h : HeapOnly w w') (x : Int32 × ClassEntry) :
    HeapOnly (w.enrolling x) (w'.enrolling x) :=
  ⟨congrArg (fun b : Bridge => { b with classes := b.classes ++ [x] }) h.bridge, h.memory, h.busy⟩

theorem HeapOnly.holding (h : HeapOnly w w') (v : Value) : HeapOnly (w.holding v) (w'.holding v) :=
  ⟨congrArg (fun b : Bridge =>
    { b with ledger := (b.ledger.insert v 1).2 }.note (.issued (b.ledger.insert v 1).1)) h.bridge, h.memory, h.busy⟩

theorem HeapOnly.tidy (h : HeapOnly w w') : Tidy w w' :=
  .of_same (congrArg Bridge.ledger h.bridge) (congrArg Bridge.journal h.bridge) h.busy

namespace Machine

/-- The constructor of an undisturbed class is looked at, and nothing is called. -/
theorem sees_constructor {h : Handle} {e₀ e₁ : Engine} {k : Key} {v : Value} {wr en co : Bool}
    (hF : Furnished d classId e₀ e₁ c p d.entries) (hd : e₀.Undisturbed d)
    (hbrand : (e₁.putValue globalObject k v wr en co).Brands c classId) :
    ∃ s, Sees (classify h (.object c) : Script Slot Slot) (e₁.putValue globalObject k v wr en co) s := by
  obtain ⟨n, o, hn, hshows⟩ := hF.shows hd
  obtain ⟨o', hshows'⟩ := hshows.putValue globalObject k v wr en co
  obtain ⟨-, q, hq, hfixed⟩ := hbrand.2 _ ((rest_putValue e₁ globalObject c k v wr en co).1.trans hF.kind)
  obtain ⟨v', -, hfinds⟩ := Finds.fixed ((rest_putValue e₁ globalObject c k v wr en co).1.trans hF.kind) hq hfixed
  exact ⟨_, sees_classify h hshows'.finds hn (fun _ => hfinds) (by decide)⟩

/-- A registration that gives a result was not one of a number in the table. -/
theorem registerClass_ok {run : Runner σ} {slot : Slot} (h : run.registerClass d classId w = .ok slot w') :
    ∃ made w₁ w₂, run.furnishClass d classId w = .ok made w₁ ∧
      run.script (globalObject.setNamed d.name (.object made.1)) w₁ = .ok () w₂ ∧
      run.hold (.object made.1) (w₂.enrolling (classEntry d classId made)) = .ok slot w' := by
  rcases hfree : w.bridge.classes.lookup classId with - | x
  · rw [registerClass_free run d classId hfree] at h
    obtain ⟨shown, w₂, hshow, h⟩ := Act.of_bind_ok h
    obtain ⟨_, w₃, henrol, hhold⟩ := Act.of_bind_ok h
    cases henrol
    obtain ⟨made, w₁, hfurnish, hshow⟩ := Act.of_bind_ok hshow
    obtain ⟨_, w₄, hset, hshow⟩ := Act.of_bind_ok hshow
    cases hshow
    exact ⟨shown, w₁, w₂, hfurnish, hset, hhold⟩
  · rw [registerClass_taken run d classId (by rw [hfree]; rfl)] at h
    cases h

/-- **An undisturbed registration** leaves the class as its descriptor says, and changes nothing but the heap and
what it is to enter. -/
theorem registerClass_undisturbed (hU : w.engine.Unaltered) (hd : w.engine.Undisturbed d) {made : Ref × Ref}
    {w₁ w₂ : World σ} {slot : Slot} (hfurnish : (runner host steps depth).furnishClass d classId w = .ok made w₁)
    (hset : (runner host steps depth).script (globalObject.setNamed d.name (.object made.1)) w₁ = .ok () w₂)
    (hhold : (runner host steps depth).hold (.object made.1) (w₂.enrolling (classEntry d classId made))
      = .ok slot w') :
    w'.engine.Embodies d classId made.1 made.2 ∧
      HeapOnly ((w.enrolling (classEntry d classId made)).holding (.object made.1)) w' := by
  obtain ⟨same₁, hF⟩ := (furnishClass_builds d classId hU).ok hfurnish
  obtain ⟨same₂, wr, en, co, hput⟩ := (assign_builds (hd.shown.touched hF.touches) _).ok hset
  have hshow : (runner host steps depth).showClass d classId w = .ok made w₂ := by
    rw [showClass, Act.bind_ok hfurnish, Act.bind_ok hset]
    rfl
  have hbrand := showClass_brands hshow
  rw [hput] at hbrand
  obtain ⟨s, hsees⟩ := sees_constructor (h := ⟨(w₂.enrolling (classEntry d classId made)).bridge.ledger.next⟩) hF hd
    hbrand
  rw [← hput] at hsees
  rw [hold_eq] at hhold
  obtain ⟨same₃, -, hengine⟩ := (script_sees (w := (w₂.enrolling (classEntry d classId made)).holding _) hsees).ok hhold
  refine ⟨?_, ?_⟩
  · rw [hengine]
    show w₂.engine.Embodies d classId made.1 made.2
    rw [hput]
    exact hF.embodies.putValue (fun b => hF.ne_builtin b _) _ _ _ _ _
  · exact HeapOnly.steady.trans (((HeapOnly.steady.trans same₁ same₂).enrolling _).holding _) same₃

/-- **A registration that fails** has failed before the class was shown, or because it could not be. -/
theorem registerClass_error {f : Failure} (h : (runner host steps depth).registerClass d classId w = .error f w')
    (hf : f ≠ .interrupted) : w' = w ∨ (runner host steps depth).furnishClass d classId w = .error f w' ∨
      ∃ made w₁, (runner host steps depth).furnishClass d classId w = .ok made w₁ ∧
        (runner host steps depth).script (globalObject.setNamed d.name (.object made.1)) w₁ = .error f w' := by
  rcases hfree : w.bridge.classes.lookup classId with - | x
  · rw [registerClass_free _ d classId hfree] at h
    rcases hfurnish : (runner host steps depth).furnishClass d classId w with ⟨made, w₁⟩ | ⟨g, w₁⟩
    · rcases hset : (runner host steps depth).script (globalObject.setNamed d.name (.object made.1)) w₁
        with ⟨u, w₂⟩ | ⟨g, w₂⟩
      · -- the class has been entered, and what is left to do does not fail
        have hshow : (runner host steps depth).showClass d classId w = .ok made w₂ := by
          rw [showClass, Act.bind_ok hfurnish, Act.bind_ok hset]
          rfl
        rw [Act.bind_ok hshow] at h
        exact absurd (runner_calm host steps depth (Ends.classify _ _) _ f w' h) hf
      · have hshow : (runner host steps depth).showClass d classId w = .error g w₂ := by
          rw [showClass, Act.bind_ok hfurnish, Act.bind_error hset]
        rw [Act.bind_error hshow] at h
        cases h
        exact .inr (.inr ⟨made, w₁, rfl, hset⟩)
    · have hshow : (runner host steps depth).showClass d classId w = .error g w₁ := by
        rw [showClass, Act.bind_error hfurnish]
      rw [Act.bind_error hshow] at h
      cases h
      exact .inr (.inl rfl)
  · rw [registerClass_taken _ d classId (by rw [hfree]; rfl)] at h
    cases h
    exact .inl rfl

/-- **A registered class is its descriptor.**  In every world where `Object.defineProperty` and the prototype of all
objects are unaltered, whatever the descriptor and the number:

1. a number that is in the table is refused, and nothing has changed;
2. where a registration gives its result, the class is what its descriptor says when its constructor is assigned to
   the global, it is then entered, and the host holds the constructor; and where nothing is called by the assignment
   and by the look at the constructor, it is what its descriptor says when the registration is over, and nothing else
   has changed but the heap;
3. where a registration fails and is not cut off, the table and the lists of the ledger are as they were, and nothing
   has changed but the heap, unless it is the assignment that fails, and something is called by it. -/
theorem registration (host : Host σ) (steps depth : Nat) (d : ClassDescriptor) (classId : Int32) {w : World σ}
    (hU : w.engine.Unaltered) :
    let run := runner host steps depth
    let shows c := run.script (globalObject.setNamed d.name (.object c) : Script Unit Unit)
    ((w.bridge.classes.lookup classId).isSome = true →
      run.registerClass d classId w = .error (.fault (.duplicateClass classId)) w) ∧
    (∀ slot w', run.registerClass d classId w = .ok slot w' → ∃ c p w₁ w₂,
      HeapOnly w w₁ ∧ w₁.engine.Embodies d classId c p ∧ shows c w₁ = .ok () w₂ ∧
      run.hold (.object c) (w₂.enrolling (classEntry d classId (c, p))) = .ok slot w' ∧
      (w.engine.Undisturbed d → w'.engine.Embodies d classId c p ∧
        HeapOnly ((w.enrolling (classEntry d classId (c, p))).holding (.object c)) w')) ∧
    (∀ f w', run.registerClass d classId w = .error f w' → f ≠ .interrupted →
      w'.bridge.classes = w.bridge.classes ∧ Tidy w w' ∧
      (HeapOnly w w' ∨ ∃ c p w₁, HeapOnly w w₁ ∧ w₁.engine.Embodies d classId c p ∧ shows c w₁ = .error f w') ∧
      (w.engine.Quiet (Key.ofString d.name) globalObject → HeapOnly w w')) := by
  intro run shows
  have hfurnished : (run.furnishClass d classId).Builds w
      fun made e => Furnished d classId w.engine e made.1 made.2 d.entries := furnishClass_builds d classId hU
  refine ⟨registerClass_taken run d classId, fun slot w' h => ?_, fun f w' h hf => ?_⟩
  · obtain ⟨made, w₁, w₂, hfurnish, hset, hhold⟩ := registerClass_ok h
    obtain ⟨same₁, hF⟩ := hfurnished.ok hfurnish
    exact ⟨made.1, made.2, w₁, w₂, same₁, hF.embodies, hset, hhold, fun hd =>
      registerClass_undisturbed hU hd hfurnish hset hhold⟩
  · rcases registerClass_error h hf with rfl | hfurnish | ⟨made, w₁, hfurnish, hset⟩
    · have hsame := HeapOnly.steady.refl w'
      exact ⟨rfl, hsame.tidy, .inl hsame, fun _ => hsame⟩
    · have hsame : HeapOnly w w' := Act.after_error hfurnish ▸ hfurnished.heapOnly
      exact ⟨congrArg Bridge.classes hsame.bridge, hsame.tidy, .inl hsame, fun _ => hsame⟩
    · obtain ⟨same₁, hF⟩ := hfurnished.ok hfurnish
      have htables : SameTables w₁ w' :=
        (((SameTables.bystander host).conduct.runner steps depth).script _).of_error hset
      have htidy : Tidy w₁ w' := ((Tidy.runner host steps depth).script _).of_error hset
      refine ⟨htables.classes.trans (congrArg Bridge.classes same₁.bridge), Tidy.steady.trans same₁.tidy htidy,
        .inr ⟨made.1, made.2, w₁, same₁, hF.embodies, hset⟩, fun hd => ?_⟩
      have hassigned : HeapOnly w₁ ((shows made.1).after w₁) := (assign_builds (hd.touched hF.touches) _).heapOnly
      exact HeapOnly.steady.trans same₁ (Act.after_error hset ▸ hassigned)

end Machine

namespace Context

/-- A class with a method twice, a getter, a setter, and a constructor, which installs nothing. -/
def shelf : ClassDescriptor :=
  ⟨"Shelf", [⟨"m", .function⟩, ⟨"x", .getter⟩, ⟨"x", MemberFlags.setter.union .static⟩, ⟨"m", .function⟩,
    ⟨"Shelf", .constructor⟩]⟩

/-- A fresh context has nothing altered, and nothing that disturbs the class. -/
theorem spacious_undisturbed : spacious.world.engine.Unaltered ∧ spacious.world.engine.Undisturbed shelf := by
  have hfresh : spacious.world.engine.Unaltered ∧
      (spacious.world.engine.obj globalObject).proto = some objectPrototype ∧
      (spacious.world.engine.obj functionPrototype).kind.isPlain = true ∧
      (spacious.world.engine.obj functionPrototype).proto = some objectPrototype ∧
      ((spacious.world.engine.obj globalObject).find? (Key.ofString "Shelf")).isNone = true ∧
      ((spacious.world.engine.obj functionPrototype).find? targetKey).isNone = true ∧
      ∀ k ∈ [Key.ofString "Shelf", targetKey],
        ((spacious.world.engine.obj objectPrototype).find? k).isNone = true := by decide +kernel
  obtain ⟨hU, hglobal, hplain, hfunction, hshelf, htarget, htop⟩ := hfresh
  refine ⟨hU, .of_absent hU nofun hU.globalPlain hglobal hshelf (htop _ (by simp [shelf])), ?_, by decide⟩
  exact .of_absent hU nofun hplain hfunction htarget (htop _ (by simp))

/-- The registration of this class, with what stands under its names. -/
theorem registration_shelf :
    let run := Machine.runner spacious.host 400 5
    ∃ slot w' c p, run.registerClass shelf 1 spacious.world = .ok slot w' ∧ w'.engine.Embodies shelf 1 c p ∧
      HeapOnly ((spacious.world.enrolling (classEntry shelf 1 (c, p))).holding (.object c)) w' ∧
      shelf.entries false "m" = ⟨some 3, none, none⟩ ∧ shelf.entries false "x" = ⟨none, some 1, none⟩ ∧
      shelf.entries true "x" = ⟨none, none, some 2⟩ ∧ shelf.entries false "Shelf" = .empty := by
  intro run
  obtain ⟨hU, hd⟩ := spacious_undisturbed
  have hgiven : (match run.registerClass shelf 1 spacious.world with
    | .ok _ _ => true
    | .error _ _ => false) = true := by decide +kernel
  rcases h : run.registerClass shelf 1 spacious.world with ⟨slot, w'⟩ | ⟨f, w'⟩
  · obtain ⟨-, hgives, -⟩ := Machine.registration spacious.host 400 5 shelf 1 hU
    obtain ⟨c, p, -, -, -, -, -, -, hundisturbed⟩ := hgives slot w' h
    obtain ⟨hembodies, hsame⟩ := hundisturbed hd
    refine ⟨slot, w', c, p, rfl, hembodies, hsame, ?_⟩
    decide +kernel
  · rw [h] at hgiven
    cases hgiven

/-- A script waits for the class, and takes a method off it. -/
def meddling : Context Unit := spacious.apply (.tryDispatch .eval [.text
  "Object.defineProperty(globalThis,'P',{set(c){this.Q=c;delete c.prototype.m},configurable:true})", .text ""])

/-- **A setter sees the class first.**  Neither `Object.defineProperty` nor the prototype of all objects is altered,
the registration gives its result, and yet the method of the descriptor is not on the prototype. -/
theorem meddled_registration :
    let d : ClassDescriptor := ⟨"P", [⟨"m", .function⟩]⟩
    let done := meddling.apply (.registerClass d 1)
    meddling.Reachable ∧ meddling.world.engine.Unaltered ∧ (meddling.registerClass d 1).1.toBool = true ∧
    d.entries false "m" = ⟨some 0, none, none⟩ ∧
    ∃ c p, (done.world.bridge.classes.lookup 1).map (fun x => (x.constructor.object?, x.prototype.object?))
      = some (some c, some p) ∧ ((done.world.engine.obj p).find? (Key.ofString "m")).isNone = true ∧
      ¬ done.world.engine.Embodies d 1 c p := by
  have hfacts :
      let d : ClassDescriptor := ⟨"P", [⟨"m", .function⟩]⟩
      let done := meddling.apply (.registerClass d 1)
      meddling.world.engine.Unaltered ∧ (meddling.registerClass d 1).1.toBool = true ∧
      d.entries false "m" = ⟨some 0, none, none⟩ ∧
      (done.world.bridge.classes.lookup 1).map (fun x => (x.constructor.object?, x.prototype.object?))
        = some (some (.made 10), some (.made 9)) ∧
      ((done.world.engine.obj (.made 9)).find? (Key.ofString "m")).isNone = true := by decide +kernel
  obtain ⟨hunaltered, hgiven, hmethod, hentered, hgone⟩ := hfacts
  exact ⟨.step _ spacious_reachable, hunaltered, hgiven, hmethod, .made 10, .made 9, hentered, hgone,
    not_embodies_of_absent hmethod hgone⟩

end Context

end ScriptBridge
