import ScriptBridge.Proofs.Descriptions
import ScriptBridge.Proofs.MemberEntries

/-!
The members of a registered class.

When its constructor is put under its global name, a class is what its descriptor says:

    constructor / prototype  has under  name   .accessor getter setter     if a getter or a setter stands there
                                               .hidden method              else, if a method stands there
                                               what it began with          else

with the functions that call the host with the last positions, by `ClassDescriptor.entries`.  Methods come first,
and accessors are defined over them, by the built-in `Object.defineProperty`.

Design.  `Furnished` is what is known of the two objects between two members; a member that comes onto them changes
the table that they follow in one place (`Furnished.put`), and everything else that a registration makes leaves them
alone (`Furnished.beside`).
-/
namespace ScriptBridge

open Data Text Script Script.Script Script.Engine

variable {σ : Type} {host : Host σ} {steps depth : Nat} {w w' : World σ} {e e' : Engine} {classId : Int32}
  {c p r : Ref} {d : ClassDescriptor}

/-! ### Members as properties -/

namespace Script.Engine

/-- A function that calls the host for the member at this position. -/
structure IsMember (e : Engine) (classId : Int32) (n : Nat) (f : Ref) : Prop where
  known : e.Known f
  kind : (e.obj f).kind = .host (.member classId n)

theorem IsMember.touched {rs : List Ref} {n : Nat} {f : Ref} (h : e.IsMember classId n f)
    (ht : Touches rs e e') (hf : f ∉ rs) : e'.IsMember classId n f :=
  ⟨ht.known h.known, by rw [ht.others h.known hf]; exact h.kind⟩

end Script.Engine

theorem rel_mono {α β : Type} {R S : α → β → Prop} {a : Option α} {b : Option β} (h : Option.Rel R a b)
    (hRS : ∀ a b, R a b → S a b) : Option.Rel S a b := by
  cases h with
  | some h => exact .some (hRS _ _ h)
  | none => exact .none

theorem isSome_of_rel {α β : Type} {R : α → β → Prop} {a : Option α} {b : Option β} (h : Option.Rel R a b) :
    a.isSome = b.isSome := by
  cases h <;> rfl

/-- The property that entries under a name come to: an accessor before a method, and else what was there at first. -/
def Entries.Describes (x : Entries) (e : Engine) (classId : Int32) (bare p : Option Property) : Prop :=
  if x.getter.isSome || x.setter.isSome then
    ∃ g s, p = some (.accessor g s false true) ∧ Option.Rel (e.IsMember classId) x.getter g ∧
      Option.Rel (e.IsMember classId) x.setter s
  else
    match x.method with
    | some n => ∃ f, p = some (.hidden (.object f)) ∧ e.IsMember classId n f
    | none => p = bare

/-- It depends on the heap by its member functions only. -/
theorem Entries.Describes.mono {x : Entries} {bare p : Option Property} (h : x.Describes e classId bare p)
    (member : ∀ n f, e.IsMember classId n f → e'.IsMember classId n f) : x.Describes e' classId bare p := by
  unfold Entries.Describes at h ⊢
  split at h
  · obtain ⟨g, s, hp, hg, hs⟩ := h
    rw [if_pos ‹_›]
    exact ⟨g, s, hp, rel_mono hg member, rel_mono hs member⟩
  · rw [if_neg ‹_›]
    split at h
    · obtain ⟨f, hp, hf⟩ := h
      exact ⟨f, hp, member _ _ hf⟩
    · exact h

/-- What stands under every name, of the class itself and of its instances. -/
abbrev EntryTable := Bool → String → Entries

/-- The table with other entries in one place. -/
def EntryTable.set (t : EntryTable) (isStatic : Bool) (name : String) (x : Entries) : EntryTable :=
  fun b s => if b = isStatic ∧ s = name then x else t b s

/-- The object that members come onto. -/
def holder (c p : Ref) (isStatic : Bool) : Ref := if isStatic then c else p

/-- What it has before its members. -/
def bareProperty (d : ClassDescriptor) (classId : Int32) (c p : Ref) (isStatic : Bool) (k : Key) : Option Property :=
  if isStatic then bareConstructor d.name classId p k else barePrototype c k

/-- The objects of a class with the members of a table, beside a heap that is otherwise as it was. -/
structure Furnished (d : ClassDescriptor) (classId : Int32) (e₀ e : Engine) (c p : Ref) (t : EntryTable) : Prop where
  touches : Touches [] e₀ e
  newConstructor : ¬ e₀.Known c
  newPrototype : ¬ e₀.Known p
  differ : c ≠ p
  bears : ∀ b, e.Bears (holder c p b)
  kind : (e.obj c).kind = .host (.constructor classId)
  inherits : (e.obj c).proto = some functionPrototype
  kindPrototype : (e.obj p).kind = .script .ordinary
  describes : ∀ b name, (t b name).Describes e classId (bareProperty d classId c p b (Key.ofString name))
    ((e.obj (holder c p b)).find? (Key.ofString name))
  other : ∀ b k, (∀ name, k ≠ Key.ofString name) →
    (e.obj (holder c p b)).find? k = bareProperty d classId c p b k

theorem Bare.furnished {e₀ : Engine} (h : Bare d classId e₀ e c p) :
    Furnished d classId e₀ e c p fun _ _ => .empty := by
  refine ⟨h.touches, h.newConstructor, h.newPrototype, h.differ, ?_, h.kind, h.inherits, h.kindPrototype, ?_, ?_⟩
  · rintro (- | -)
    · exact h.bearsPrototype
    · exact h.bearsConstructor
  · rintro (- | -) name
    · exact h.ownPrototype _
    · exact h.ownConstructor _
  · rintro (- | -) k -
    · exact h.ownPrototype _
    · exact h.ownConstructor _

namespace Furnished

variable {e₀ : Engine} {t : EntryTable}

/-- Neither of the two objects is a member function. -/
theorem ne_holder (h : Furnished d classId e₀ e c p t) {n : Nat} {f : Ref} (hf : e.IsMember classId n f) (b : Bool) :
    f ≠ holder c p b := by
  rintro rfl
  cases b with
  | true => cases h.kind.symm.trans hf.kind
  | false => cases h.kindPrototype.symm.trans hf.kind

theorem known (h : Furnished d classId e₀ e c p t) (b : Bool) : e.Known (holder c p b) := (h.bears b).known

/-- Something else is made or changed. -/
theorem beside (h : Furnished d classId e₀ e c p t) (ht : Touches [] e e') : Furnished d classId e₀ e' c p t := by
  have same : ∀ b, e'.obj (holder c p b) = e.obj (holder c p b) := fun b => ht.others (h.known b) List.not_mem_nil
  refine ⟨h.touches.trans ht, h.newConstructor, h.newPrototype, h.differ, fun b => (h.bears b).kept ht List.not_mem_nil,
    ?_, ?_, ?_, fun b name => ?_, fun b k hk => ?_⟩
  · exact (congrArg Obj.kind (same true)).trans h.kind
  · exact (congrArg Obj.proto (same true)).trans h.inherits
  · exact (congrArg Obj.kind (same false)).trans h.kindPrototype
  · rw [same]
    exact (h.describes b name).mono fun _ _ hf => hf.touched ht List.not_mem_nil
  · rw [same]
    exact h.other b k hk

theorem holder_ne (h : Furnished d classId e₀ e c p t) {b b' : Bool} (hb : b ≠ b') : holder c p b ≠ holder c p b' := by
  cases b <;> cases b' <;> first | exact absurd rfl hb | exact h.differ | exact h.differ.symm

/-- A member comes onto one of the two objects. -/
theorem put (h : Furnished d classId e₀ e c p t) {b : Bool} {name : String} {q : Property} {x : Entries}
    (hput : Puts e (holder c p b) (Key.ofString name) q e') (hq : q ≠ .pendingPrototype)
    (hx : x.Describes e' classId (bareProperty d classId c p b (Key.ofString name)) (some q)) :
    Furnished d classId e₀ e' c p (t.set b name x) := by
  have other : ∀ b', b' ≠ b → e'.obj (holder c p b') = e.obj (holder c p b') := fun b' hb =>
    hput.touches.others (h.known b') (by simpa using h.holder_ne hb)
  have members : ∀ n f, e.IsMember classId n f → f ∉ [holder c p b] := fun n f hf => by
    simpa using h.ne_holder hf b
  have rest : ∀ b', (e'.obj (holder c p b')).kind = (e.obj (holder c p b')).kind ∧
      (e'.obj (holder c p b')).proto = (e.obj (holder c p b')).proto := fun b' => by
    by_cases hb : b' = b
    · rw [hb, hput.obj, Obj.kind_put, Obj.proto_put]
      exact ⟨rfl, rfl⟩
    · rw [other b' hb]
      exact ⟨rfl, rfl⟩
  have hnew : ¬ e₀.Known (holder c p b) := by
    cases b with
    | true => exact h.newConstructor
    | false => exact h.newPrototype
  have htouches : Touches [] e₀ e' :=
    Touches.forget ((h.touches.mono (List.nil_subset _)).trans hput.touches) hnew
  refine ⟨htouches, h.newConstructor, h.newPrototype, h.differ, fun b' => ?_, (rest true).1.trans h.kind,
    (rest true).2.trans h.inherits, (rest false).1.trans h.kindPrototype, fun b' name' => ?_, fun b' k hk => ?_⟩
  · by_cases hb : b' = b
    · exact hb ▸ (h.bears b).put hput hq
    · exact (h.bears b').kept hput.touches (by simpa using h.holder_ne hb)
  · rw [EntryTable.set]
    by_cases hplace : b' = b ∧ name' = name
    · obtain ⟨rfl, rfl⟩ := hplace
      rw [if_pos ⟨rfl, rfl⟩, hput.obj, Obj.find?_put, if_pos rfl]
      exact hx
    · rw [if_neg hplace]
      have hfind : (e'.obj (holder c p b')).find? (Key.ofString name')
          = (e.obj (holder c p b')).find? (Key.ofString name') := by
        by_cases hb : b' = b
        · subst hb
          rw [hput.obj, Obj.find?_put, if_neg fun heq => hplace ⟨rfl, Key.ofString_injective heq⟩]
        · rw [other b' hb]
      rw [hfind]
      exact (h.describes b' name').mono fun n f hf => hf.touched hput.touches (members n f hf)
  · by_cases hb : b' = b
    · subst hb
      rw [hput.obj, Obj.find?_put, if_neg (hk name)]
      exact h.other b' k hk
    · rw [other b' hb]
      exact h.other b' k hk

end Furnished

/-! ### Methods -/

namespace Machine

/-- A function that calls the host is made. -/
theorem makeMember_builds (n : Nat) (name : String) :
    (Runner.makeHostFunction (.member classId n) (some name) : Act σ Ref).Builds w
      fun f e => Touches [] w.engine e ∧ e.IsMember classId n f := by
  refine (makeHostFunction_builds _ _).mono fun f e hf => ⟨hf.touches, hf.known, ?_⟩
  rw [hf.obj]
  exact (hostFunction_members (.member classId n) functionPrototype name).1

/-- **Methods come onto a class one by one**, each over what stands there. -/
theorem installMethods_builds {e₀ : Engine} (entries : List (Option MemberRoute × Nat))
    {m : Bool → String → Option Nat}
    (hF : Furnished d classId e₀ w.engine c p fun b name => ⟨m b name, none, none⟩) :
    ((Machine.runner host steps depth).installMethods classId c p entries).Builds w
      fun _ e => Furnished d classId e₀ e c p fun b name =>
        ⟨lastOf ⟨name, .method, b⟩ (m b name) entries, none, none⟩ := by
  induction entries generalizing w m with
  | nil => exact .pure hF
  | cons x entries ih =>
    obtain ⟨route, n⟩ := x
    cases route with
    | none => exact ih hF
    | some route =>
      obtain ⟨name, kind, isStatic⟩ := route
      by_cases hkind : kind = .method
      · subst hkind
        refine .bind (makeMember_builds n name) fun f w₁ ⟨ht, hf⟩ => ?_
        have hF₁ := hF.beside ht
        refine .bind (defineMember_builds (hF₁.bears isStatic) _) fun _ w₂ hput => ?_
        have hF₂ := hF₁.put (x := ⟨some n, none, none⟩) hput nofun
          ⟨f, rfl, hf.touched hput.touches (by simpa using hF₁.ne_holder hf isStatic)⟩
        have htable : EntryTable.set (fun b s => ⟨m b s, none, none⟩) isStatic name ⟨some n, none, none⟩
            = fun b s => ⟨if b = isStatic ∧ s = name then some n else m b s, none, none⟩ := by
          funext b s
          rw [EntryTable.set]
          split <;> rfl
        rw [htable] at hF₂
        have hplace : ∀ b s, some (⟨name, .method, isStatic⟩ : MemberRoute) = some ⟨s, .method, b⟩
            ↔ b = isStatic ∧ s = name := by
          refine fun b s => ⟨?_, ?_⟩
          · rintro ⟨⟩
            exact ⟨rfl, rfl⟩
          · rintro ⟨rfl, rfl⟩
            rfl
        simpa only [lastOf_cons, hplace] using ih hF₂
      · have hother : ∀ b s, ¬ some (⟨name, kind, isStatic⟩ : MemberRoute) = some ⟨s, .method, b⟩ := by
          rintro b s ⟨⟩
          exact hkind rfl
        rw [Runner.installMethods]
        simp only [beq_false_of_ne hkind, Bool.false_eq_true, if_false]
        simpa only [lastOf_cons, hother, if_false] using ih hF

end Machine

/-! ### Descriptions of accessors -/

namespace Script

/-- The object with a side of an accessor, if there is one. -/
def Obj.withSide (o : Obj) (side : String) (f : Option Ref) : Obj :=
  match f with
  | some f => o.put (Key.ofString side) (.plain (.object f))
  | none => o

@[simp] theorem Obj.extensible_put (o : Obj) (k : Key) (p : Property) : (o.put k p).extensible = o.extensible := by
  cases k <;> rfl

theorem Obj.find?_withSide {o : Obj} {side : String} (h : o.find? (Key.ofString side) = none) (f : Option Ref)
    (name : String) : (o.withSide side f).find? (Key.ofString name)
      = if name = side then f.map fun f => .plain (.object f) else o.find? (Key.ofString name) := by
  cases f with
  | none =>
    split
    · subst name
      exact h
    · rfl
  | some f =>
    rw [withSide, Obj.find?_put]
    exact if_congr Key.ofString_injective.eq_iff rfl rfl

/-- The description of an accessor. -/
def description (g s : Option Ref) : Obj :=
  ((emptyObject.withSide "get" g).withSide "set" s).put (Key.ofString "configurable") (.plain (.bool true))

theorem find?_description (g s : Option Ref) (name : String) : (description g s).find? (Key.ofString name)
    = if name = "configurable" then some (.plain (.bool true))
      else if name = "set" then s.map fun f => .plain (.object f)
      else if name = "get" then g.map fun f => .plain (.object f) else none := by
  have hget : emptyObject.find? (Key.ofString "get") = none := Obj.find?_emptyObject _
  have hset : (emptyObject.withSide "get" g).find? (Key.ofString "set") = none := by
    rw [Obj.find?_withSide hget, if_neg (by decide)]
    exact Obj.find?_emptyObject _
  rw [description, Obj.find?_put, if_congr Key.ofString_injective.eq_iff rfl rfl, Obj.find?_withSide hset,
    Obj.find?_withSide hget, Obj.find?_emptyObject]

/-- What the description of an accessor makes of a property that is not enumerable. -/
theorem accessor_of_change {o : Obj} {k : Key} {g s : Option Ref} {q : Property} (hsided : g.isSome ∨ s.isSome)
    (hquiet : ∀ q, o.find? k = some q → ∃ v wr co, q = .data v wr false co)
    (h : o.change? k { get := g.map some, set := s.map some, configurable := some true } = some q) :
    q = .accessor g s false true := by
  have hg : (g.map some).getD none = g := by cases g <;> rfl
  have hs : (s.map some).getD none = s := by cases s <;> rfl
  have haccessor :
      ({ get := g.map some, set := s.map some, configurable := some true } : Change).isAccessor = true := by
    simpa [Change.isAccessor] using hsided
  rw [Obj.change?] at h
  split at h
  · rename_i old hold
    obtain ⟨v, wr, co, rfl⟩ := hquiet old hold
    split at h <;> cases h
    simp only [Change.applyTo, haccessor, if_true, hg, hs]
    rfl
  · split at h <;> cases h
    simp only [Change.toProperty, haccessor, if_true, hg, hs]
    rfl

end Script

/-! ### What a registration relies on -/

/-- The object that a property shows. -/
def Script.Property.object? : Property → Option Ref
  | .data (.object r) _ _ _ => some r
  | _ => none

def Script.Kind.native? : Kind → Option NativeFn
  | .script (.native f) => some f
  | _ => none

def objectFunction : Ref := .builtin (.function (.object .constructor))

def definer : Ref := .builtin (.function (.object .defineProperty))

def objectPrototype : Ref := .builtin (.object .objectPrototype)

/-- The names by which a description is read. -/
def descriptionFields : List String := ["enumerable", "configurable", "value", "writable", "get", "set"]

/-- `Object.defineProperty` is the built-in one, and the prototype of all objects says nothing of how properties are
described. -/
structure Script.Engine.Unaltered (e : Engine) : Prop where
  globalPlain : (e.obj globalObject).kind.isPlain = true
  object : ((e.obj globalObject).find? (Key.ofString "Object")).bind Property.object? = some objectFunction
  objectPlain : (e.obj objectFunction).kind.isPlain = true
  define : ((e.obj objectFunction).find? (Key.ofString "defineProperty")).bind Property.object? = some definer
  native : (e.obj definer).kind.native? = some (.object .defineProperty)
  prototypePlain : (e.obj objectPrototype).kind.isPlain = true
  prototypeTop : (e.obj objectPrototype).proto = none
  prototypeSilent : ∀ name ∈ descriptionFields, ((e.obj objectPrototype).find? (Key.ofString name)).isNone = true

instance (e : Engine) : Decidable e.Unaltered :=
  decidable_of_iff (((e.obj globalObject).kind.isPlain = true ∧
      ((e.obj globalObject).find? (Key.ofString "Object")).bind Property.object? = some objectFunction) ∧
    ((e.obj objectFunction).kind.isPlain = true ∧
      ((e.obj objectFunction).find? (Key.ofString "defineProperty")).bind Property.object? = some definer) ∧
    (e.obj definer).kind.native? = some (.object .defineProperty) ∧
    (e.obj objectPrototype).kind.isPlain = true ∧ (e.obj objectPrototype).proto = none ∧
    ∀ name ∈ descriptionFields, ((e.obj objectPrototype).find? (Key.ofString name)).isNone = true)
    ⟨fun ⟨⟨hg, ho⟩, ⟨hp, hd⟩, hn, ht⟩ => ⟨hg, ho, hp, hd, hn, ht.1, ht.2.1, ht.2.2⟩,
      fun h => ⟨⟨h.1, h.2⟩, ⟨h.3, h.4⟩, h.5, h.6, h.7, h.8⟩⟩

namespace Script.Engine.Unaltered

theorem touched (h : e.Unaltered) (ht : Touches [] e e') : e'.Unaltered := by
  have hglobal : e'.obj globalObject = e.obj globalObject := ht.builtin _ List.not_mem_nil
  have hobject : e'.obj objectFunction = e.obj objectFunction := ht.builtin _ List.not_mem_nil
  have hdefiner : e'.obj definer = e.obj definer := ht.builtin _ List.not_mem_nil
  have hprototype : e'.obj objectPrototype = e.obj objectPrototype := ht.builtin _ List.not_mem_nil
  refine ⟨?_, ?_, ?_, ?_, ?_, ?_, ?_, ?_⟩
  · rw [hglobal]
    exact h.globalPlain
  · rw [hglobal]
    exact h.object
  · rw [hobject]
    exact h.objectPlain
  · rw [hobject]
    exact h.define
  · rw [hdefiner]
    exact h.native
  · rw [hprototype]
    exact h.prototypePlain
  · rw [hprototype]
    exact h.prototypeTop
  · rw [hprototype]
    exact h.prototypeSilent

theorem silent (h : e.Unaltered) {name : String} (hname : name ∈ descriptionFields) :
    e.Silent objectPrototype (Key.ofString name) :=
  ⟨h.prototypePlain, h.prototypeTop, Option.isNone_iff_eq_none.mp (h.prototypeSilent name hname)⟩

theorem definer_native (h : e.Unaltered) : (e.obj definer).kind = .script (.native (.object .defineProperty)) := by
  have hn := h.native
  unfold Kind.native? at hn
  split at hn
  · rename_i hk
    cases hn
    exact hk
  · cases hn

/-- An object that a plain object shows is what a script reads there. -/
theorem finds_object {o : Ref} {k : Key} (hplain : (e.obj r).kind.isPlain = true)
    (h : ((e.obj r).find? k).bind Property.object? = some o) : e.Finds k 1 r (some (.object o)) := by
  rcases hf : (e.obj r).find? k with - | q <;> rw [hf] at h
  · cases h
  · obtain ⟨v, wr, en, co, rfl, hv⟩ : ∃ v wr en co, q = .data v wr en co ∧ v = .object o := by
      cases q with
      | data v wr en co =>
        cases v <;> cases h
        exact ⟨_, _, _, _, rfl, rfl⟩
      | _ => cases h
    subst hv
    have hown : e.own r k = (some (.data (.object o) wr en co), e) := by
      rw [own_plain hplain (by rw [hf]; nofun), hf]
    exact .here (Kind.plainAt_of_isPlain hplain k) hown

end Script.Engine.Unaltered

/-! ### Accessors -/

/-- A draft of a description: an object of its own, with what has been written so far. -/
structure Drafted (e : Engine) (r : Ref) (o : Obj) : Prop where
  known : e.Known r
  obj : e.obj r = o
  kind : o.kind = .script .ordinary
  proto : o.proto = some objectPrototype
  extensible : o.extensible = true

namespace Drafted

variable {o : Obj}

theorem below (h : Drafted e r o) : e.Below r objectPrototype :=
  ⟨by rw [h.obj]; exact h.kind, by rw [h.obj]; exact h.proto⟩

/-- What is neither on the draft nor on the prototype of all objects is nowhere on the chain. -/
theorem shows (h : Drafted e r o) {k : Key} (hfree : o.find? k = none) (hq : e.Silent objectPrototype k) :
    e.Shows k 2 r none := by
  refine .above h.known (by rw [h.obj, h.kind]; rfl) (by rw [h.obj]; exact hfree) h.below.proto ?_
  exact .nowhere nofun hq.plain hq.absent hq.top

theorem beside (h : Drafted e r o) (ht : Touches [] e e') : Drafted e' r o :=
  ⟨ht.known h.known, (ht.others h.known List.not_mem_nil).trans h.obj, h.kind, h.proto, h.extensible⟩

/-- A member function is no draft. -/
theorem ne_member (h : Drafted e r o) {n : Nat} {f : Ref} (hf : e.IsMember classId n f) : f ∉ [r] := by
  rintro hmem
  cases List.mem_singleton.mp hmem
  have hkind := hf.kind
  rw [h.obj, h.kind] at hkind
  cases hkind

end Drafted

namespace Machine

/-- A draft is written on. -/
theorem writeDraft_builds {o : Obj} {name : String} (v : Value) (hU : w.engine.Unaltered)
    (hname : name ∈ descriptionFields) (hr : Drafted w.engine r o) (hfree : o.find? (Key.ofString name) = none) :
    ((Machine.runner host steps depth).script (r.setNamed name v)).Builds w fun _ e =>
      Touches [r] w.engine e ∧ Drafted e r (o.put (Key.ofString name) (.plain v)) := by
  have hset := comes_set (ρ := Unit) (hr.shows hfree (hU.silent hname)) (by decide)
    (by rw [hr.obj]; exact hr.extensible) v
  refine (script_builds hset).mono ?_
  rintro - e ⟨-, rfl⟩
  have hown : (w.engine.obj r).proto.isSome = true := by rw [hr.obj, hr.proto]; rfl
  refine ⟨.setObj List.mem_cons_self _ _, ?_, ?_, ?_, ?_, ?_⟩
  · exact fun n hn => Nat.lt_of_lt_of_eq (hr.known n hn) (setObj_next _ _ _).symm
  · rw [Engine.putValue, obj_setObj_self hown, hr.obj]
    rfl
  · rw [Obj.kind_put, hr.kind]
  · rw [Obj.proto_put, hr.proto]
  · rw [Obj.extensible_put, hr.extensible]

/-- A side of an accessor is made and written, if there is one. -/
theorem installSide_builds {o : Obj} {side : String} (name : String) (position : Option Nat)
    (hU : w.engine.Unaltered) (hside : side ∈ descriptionFields) (hr : Drafted w.engine r o)
    (hfree : o.find? (Key.ofString side) = none) :
    ((Machine.runner host steps depth).installSide classId name side r position).Builds w fun _ e =>
      Touches [r] w.engine e ∧ ∃ f, Option.Rel (e.IsMember classId) position f ∧ Drafted e r (o.withSide side f) := by
  cases position with
  | none => exact .pure ⟨.refl _ _, none, .none, hr⟩
  | some n =>
    refine .bind (makeMember_builds n name) fun f w₁ ⟨ht, hf⟩ => ?_
    have hr₁ := hr.beside ht
    refine (writeDraft_builds _ (hU.touched ht) hside hr₁ hfree).mono fun _ e ⟨ht₂, hr₂⟩ => ?_
    exact ⟨(ht.mono (List.nil_subset _)).trans ht₂, some f, .some (hf.touched ht₂ (hr₁.ne_member hf)), hr₂⟩

end Machine

/-- A new description of an accessor. -/
def Runner.describe (run : Runner σ) (classId : Int32) (q : AccessorPair) : Act σ Ref := do
  let description ← run.script (newObject [] : Script Ref Ref)
  run.installSide classId q.name "get" description q.getter
  run.installSide classId q.name "set" description q.setter
  run.script (description.setNamed "configurable" (.bool true))
  return description

theorem Runner.installAccessors_cons (run : Runner σ) (classId : Int32) (c p define : Ref) (q : AccessorPair)
    (rest : List AccessorPair) : run.installAccessors classId c p define (q :: rest) = (do
      let x ← run.describe classId q
      discard (run.script (call define .undefined [.object (holder c p q.isStatic), .text q.name, .object x]))
      run.installAccessors classId c p define rest) := by
  simp only [installAccessors, describe, holder, bind_assoc, pure_bind]

namespace Machine

/-- **A description says what sides an accessor has**, beside a heap that is otherwise as it was. -/
theorem describe_builds (q : AccessorPair) (hU : w.engine.Unaltered) :
    ((Machine.runner host steps depth).describe classId q).Builds w fun x e =>
      Touches [] w.engine e ∧ ∃ g s, Option.Rel (e.IsMember classId) q.getter g ∧
        Option.Rel (e.IsMember classId) q.setter s ∧ Drafted e x (description g s) := by
  refine .bind newObject_builds fun r w₁ hmade => ?_
  have hr₁ : Drafted w₁.engine r emptyObject := ⟨hmade.known, hmade.obj, rfl, rfl, rfl⟩
  have hget : emptyObject.find? (Key.ofString "get") = none := Obj.find?_emptyObject _
  refine .bind (installSide_builds _ _ (hU.touched hmade.touches) (by decide) hr₁ hget) fun _ w₂ => ?_
  rintro ⟨ht₂, g, hg, hr₂⟩
  -- only the new object has been written on, so nothing that was there has changed
  have hall₂ : Touches [] w.engine w₂.engine := ((hmade.touches.mono (List.nil_subset _)).trans ht₂).forget hmade.new
  have hset : (emptyObject.withSide "get" g).find? (Key.ofString "set") = none := by
    rw [Obj.find?_withSide hget, if_neg (by decide)]
    exact Obj.find?_emptyObject _
  refine .bind (installSide_builds _ _ (hU.touched hall₂) (by decide) hr₂ hset) fun _ w₃ => ?_
  rintro ⟨ht₃, s, hs, hr₃⟩
  have hall₃ : Touches [] w.engine w₃.engine := ((hall₂.mono (List.nil_subset _)).trans ht₃).forget hmade.new
  have hconf : ((emptyObject.withSide "get" g).withSide "set" s).find? (Key.ofString "configurable") = none := by
    rw [Obj.find?_withSide hset, if_neg (by decide), Obj.find?_withSide hget, if_neg (by decide)]
    exact Obj.find?_emptyObject _
  refine .bind (writeDraft_builds _ (hU.touched hall₃) (by decide) hr₃ hconf) fun _ w₄ ⟨ht₄, hr₄⟩ => .pure ?_
  have hall₄ : Touches [] w.engine w₄.engine := ((hall₃.mono (List.nil_subset _)).trans ht₄).forget hmade.new
  refine ⟨hall₄, g, s, ?_, ?_, hr₄⟩
  · have hg₃ := rel_mono hg fun _ _ hf => hf.touched ht₃ (hr₂.ne_member hf)
    exact rel_mono hg₃ fun _ _ hf => hf.touched ht₄ (hr₃.ne_member hf)
  · exact rel_mono hs fun _ _ hf => hf.touched ht₄ (hr₃.ne_member hf)

end Machine

/-- What is read of the description of an accessor whose sides are member functions. -/
theorem Drafted.reads {g s : Option Ref} {getter setter : Option Nat} (h : Drafted e r (description g s))
    (hU : e.Unaltered) (hg : Option.Rel (e.IsMember classId) getter g)
    (hs : Option.Rel (e.IsMember classId) setter s) : Sees (r.readChange : Script Value Change) e
      { get := g.map some, set := s.map some, configurable := some true } := by
  have hfind : ∀ name, (e.obj r).find? (Key.ofString name) = _ := fun name =>
    (congrArg (·.find? (Key.ofString name)) h.obj).trans (find?_description g s name)
  have callable : ∀ f, g = some f ∨ s = some f → (e.obj f).kind.callable = true := by
    have member : ∀ n f, e.IsMember classId n f → (e.obj f).kind.callable = true := fun n f hf => by
      rw [hf.kind]
      rfl
    rintro f (rfl | rfl)
    · cases hg
      exact member _ _ ‹_›
    · cases hs
      exact member _ _ ‹_›
  refine sees_readChange h.below (fun name hname => hU.silent hname) (hfind "get") (hfind "set")
    (hfind "configurable") (fun name hname => ?_) callable 9996
  rw [hfind]
  fin_cases hname <;> rfl

/-! ### All accessors -/

theorem bareProperty_quiet {isStatic : Bool} {k : Key} {q : Property}
    (h : bareProperty d classId c p isStatic k = some q) : ∃ v wr co, q = .data v wr false co := by
  unfold bareProperty bareConstructor barePrototype at h
  split_ifs at h <;> cases h <;> exact ⟨_, _, _, rfl⟩

/-- Where no accessor stands, nothing is enumerable. -/
theorem Furnished.quiet {e₀ : Engine} {t : EntryTable} (h : Furnished d classId e₀ e c p t) {isStatic : Bool}
    {name : String} (hg : (t isStatic name).getter = none) (hs : (t isStatic name).setter = none) (q : Property)
    (hq : (e.obj (holder c p isStatic)).find? (Key.ofString name) = some q) : ∃ v wr co, q = .data v wr false co := by
  have hx := h.describes isStatic name
  rw [hq, Entries.Describes, hg, hs, if_neg (by simp)] at hx
  split at hx
  · obtain ⟨f, hf, -⟩ := hx
    cases hf
    exact ⟨_, _, _, rfl⟩
  · exact bareProperty_quiet hx.symm

/-- The table with the pairs of a list. -/
def EntryTable.paired (t : EntryTable) (pairs : List AccessorPair) : EntryTable := fun b s =>
  match AccessorPair.find b s pairs with
  | some q => ⟨(t b s).method, q.getter, q.setter⟩
  | none => t b s

theorem EntryTable.paired_cons (t : EntryTable) {q : AccessorPair} {pairs : List AccessorPair}
    (h : AccessorPair.Proper (q :: pairs)) : t.paired (q :: pairs)
      = (t.set q.isStatic q.name ⟨(t q.isStatic q.name).method, q.getter, q.setter⟩).paired pairs := by
  funext b s
  rw [paired, paired, EntryTable.set, AccessorPair.find_cons]
  by_cases hkey : b = q.isStatic ∧ s = q.name
  · obtain ⟨rfl, rfl⟩ := hkey
    rw [h.find_tail, if_pos ⟨rfl, rfl⟩, if_pos ⟨rfl, rfl⟩]
  · rw [if_neg hkey, if_neg fun hsame => hkey ⟨hsame.1.symm, hsame.2.symm⟩]

/-- One accessor comes onto a class. -/
theorem Machine.defineAccessor_builds {e₀ : Engine} {t : EntryTable} {q : AccessorPair} {x : Ref}
    {g s : Option Ref} (hU : w.engine.Unaltered) (hF : Furnished d classId e₀ w.engine c p t)
    (hfree : (t q.isStatic q.name).getter = none ∧ (t q.isStatic q.name).setter = none)
    (hsided : q.getter.isSome = true ∨ q.setter.isSome = true)
    (hg : Option.Rel (w.engine.IsMember classId) q.getter g) (hs : Option.Rel (w.engine.IsMember classId) q.setter s)
    (hx : Drafted w.engine x (description g s)) :
    ((Machine.runner host steps depth).script (call definer .undefined
      [.object (holder c p q.isStatic), .text q.name, .object x] : Script Value Value)).Builds w
        fun _ e => Furnished d classId e₀ e c p
          (t.set q.isStatic q.name ⟨(t q.isStatic q.name).method, q.getter, q.setter⟩) := by
  have hholder := hF.bears q.isStatic
  refine (Machine.defineProperty_builds hU.definer_native hholder.plain (hholder.settled _)
    (hx.reads hU hg hs) rfl).mono ?_
  rintro - e ⟨a, hchange, rfl⟩
  have hboth : g.isSome = true ∨ s.isSome = true := by
    rw [← isSome_of_rel hg, ← isSome_of_rel hs]
    exact hsided
  have ha := accessor_of_change hboth (hF.quiet hfree.1 hfree.2) hchange
  subst ha
  have hput := hholder.puts (Key.ofString q.name) (.accessor g s false true)
  have member : ∀ n f, w.engine.IsMember classId n f →
      (w.engine.setObj _ _).IsMember classId n f := fun n f hf =>
    hf.touched hput.touches (by simpa using hF.ne_holder hf q.isStatic)
  refine hF.put hput nofun ?_
  rw [Entries.Describes, if_pos (by simpa using hsided)]
  exact ⟨g, s, rfl, rel_mono hg member, rel_mono hs member⟩

/-- **Accessors come onto a class one by one**, each over what stands there. -/
theorem Machine.installAccessors_builds {e₀ : Engine} (hU : e₀.Unaltered) (pairs : List AccessorPair)
    {t : EntryTable} (hproper : AccessorPair.Proper pairs) (hF : Furnished d classId e₀ w.engine c p t)
    (hfree : ∀ q ∈ pairs, (t q.isStatic q.name).getter = none ∧ (t q.isStatic q.name).setter = none) :
    ((Machine.runner host steps depth).installAccessors classId c p definer pairs).Builds w
      fun _ e => Furnished d classId e₀ e c p (t.paired pairs) := by
  induction pairs generalizing w t with
  | nil => exact .pure hF
  | cons q pairs ih =>
    rw [Runner.installAccessors_cons]
    refine .bind (Machine.describe_builds q (hU.touched hF.touches)) fun x w₁ => ?_
    rintro ⟨ht, g, s, hg, hs, hx⟩
    have hF₁ := hF.beside ht
    refine .bind (.discard (Machine.defineAccessor_builds (hU.touched hF₁.touches) hF₁ (hfree q List.mem_cons_self)
      (hproper.sided q List.mem_cons_self) hg hs hx)) fun _ w₂ hF₂ => ?_
    -- the pairs that are left are of other names
    have hrest : ∀ q' ∈ pairs, (t.set q.isStatic q.name ⟨(t q.isStatic q.name).method, q.getter, q.setter⟩
        q'.isStatic q'.name).getter = none ∧ (t.set q.isStatic q.name
          ⟨(t q.isStatic q.name).method, q.getter, q.setter⟩ q'.isStatic q'.name).setter = none := by
      intro q' hq'
      rw [EntryTable.set, if_neg fun hkey => List.rel_of_pairwise_cons hproper.once hq' hkey.1.symm hkey.2.symm]
      exact hfree q' (List.mem_cons_of_mem _ hq')
    exact t.paired_cons hproper ▸ ih hproper.tail hF₂ hrest

/-! ### The class as a whole -/

/-- The methods and the pairs of a descriptor are its entries. -/
theorem paired_entries (d : ClassDescriptor) : EntryTable.paired (fun b s => ⟨d.last? .method b s, none, none⟩)
    (AccessorPair.ofRoutes d.routes) = d.entries := by
  funext b s
  obtain ⟨-, hsides⟩ := AccessorPair.ofRoutes_sides d
  obtain ⟨hg, hs⟩ := hsides b s
  rw [EntryTable.paired, ClassDescriptor.entries, ← hg, ← hs, AccessorPair.sideOf, AccessorPair.sideOf]
  cases AccessorPair.find b s (AccessorPair.ofRoutes d.routes) <;> rfl

/-- The members of a class come onto its bare objects, each in its place. -/
theorem Machine.installMembers_builds {e₀ : Engine} (hU : e₀.Unaltered)
    (hF : Furnished d classId e₀ w.engine c p fun _ _ => .empty) :
    ((Machine.runner host steps depth).installMembers d classId (c, p)).Builds w
      fun _ e => Furnished d classId e₀ e c p d.entries := by
  refine .bind (Machine.installMethods_builds _ hF) fun _ w₁ hF₁ => ?_
  have hU₁ := hU.touched hF₁.touches
  -- the built-in function is found where it always was
  refine .bind (Machine.script_sees
    (sees_get (Unaltered.finds_object hU₁.globalPlain hU₁.object) (by decide) (.object globalObject))) fun v w₂ => ?_
  rintro ⟨rfl, h₂⟩
  refine .bind (.pure (Q := fun o e => o = objectFunction ∧ e = w₂.engine) ⟨rfl, rfl⟩) fun o w₃ => ?_
  rintro ⟨rfl, h₃⟩
  rw [← h₂, ← h₃] at hU₁ hF₁
  refine .bind (Machine.script_sees
    (sees_get (Unaltered.finds_object hU₁.objectPlain hU₁.define) (by decide) (.object objectFunction))) fun v w₄ => ?_
  rintro ⟨rfl, h₄⟩
  rw [← h₄] at hU₁ hF₁
  have hcalls : Sees (isCallable (.object definer) : Script Bool Bool) w₄.engine true :=
    .bind (.look definer w₄.engine) (by rw [hU₁.definer_native]; exact .pure true _)
  have hfunction : ((Machine.runner host steps depth).asFunction (.object definer)).Builds w₄
      fun f e => f = definer ∧ e = w₄.engine := by
    refine .bind (Machine.script_sees hcalls) fun b w₅ => ?_
    rintro ⟨rfl, h₅⟩
    exact .pure ⟨rfl, h₅⟩
  refine .bind hfunction fun f w₅ => ?_
  rintro ⟨rfl, h₅⟩
  rw [← h₅] at hF₁
  obtain ⟨hproper, -⟩ := AccessorPair.ofRoutes_sides d
  rw [← paired_entries d]
  exact Machine.installAccessors_builds hU _ hproper hF₁ fun _ _ => ⟨rfl, rfl⟩

/-- **A class is furnished as its descriptor says**, or there is no result. -/
theorem Machine.furnishClass_builds (d : ClassDescriptor) (classId : Int32) (hU : w.engine.Unaltered) :
    ((Machine.runner host steps depth).furnishClass d classId).Builds w
      fun made e => Furnished d classId w.engine e made.1 made.2 d.entries := by
  rw [Runner.furnishClass_eq]
  refine .bind (Machine.bareClass_builds d classId) fun bare w₁ hB => ?_
  exact .bind (Machine.installMembers_builds hU hB.furnished) fun _ w₂ hF => .pure hF

end ScriptBridge
