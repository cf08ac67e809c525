import ScriptBridge.Proofs.HeapActs
import ScriptBridge.Proofs.OwnProperties
import ScriptBridge.Proofs.Recognition

/-!
The two objects of a class.

A registration makes a prototype and a constructor before any script can see them:

    bareClass d k w  =  (constructor, prototype)    in a world where the two are objects with just

      constructor :  length, name, prototype (fixed), the number of the class (fixed)
      prototype   :  constructor (hidden)

and where every other object is what it was.

Design.  Each act of a registration comes to one exact change of the heap, or it gives no result.
`Engine.Bears` is what an object needs for that, and `Engine.Touches` says which objects were changed, so
what is known of the others need not be said again.
-/
namespace ScriptBridge

open Data Text Script Script.Script

namespace Script

/-- An object without a property of its own, as scripts make them. -/
def emptyObject : Obj := ⟨some (.builtin (.object .objectPrototype)), true, .script .ordinary, .empty, []⟩

theorem Obj.find?_emptyObject (k : Key) : emptyObject.find? k = none := by
  cases k with
  | index n => exact NatMap.get?_empty n
  | _ => rfl

@[simp] theorem Obj.proto_put (o : Obj) (k : Key) (p : Property) : (o.put k p).proto = o.proto := by
  cases k <;> rfl

namespace Engine

variable {e e' e'' : Engine} {r s : Ref} {rs : List Ref}

/-- An object that has a prototype is on the heap, so it can be replaced. -/
theorem obj_setObj_self (h : (e.obj r).proto.isSome = true) (o : Obj) : (e.setObj r o).obj r = o := by
  rcases r with b | n
  · have hpatched := lookup_replacePatch b b o e.patched
    rw [if_pos rfl] at hpatched
    simp only [setObj, obj, hpatched]
  · rcases hn : e.nodes.get? n with - | node
    · rw [obj, hn] at h
      cases h
    · cases node with
      | object o' => simp [setObj, obj, hn]
      | _ =>
        rw [obj, hn] at h
        cases h

theorem obj_setObj_other (e : Engine) (o : Obj) (h : s ≠ r) : (e.setObj r o).obj s = e.obj s :=
  (obj_setObj e r s o).resolve_left fun heq => h heq.1

/-- Of the objects that the heap has given out, none has changed but those of the list. -/
structure Touches (rs : List Ref) (e e' : Engine) : Prop where
  next : e.next ≤ e'.next
  others : ∀ {s}, e.Known s → s ∉ rs → e'.obj s = e.obj s

namespace Touches

theorem refl (rs : List Ref) (e : Engine) : Touches rs e e := ⟨Nat.le_refl _, fun _ _ => rfl⟩

theorem known (h : Touches rs e e') (hr : e.Known r) : e'.Known r :=
  fun n hn => Nat.lt_of_lt_of_le (hr n hn) h.next

theorem trans (h : Touches rs e e') (h' : Touches rs e' e'') : Touches rs e e'' :=
  ⟨Nat.le_trans h.next h'.next, fun hs hrs => (h'.others (h.known hs) hrs).trans (h.others hs hrs)⟩

theorem mono {qs : List Ref} (h : Touches rs e e') (hsub : rs ⊆ qs) : Touches qs e e' :=
  ⟨h.next, fun hs hqs => h.others hs fun hrs => hqs (hsub hrs)⟩

theorem allocateObj (rs : List Ref) (e : Engine) (o : Obj) : Touches rs e (e.allocateObj o).2 := by
  refine ⟨Nat.le_succ _, fun {s} hs _ => ?_⟩
  rcases obj_allocateObj e o s with ⟨hnew, -⟩ | hsame
  · exact absurd (hs e.next hnew) (Nat.lt_irrefl _)
  · exact hsame

theorem setObj (hr : r ∈ rs) (e : Engine) (o : Obj) : Touches rs e (e.setObj r o) :=
  ⟨Nat.le_of_eq (setObj_next e r o).symm, fun _ hs => obj_setObj_other e o fun heq => hs (heq ▸ hr)⟩

/-- Built-in objects were always there. -/
theorem builtin (h : Touches rs e e') (b : Builtin) (hb : .builtin b ∉ rs) :
    e'.obj (.builtin b) = e.obj (.builtin b) := h.others nofun hb

/-- An object that was made on the way was given out by nobody before. -/
theorem forget (h : Touches (r :: rs) e e') (hr : ¬ e.Known r) : Touches rs e e' :=
  ⟨h.next, fun hs hrs => h.others hs fun hmem =>
    (List.mem_cons.mp hmem).elim (fun heq => hr (heq ▸ hs)) hrs⟩

end Touches

/-- A new object, beside a heap that is otherwise as it was. -/
structure Makes (e : Engine) (r : Ref) (o : Obj) (e' : Engine) : Prop where
  touches : Touches [] e e'
  new : ¬ e.Known r
  known : e'.Known r
  obj : e'.obj r = o

theorem makes_allocateObj (e : Engine) (o : Obj) : Makes e (.made e.next) o (e.allocateObj o).2 where
  touches := .allocateObj [] e o
  new h := Nat.lt_irrefl _ (h e.next rfl)
  known n hn := by
    cases hn
    exact Nat.lt_succ_self _
  obj := Runner.obj_allocate e o

/-- A property is put on an object, beside a heap that is otherwise as it was. -/
structure Puts (e : Engine) (r : Ref) (k : Key) (p : Property) (e' : Engine) : Prop where
  touches : Touches [r] e e'
  obj : e'.obj r = (e.obj r).put k p

/-- An object that properties can be put on, to the letter. -/
structure Bears (e : Engine) (r : Ref) : Prop where
  known : e.Known r
  plain : (e.obj r).kind.isPlain = true
  inherits : (e.obj r).proto.isSome = true
  settled : ∀ k, (e.obj r).find? k ≠ some .pendingPrototype

namespace Bears

variable {k : Key} {p : Property}

theorem kept (h : e.Bears r) (ht : Touches rs e e') (hr : r ∉ rs) : e'.Bears r := by
  have hsame := ht.others h.known hr
  refine ⟨ht.known h.known, ?_, ?_, ?_⟩ <;> rw [hsame]
  · exact h.plain
  · exact h.inherits
  · exact h.settled

theorem puts (h : e.Bears r) (k : Key) (p : Property) : Puts e r k p (e.setObj r ((e.obj r).put k p)) :=
  ⟨.setObj List.mem_cons_self e _, obj_setObj_self h.inherits _⟩

theorem put (h : e.Bears r) (hput : Puts e r k p e') (hp : p ≠ .pendingPrototype) : e'.Bears r := by
  refine ⟨hput.touches.known h.known, ?_, ?_, fun k' => ?_⟩ <;> rw [hput.obj]
  · rw [Obj.kind_put]
    exact h.plain
  · rw [Obj.proto_put]
    exact h.inherits
  · rw [Obj.find?_put]
    split
    · exact fun heq => hp (Option.some.inj heq)
    · exact h.settled k'

/-- A new object of the kind. -/
theorem made {o : Obj} (h : Makes e r o e') (hplain : o.kind.isPlain = true) (hproto : o.proto.isSome = true)
    (hsettled : ∀ k, o.find? k ≠ some .pendingPrototype) : e'.Bears r :=
  ⟨h.known, h.obj ▸ hplain, h.obj ▸ hproto, h.obj ▸ hsettled⟩

end Bears

/-- Whoever was given out is not the new object. -/
theorem Makes.ne {o : Obj} (h : Makes e r o e') (hs : e.Known s) : s ≠ r := fun heq => h.new (heq ▸ hs)

end Engine

/-- The object of a host function, with its two members. -/
theorem hostFunction_members (h : HostData) (proto : Ref) (name : String) :
    let o := hostObject h proto (hostFunctionMembers (some name))
    o.kind = .host h ∧ o.proto = some proto ∧ ∀ k, o.find? k =
      if k = Key.ofString "name" then some (.data (.text name) false false true)
      else if k = lengthKey then some (.data (.int 0) false false true) else none := by
  refine ⟨Obj.kind_foldl_put _ _, rfl, fun k => ?_⟩
  rw [hostObject, hostFunctionMembers, List.foldl_cons, List.foldl_cons, List.foldl_nil, Obj.find?_put,
    Obj.find?_put]
  refine if_congr .rfl rfl (if_congr .rfl rfl ?_)
  cases k with
  | index n => exact NatMap.get?_empty n
  | _ => rfl

end Script

variable {σ : Type} {host : Host σ} {steps depth : Nat} {w w' : World σ} {r : Ref}

open Engine

namespace Machine

/-! ### Single acts -/

theorem newObject_builds : ((Machine.runner host steps depth).script (newObject [] : Script Ref Ref)).Builds w
    fun r e => Makes w.engine r emptyObject e := by
  have hmade : Comes (newObject [] : Script Ref Ref) w.engine (.made w.engine.next)
      (w.engine.allocateObj emptyObject).2 :=
    Comes.request (q := .make (some (.builtin (.object .objectPrototype))) .ordinary []) rfl
  refine (script_builds hmade).mono ?_
  rintro r e ⟨rfl, rfl⟩
  exact makes_allocateObj _ _

theorem makeHostFunction_builds (d : HostData) (name : Option String) :
    (Runner.makeHostFunction d name : Act σ Ref).Builds w
      fun r e => Makes w.engine r (hostObject d functionPrototype (hostFunctionMembers name)) e :=
  .of_ok rfl ⟨rfl, rfl, rfl⟩ (makes_allocateObj _ _)

/-- A property is defined as it is described, or there is no result. -/
theorem defineMember_builds {v : Value} {wr en co : Bool} (hr : w.engine.Bears r) (k : Key) :
    ((Machine.runner host steps depth).defineMember r k (.data v wr en co)).Builds w
      fun _ e => Puts w.engine r k (.data v wr en co) e := by
  cases hc : (w.engine.obj r).change? k (Change.ofProperty (.data v wr en co)) with
  | none =>
    obtain ⟨x, e, hx⟩ := comes_defineOwn_refused (ρ := Unit) hr.plain (hr.settled k) hc
    obtain ⟨v, e', hv⟩ := refuse_raises (ρ := Unit) (α := Unit) x e
    exact script_throws ((hx 9999).raises hv)
  | some p =>
    have hdefined := comes_defineOwn_ok (ρ := Unit) hr.plain (hr.settled k) 9999 hc
    rw [Obj.change?_data hc] at hdefined
    refine (script_builds (hdefined.bind (.pure () _))).mono ?_
    rintro - e ⟨-, rfl⟩
    exact hr.puts k _

end Machine

/-! ### The bare class -/

/-- The constructor and the prototype of a class, without a member. -/
def Runner.bareClass (run : Runner σ) (d : ClassDescriptor) (classId : Int32) : Act σ (Ref × Ref) := do
  let prototype ← run.script (newObject [] : Script Ref Ref)
  let constructor ← Runner.makeHostFunction (.constructor classId) (some d.name)
  run.defineMember constructor (Key.ofString "prototype") (.fixed (.object prototype))
  run.defineMember prototype (Key.ofString "constructor") (.hidden (.object constructor))
  run.defineMember constructor classKey (.fixed (.int classId))
  return (constructor, prototype)

/-- The members of a class come onto its bare objects. -/
def Runner.installMembers (run : Runner σ) (d : ClassDescriptor) (classId : Int32) (bare : Ref × Ref) :
    Act σ Unit := do
  run.installMethods classId bare.1 bare.2 d.routes.zipIdx
  let objects ← run.asObject (← run.script (globalObject.getNamed "Object"))
  let define ← run.asFunction (← run.script (objects.getNamed "defineProperty"))
  run.installAccessors classId bare.1 bare.2 define (AccessorPair.ofRoutes d.routes)

theorem Runner.furnishClass_eq (run : Runner σ) (d : ClassDescriptor) (classId : Int32) :
    run.furnishClass d classId = (do
      let bare ← run.bareClass d classId
      run.installMembers d classId bare
      return bare) := by
  simp only [furnishClass, bareClass, installMembers, bind_assoc, pure_bind]

theorem Attendance.installMembers {R : World σ → World σ → Prop} (hR : Attendance host R) {run : Runner σ}
    (hr : run.Obeys R) (d : ClassDescriptor) (classId : Int32) (bare : Ref × Ref) :
    Act.Keeps R (run.installMembers d classId bare) :=
  hR.bind (hR.installMethods hr _ _ _ _) fun _ => hR.bind (hr.script _) fun _ =>
    hR.bind (hR.asObject hr _) fun _ => hR.bind (hr.script _) fun _ =>
      hR.bind (hR.asFunction hr _) fun _ => hR.installAccessors hr _ _ _ _ _

/-- What a constructor has before its members. -/
def bareConstructor (name : String) (classId : Int32) (prototype : Ref) (k : Key) : Option Property :=
  if k = classKey then some (.fixed (.int classId))
  else if k = Key.ofString "prototype" then some (.fixed (.object prototype))
  else if k = Key.ofString "name" then some (.data (.text name) false false true)
  else if k = lengthKey then some (.data (.int 0) false false true) else none

/-- What a prototype has before its members. -/
def barePrototype (constructor : Ref) (k : Key) : Option Property :=
  if k = Key.ofString "constructor" then some (.hidden (.object constructor)) else none

/-- The objects of a class without members, beside a heap that is otherwise as it was. -/
structure Bare (d : ClassDescriptor) (classId : Int32) (e e' : Engine) (c p : Ref) : Prop where
  touches : Touches [] e e'
  newConstructor : ¬ e.Known c
  newPrototype : ¬ e.Known p
  differ : c ≠ p
  bearsConstructor : e'.Bears c
  bearsPrototype : e'.Bears p
  kind : (e'.obj c).kind = .host (.constructor classId)
  inherits : (e'.obj c).proto = some functionPrototype
  kindPrototype : (e'.obj p).kind = .script .ordinary
  ownConstructor : ∀ k, (e'.obj c).find? k = bareConstructor d.name classId p k
  ownPrototype : ∀ k, (e'.obj p).find? k = barePrototype c k

/-- **A class begins bare**, or there is no result. -/
theorem Machine.bareClass_builds (d : ClassDescriptor) (classId : Int32) :
    ((Machine.runner host steps depth).bareClass d classId).Builds w
      fun bare e => Bare d classId w.engine e bare.1 bare.2 := by
  obtain ⟨hkind, hproto, hfind⟩ := hostFunction_members (.constructor classId) functionPrototype d.name
  refine .bind newObject_builds fun p w₁ hp => ?_
  refine .bind (makeHostFunction_builds _ _) fun c w₂ hc => ?_
  generalize hostObject (.constructor classId) functionPrototype (hostFunctionMembers (some d.name)) = o
    at hkind hproto hfind hc
  have hne : p ≠ c := hc.ne hp.known
  have bp : w₂.engine.Bears p := by
    refine Bears.kept (.made hp rfl rfl fun k => ?_) hc.touches List.not_mem_nil
    rw [Obj.find?_emptyObject]
    nofun
  have bc : w₂.engine.Bears c := by
    refine .made hc (by rw [hkind]; rfl) (by rw [hproto]; rfl) fun k => ?_
    rw [hfind]
    split
    · nofun
    · split <;> nofun
  -- three properties come onto them, one after the other
  refine .bind (defineMember_builds bc _) fun _ w₃ h₃ => ?_
  have bc₃ : w₃.engine.Bears c := bc.put h₃ nofun
  have bp₃ : w₃.engine.Bears p := bp.kept h₃.touches (by simpa using hne)
  refine .bind (defineMember_builds bp₃ _) fun _ w₄ h₄ => ?_
  have bc₄ : w₄.engine.Bears c := bc₃.kept h₄.touches (by simpa using hne.symm)
  have bp₄ : w₄.engine.Bears p := bp₃.put h₄ nofun
  refine .bind (defineMember_builds bc₄ _) fun _ w₅ h₅ => .pure ?_
  have bp₅ : w₅.engine.Bears p := bp₄.kept h₅.touches (by simpa using hne)
  have hobj : w₅.engine.obj c = (o.put (Key.ofString "prototype") (.fixed (.object p))).put classKey
      (.fixed (.int classId)) := by
    rw [h₅.obj, h₄.touches.others bc₃.known (by simpa using hne.symm), h₃.obj, hc.obj]
    rfl
  have hobj' : w₅.engine.obj p = emptyObject.put (Key.ofString "constructor") (.hidden (.object c)) := by
    rw [h₅.touches.others bp₄.known (by simpa using hne), h₄.obj,
      h₃.touches.others bp.known (by simpa using hne), hc.touches.others hp.known List.not_mem_nil, hp.obj]
    rfl
  have hnew : ¬ w.engine.Known c := fun hk => hc.new (hp.touches.known hk)
  refine ⟨?_, hnew, hp.new, hne.symm, bc₄.put h₅ nofun, bp₅, ?_, ?_, ?_, fun k => ?_, fun k => ?_⟩
  -- whatever was there before is neither of the two
  · have hall : Touches [c, p] w.engine w₅.engine :=
      (((hp.touches.trans hc.touches).mono (List.nil_subset _)).trans (h₃.touches.mono (by simp))).trans
        ((h₄.touches.mono (by simp)).trans (h₅.touches.mono (by simp)))
    exact (hall.forget hnew).forget hp.new
  · rw [hobj, Obj.kind_put, Obj.kind_put, hkind]
  · rw [hobj, Obj.proto_put, Obj.proto_put, hproto]
  · rw [hobj', Obj.kind_put]
    rfl
  · rw [hobj, Obj.find?_put, Obj.find?_put, hfind, bareConstructor]
  · rw [hobj', Obj.find?_put, Obj.find?_emptyObject, barePrototype]

end ScriptBridge
