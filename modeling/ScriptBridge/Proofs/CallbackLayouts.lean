import ScriptBridge.Proofs.ClassTables
import ScriptBridge.Proofs.Lasting
import ScriptBridge.Settings.Basic

/-!
The layouts of callbacks.

A host that is called gets a row of slots and has to tell from the row alone what it is asked:

    constructor    class, token, arguments
    call           class, position, arguments             of a static member
    call           class, position, token, arguments      of a member of instances
    callFunction   token, arguments
    delete         token
    moduleName     base, name
    loadModule     name

Arguments are never tokens, so the third slot of a call is a token just when the member is one of instances
(`LaidOut.token_iff`); and the row is never longer than the host has room for, because each of the places that
build one counts the script's arguments against what its fixed slots leave of the limit.

Design.  `LaidOut find c slots` takes the members of classes from `find`, so the same layouts are those of the
class table while the bridge runs, and those of the declared descriptors in the end.  `Frames` is what every
step keeps: the journal's callbacks are laid out by the table, which only grows.
-/
namespace ScriptBridge

open Data Text Script Script.Script Runner

variable {σ α : Type}

/-! ### Slots of arguments -/

/-- The slot stands for the value; which handle it names is not said. -/
def Conveys : Value → Slot → Prop
  | .int i, s => s = .int32 i
  | .double x, s => s = .double x
  | .bool x, s => s = .bool x
  | .bigint i _, s => s = .int64 (lowInt64 i)
  | .string _ _, s => ∃ h, s = .scriptString h
  | .object _, s => ∃ h, s = .scriptValue h
  | .undefined, s | .null, s | .symbol _, s => s = .null

/-- The slots that an argument of a script can become. -/
def Slot.isArgument : Slot → Bool
  | .null | .int32 _ | .int64 _ | .double _ | .bool _ | .scriptString _ | .scriptValue _ => true
  | _ => false

theorem Conveys.isArgument {v : Value} {s : Slot} (h : Conveys v s) : s.isArgument = true := by
  cases v with
  | string _ _ | object _ =>
    obtain ⟨g, rfl⟩ := h
    rfl
  | _ =>
    cases h
    rfl

theorem Bridge.encode_conveys (b : Bridge) (v : Value) : Conveys v (b.encode v).1 := by
  cases v with
  | string _ _ | object _ => exact ⟨_, rfl⟩
  | _ => rfl

theorem Bridge.encodeAll_conveys (args : List Value) (b : Bridge) :
    List.Forall₂ Conveys args (b.encodeAll args).1 := by
  induction args generalizing b with
  | nil => exact .nil
  | cons v rest ih => exact .cons (b.encode_conveys v) (ih (b.encode v).2)

/-- Slots that stand for values one by one are slots of arguments. -/
theorem isArgument_of_conveys {args : List Value} {slots : List Slot} (h : List.Forall₂ Conveys args slots) :
    ∀ s ∈ slots, s.isArgument = true := by
  induction h with
  | nil => exact fun s hs => absurd hs List.not_mem_nil
  | cons hv _ ih =>
    intro s hs
    rcases List.mem_cons.mp hs with rfl | hs
    · exact hv.isArgument
    · exact ih s hs

theorem Runner.openFrame_conveys (args : List Value) (w : World σ) :
    List.Forall₂ Conveys args (openFrame args w).1 :=
  Bridge.encodeAll_conveys args _

theorem Runner.openFrame_length (args : List Value) (w : World σ) :
    (openFrame args w).1.length = args.length :=
  (openFrame_conveys args w).length_eq.symm

/-! ### Layouts -/

/-- How many arguments go with a call of a member of this kind. -/
def MemberKind.takes : MemberKind → Nat → Prop
  | .getter, n => n = 0
  | .setter, n => n = 1
  | .method, _ => True

theorem takes_sentArguments (kind : MemberKind) (args : List Value) :
    kind.takes (sentArguments kind args).length := by
  cases kind with
  | getter => rfl
  | setter => rfl
  | method => trivial

/-- The slots before the arguments in the call of a member, which name its class, its position and, if it is
a member of instances, a token. -/
def FixedSlots (classId : Int32) (position : Nat) (route : MemberRoute) (fixed : List Slot) : Prop :=
  (route.isStatic = true ∧ fixed = [.int32 classId, .int32 (Int32.ofNat position)]) ∨
    (route.isStatic = false ∧ ∃ t, fixed = [.int32 classId, .int32 (Int32.ofNat position), .rawPointer t])

theorem FixedSlots.length_le {classId : Int32} {position : Nat} {route : MemberRoute} {fixed : List Slot}
    (h : FixedSlots classId position route fixed) : fixed.length ≤ 3 := by
  obtain ⟨-, rfl⟩ | ⟨-, t, rfl⟩ := h <;> simp

/-- The layout of a callback's slots, when the classes' members are these. -/
def LaidOut (find : Int32 → Nat → Option MemberRoute) (c : Callback) (slots : List Slot) : Prop :=
  match c with
  | .constructor => ∃ classId t args, slots = .int32 classId :: .rawPointer t :: args
      ∧ ∀ s ∈ args, s.isArgument = true
  | .call => ∃ classId position route fixed args, find classId position = some route ∧ slots = fixed ++ args
      ∧ FixedSlots classId position route fixed ∧ route.kind.takes args.length
      ∧ ∀ s ∈ args, s.isArgument = true
  | .callFunction => ∃ t args, slots = .rawPointer t :: args ∧ ∀ s ∈ args, s.isArgument = true
  | .delete => ∃ t, slots = [.rawPointer t]
  | .moduleName => ∃ base name, slots = [.text base, .text name]
  | .loadModule => ∃ name, slots = [.text name]

/-- More members leave what was laid out laid out. -/
theorem LaidOut.mono {find find' : Int32 → Nat → Option MemberRoute} {c : Callback} {slots : List Slot}
    (h : LaidOut find c slots) (hfind : ∀ k n route, find k n = some route → find' k n = some route) :
    LaidOut find' c slots := by
  cases c with
  | call =>
    obtain ⟨k, n, route, fixed, args, hroute, hrest⟩ := h
    exact ⟨k, n, route, fixed, args, hfind k n route hroute, hrest⟩
  | _ => exact h

/-- Every callback so far was laid out by the table and had room. -/
def World.Framed (w : World σ) : Prop :=
  ∀ c slots, .entered c slots ∈ w.bridge.journal →
    slots.length ≤ w.bridge.maxArguments ∧ LaidOut w.bridge.classes.route? c slots

theorem ClassTable.route?_append {t : ClassTable} {more : List (Int32 × ClassEntry)} {k : Int32} {n : Nat}
    {route : MemberRoute} (h : t.route? k n = some route) : ClassTable.route? (t ++ more) k n = some route := by
  unfold ClassTable.route? at h ⊢
  rw [List.lookup_append]
  rcases hk : t.lookup k with - | e
  · rw [hk] at h
    cases h
  · rw [hk] at h
    exact h

/-- Callbacks are laid out from one world to another, while the table grows. -/
structure Frames (w w' : World σ) : Prop where
  busy : w'.busy = w.busy
  classes : ∃ more, w'.bridge.classes = w.bridge.classes ++ more
  maxArguments : w'.bridge.maxArguments = w.bridge.maxArguments
  framed : Settings.minArguments ≤ w.bridge.maxArguments → w.Framed → w'.Framed

namespace Frames

variable {w w' : World σ}

/-- A step that enters the host for nothing. -/
theorem aside (es : List Occurrence) (hes : ∀ x ∈ es, x.enters = false)
    (hj : w'.bridge.journal = es ++ w.bridge.journal) (hb : w'.busy = w.busy)
    (hmax : w'.bridge.maxArguments = w.bridge.maxArguments)
    (hclasses : ∃ more, w'.bridge.classes = w.bridge.classes ++ more) : Frames w w' := by
  refine ⟨hb, hclasses, hmax, fun _ hw c slots hx => ?_⟩
  obtain ⟨more, hmore⟩ := hclasses
  rw [hj] at hx
  rcases List.mem_append.mp hx with hx | hx
  · cases hes _ hx
  · obtain ⟨hlength, hlaid⟩ := hw c slots hx
    rw [hmax, hmore]
    exact ⟨hlength, hlaid.mono fun _ _ _ => ClassTable.route?_append⟩

theorem silent (hj : w'.bridge.journal = w.bridge.journal) (hb : w'.busy = w.busy)
    (hmax : w'.bridge.maxArguments = w.bridge.maxArguments)
    (hclasses : w'.bridge.classes = w.bridge.classes) : Frames w w' :=
  aside [] (fun _ h => absurd h List.not_mem_nil) hj hb hmax ⟨[], hclasses.trans (List.append_nil _).symm⟩

theorem noted {x : Occurrence} (hx : x.enters = false) (hj : w'.bridge.journal = x :: w.bridge.journal)
    (hb : w'.busy = w.busy) (hmax : w'.bridge.maxArguments = w.bridge.maxArguments)
    (hclasses : w'.bridge.classes = w.bridge.classes) : Frames w w' :=
  aside [x] (List.forall_mem_singleton.mpr hx) hj hb hmax ⟨[], hclasses.trans (List.append_nil _).symm⟩

theorem steady : Steady (σ := σ) Frames where
  refl _ := silent rfl rfl rfl rfl
  trans := by
    rintro a b c ⟨hb, ⟨more, hmore⟩, hmax, hf⟩ ⟨hb', ⟨more', hmore'⟩, hmax', hf'⟩
    refine ⟨hb'.trans hb, ⟨more ++ more', ?_⟩, hmax'.trans hmax, fun hroom ha => ?_⟩
    · rw [hmore', hmore, List.append_assoc]
    · exact hf' (hmax ▸ hroom) (hf hroom ha)

theorem upkeep : Upkeep (σ := σ) Frames where
  toSteady := steady
  memory _ _ := silent rfl rfl rfl rfl
  log _ _ := silent rfl rfl rfl rfl
  retained _ _ _ _ := noted rfl rfl rfl rfl rfl
  released _ _ _ _ _ := noted rfl rfl rfl rfl rfl
  promised _ _ _ := noted rfl rfl rfl rfl rfl

theorem reporting : Reporting (σ := σ) Frames where
  deferred _ _ := silent rfl rfl rfl rfl
  rejected _ _ _ := noted rfl rfl rfl rfl rfl
  logged _ _ := noted rfl rfl rfl rfl rfl

/-! ### Callbacks -/

theorem opened (args : List Value) (w : World σ) : Frames w (openFrame args w).2 := by
  obtain ⟨es, hes, hissued⟩ := openFrame_issues args w
  have hsame := SameTables.opened args w
  refine aside es (fun x hx => ?_) hes hsame.busy hsame.maxArguments
    ⟨[], hsame.classes.trans (List.append_nil _).symm⟩
  obtain ⟨h, rfl⟩ := hissued x hx
  rfl

/-- A callback whose slots are laid out and have room. -/
theorem callback {host : Host σ} {run : Runner σ} (hr : run.Obeys Frames) {c : Callback} {slots : List Slot}
    {args : List Value} {finish : Reply → Act σ α} (hf : ∀ r, (finish r).Keeps Frames)
    (hslots : Settings.minArguments ≤ w.bridge.maxArguments →
      slots.length + args.length ≤ w.bridge.maxArguments ∧
        LaidOut w.bridge.classes.route? c (slots ++ (openFrame args w).1)) :
    Frames w ((run.callHost host c slots args finish).after w) := by
  have hopened := opened args w
  have hsame := SameTables.opened args w
  refine upkeep.callHost hr hf hopened (fun hb w' h => ?_) fun _ => silent rfl rfl rfl rfl
  refine ⟨hb.symm, h.classes, h.maxArguments, fun hroom hw => ?_⟩
  obtain ⟨hlength, hlaid⟩ := hslots (hsame.maxArguments ▸ hroom)
  have hentered : (entering c (slots ++ (openFrame args w).1) (openFrame args w).2).Framed := by
    intro c' slots' hx
    rcases List.mem_cons.mp hx with heq | hx
    · cases heq
      refine ⟨?_, ?_⟩
      · rw [List.length_append, openFrame_length]
        exact hsame.maxArguments.symm ▸ hlength
      · exact hsame.classes.symm ▸ hlaid
    · exact hw c' slots' hx
  intro c' slots' hx
  exact h.framed hroom hentered c' slots' ((List.mem_cons.mp hx).resolve_left nofun)

variable {host : Host σ} {run : Runner σ} (hr : run.Obeys Frames)

include hr

/-- The arguments of a construction stand after the class and the token, and two slots are left for them. -/
theorem approve (classId : Int32) (t : UInt64) (args : List Value) :
    Act.Keeps Frames (run.approve host classId t args) := by
  refine Act.keeps_bridge fun w => upkeep.checked hr fun hfits => ?_
  refine callback hr (upkeep.approval hr) fun hroom => ⟨?_, classId, t, _, rfl, ?_⟩
  · simp only [Settings.minArguments] at hroom
    simp only [List.length_cons, List.length_nil]
    omega
  · exact isArgument_of_conveys (openFrame_conveys args w)

theorem construction (classId : Int32) (target : Value) (args : List Value) :
    Act.Keeps Frames (run.constructInstance host classId target args) := by
  have hR : Upkeep (σ := σ) Frames := upkeep
  have drawn : Act.Keeps Frames (Runner.drawToken : Act σ UInt64) := fun _ => noted rfl rfl rfl rfl rfl
  have made : ∀ t proto, Act.Keeps Frames (Runner.makeInstance classId t proto : Act σ Value) :=
    fun t _ w => aside [.built (.made w.engine.next) classId t, .made t] (by simp [Occurrence.enters]) rfl rfl
      rfl ⟨[], (List.append_nil _).symm⟩
  refine hR.toBackground.constructInstance hr (fun sentinel proto => hR.bind drawn fun t => ?_) target
  cases sentinel with
  | true => exact made t proto
  | false =>
    exact hR.bind (hR.toSteady.approving (fun _ => noted rfl rfl rfl rfl rfl) (approve hr classId t args))
      fun _ => made t proto

theorem sendMember {classId : Int32} {position : Nat} {route : MemberRoute} (this : Value)
    (args : List Value) (hroute : w.bridge.classes.route? classId position = some route) :
    Frames w ((run.sendMember host classId position route this args).after w) := by
  have hR : Upkeep (σ := σ) Frames := upkeep
  refine hR.sendMember hr fun fixed w₁ e hfits => ?_
  -- reading the receiver's token may run scripts, and the table may have grown, but the member is the same
  obtain ⟨more, hmore⟩ := ((hR.memberSlots hr classId position route this).of_ok e).classes
  have hfixed : FixedSlots classId position route fixed := memberSlots_form e
  have hthree := hfixed.length_le
  refine callback hr (hR.replyValue hr) fun hroom => ⟨?_, classId, position, route, fixed, _, ?_, rfl, hfixed,
    ?_, isArgument_of_conveys (openFrame_conveys _ w₁)⟩
  · simp only [Settings.minArguments] at hroom
    cases hkind : route.kind with
    | getter => simp only [sentArguments, List.length_nil]; omega
    | setter => simp only [sentArguments, List.length_cons, List.length_nil]; omega
    | method =>
      have := hfits hkind
      simp only [sentArguments]
      omega
  · rw [hmore]
    exact ClassTable.route?_append hroute
  · rw [openFrame_length]
    exact takes_sentArguments route.kind args

theorem memberCall (classId : Int32) (position : Nat) (this : Value) (args : List Value) :
    Act.Keeps Frames (run.callMember host classId position this args) := by
  refine Act.keeps_bridge fun w => ?_
  rcases hroute : w.bridge.classes.route? classId position with - | route
  · exact upkeep.throwFault hr _ w
  · have hasked : Frames w { w with bridge := w.bridge.note (.asked classId position route this) } :=
      noted rfl rfl rfl rfl rfl
    exact steady.trans hasked (sendMember hr this args hroute)

theorem wrappedCall (t : UInt64) (args : List Value) : Act.Keeps Frames (run.callWrapped host t args) := by
  refine Act.keeps_bridge fun w => upkeep.checked hr fun hfits => ?_
  refine callback hr (upkeep.replyValue hr) fun hroom => ⟨?_, t, _, rfl, ?_⟩
  · simp only [Settings.minArguments] at hroom
    simp only [List.length_cons, List.length_nil]
    omega
  · exact isArgument_of_conveys (openFrame_conveys args w)

theorem moduleName (base name : String) : Act.Keeps Frames (Machine.resolveName run host base name) :=
  upkeep.toBackground.resolveName hr base name fun _ =>
    callback hr (upkeep.namedModule _ _) fun hroom => ⟨Nat.le_trans (by simp [Settings.minArguments]) hroom, _, _, rfl⟩

theorem moduleText (name : String) : Act.Keeps Frames (Machine.loadSource run host name) :=
  upkeep.toBackground.loadSource hr name fun _ =>
    callback hr upkeep.moduleSource fun hroom => ⟨Nat.le_trans (by simp [Settings.minArguments]) hroom, _, rfl⟩

omit hr in
/-- Objects die, and their tokens are queued. -/
theorem swept (w : World σ) (e : Engine) (ts : List UInt64) :
    Frames w { w with engine := e, bridge := Context.queueDeaths w.bridge ts } := by
  rw [Context.queueDeaths_eq]
  refine aside _ (fun x hx => ?_) rfl rfl rfl ⟨[], (List.append_nil _).symm⟩
  obtain ⟨t, -, rfl⟩ := mem_dying.mp hx
  rfl

omit hr in
/-- **Every operation lays out its callbacks**, until the context ends. -/
theorem usage (host : Host σ) : Usage host (Frames (σ := σ)) where
  toBackground := upkeep.toBackground
  engineAnswer _ _ := silent rfl rfl rfl rfl
  taskWritten _ _ _ := silent rfl rfl rfl rfl
  taskKept _ _ := silent rfl rfl rfl rfl
  rejection _ hr := upkeep.rejection hr reporting host
  construction _ hr := construction hr
  memberCall _ hr := memberCall hr
  wrappedCall _ hr w _ t args _ := wrappedCall hr t args w
  moduleName _ hr := moduleName hr
  moduleText _ hr := moduleText hr
  retained := upkeep.retained
  released := upkeep.released
  promised := upkeep.promised
  busy := Frames.busy
  withholding _ hr _ _ := upkeep.withholding hr reporting host
  valueHeld _ _ _ := noted rfl rfl rfl rfl rfl
  promiseTaken _ _ _ _ _ := noted rfl rfl rfl rfl rfl
  hostMade _ _ _ _ _ := silent rfl rfl rfl rfl
  functionWrapped _ := aside [_, _] (by simp [Occurrence.enters]) rfl rfl rfl ⟨[], (List.append_nil _).symm⟩
  intrinsicsSet _ _ := silent rfl rfl rfl rfl
  jobTaken _ _ := silent rfl rfl rfl rfl
  collected w := swept w _ _
  valueStaged w v hv := by
    rw [World.staging]
    exact noted rfl rfl rfl rfl rfl
  cacheCleared _ := silent rfl rfl rfl rfl
  noticesDelivered run hr n _ hb := by
    have notice : ∀ t (w : World σ), w.busy = false → Frames w
        (Act.after (run.callHost host .delete [.rawPointer t] [] fun _ => pure ()) w) :=
      fun t w _ => callback hr (fun _ => steady.pure ()) fun hroom => ⟨Nat.le_trans (by simp [Settings.minArguments]) hroom, t, rfl⟩
    exact steady.deliverDue Frames.busy
      (fun _ hb => steady.deliverNext Frames.busy (fun _ _ => silent rfl rfl rfl rfl) notice hb)
      (fun w => swept w _ _) n hb

end Frames

/-- Every callback of a context was laid out by the descriptors that were declared, and had room. -/
theorem Context.Declared.framed {s : Setup} {c : Context σ} {ds : List (Int32 × ClassDescriptor)}
    (hc : c.Declared s ds) (hroom : Settings.minArguments ≤ s.maxArguments) :
    ∀ cb slots, .entered cb slots ∈ c.world.bridge.journal →
      slots.length ≤ s.maxArguments ∧ LaidOut (declaredRoute? ds) cb slots := by
  have hframed : c.world.Framed := by
    induction hc with
    | @created host limits memory c h =>
      have hR : Attendance (blank host limits s memory).host (Frames (σ := σ)) := (Frames.usage host).toAttendance
      have hinstalled : Frames (emptyWorld s memory) c.world := by
        rw [create_ok h]
        exact Attendance.performed (hR.install _ hR.runner)
      exact hinstalled.framed hroom fun _ _ hx => absurd hx List.not_mem_nil
    | @step c ds op hopen hc ih =>
      obtain ⟨hb, hmax, -, -⟩ := hc.table
      have enrolled : ∀ (w : World σ) e, Frames w (w.enrolling e) := fun _ e =>
        Frames.aside [] (fun _ h => absurd h List.not_mem_nil) rfl rfl rfl ⟨[e], rfl⟩
      exact ((Frames.usage c.host).operation hb hopen fun _ => enrolled).framed (hmax.symm ▸ hroom) ih
  obtain ⟨-, hmax, htable, -⟩ := hc.table
  intro cb slots hx
  obtain ⟨hlength, hlaid⟩ := hframed cb slots hx
  refine ⟨hmax ▸ hlength, hlaid.mono fun k n route hroute => ?_⟩
  rw [← route?_described htable]
  exact hroute

end ScriptBridge
