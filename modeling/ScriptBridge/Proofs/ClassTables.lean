import ScriptBridge.Proofs.MemberCalls

/-!
Which classes stand in the table.

A registration makes the class's objects, shows the constructor under the class's name, and only then
enters the class; nothing else enters one, and none is taken out before the context ends:

    (c.apply op).classes  =  c.classes ++ [(k, ⟨d.name, d.routes, ..⟩)]    for a registration that comes so far
    (c.apply op).classes  =  c.classes                                      for all else but the end

So a context that a host has come to has the classes that were declared on the way, each with the members of
its own descriptor (`Declared.table`).

Design.  Scripts cannot reach the table, so what they run keeps `SameTables`; only `registerClass` is looked
at by itself, cut in two where the class is entered (`registerClass_free`).
-/
namespace ScriptBridge

open Data Text Script Script.Script Runner

variable {σ α : Type}

/-! ### What leaves the table alone -/

/-- The classes and the limit of arguments are the same, and the host is as busy. -/
structure SameTables (w w' : World σ) : Prop where
  busy : w'.busy = w.busy
  classes : w'.bridge.classes = w.bridge.classes
  maxArguments : w'.bridge.maxArguments = w.bridge.maxArguments

namespace SameTables

variable {w w' : World σ}

theorem steady : Steady (σ := σ) SameTables where
  refl _ := ⟨rfl, rfl, rfl⟩
  trans h h' := ⟨h'.busy.trans h.busy, h'.classes.trans h.classes, h'.maxArguments.trans h.maxArguments⟩

theorem encodeAll_tables (args : List Value) (b : Bridge) :
    (b.encodeAll args).2.classes = b.classes ∧ (b.encodeAll args).2.maxArguments = b.maxArguments := by
  induction args generalizing b with
  | nil => exact ⟨rfl, rfl⟩
  | cons v rest ih =>
    obtain ⟨hclasses, hmax⟩ := ih (b.encode v).2
    have hv : (b.encode v).2.classes = b.classes ∧ (b.encode v).2.maxArguments = b.maxArguments := by
      cases v <;> exact ⟨rfl, rfl⟩
    exact ⟨hclasses.trans hv.1, hmax.trans hv.2⟩

theorem opened (args : List Value) (w : World σ) : SameTables w (openFrame args w).2 := by
  obtain ⟨hclasses, hmax⟩ := encodeAll_tables args { w.bridge with ledger := w.bridge.ledger.pushFrame }
  exact ⟨rfl, hclasses, hmax⟩

theorem upkeep : Upkeep (σ := σ) SameTables where
  toSteady := steady
  memory _ _ := ⟨rfl, rfl, rfl⟩
  log _ _ := ⟨rfl, rfl, rfl⟩
  retained _ _ _ _ := ⟨rfl, rfl, rfl⟩
  released _ _ _ _ _ := ⟨rfl, rfl, rfl⟩
  promised _ _ _ := ⟨rfl, rfl, rfl⟩

theorem reporting : Reporting (σ := σ) SameTables where
  deferred _ _ := ⟨rfl, rfl, rfl⟩
  rejected _ _ _ := ⟨rfl, rfl, rfl⟩
  logged _ _ := ⟨rfl, rfl, rfl⟩

theorem callback {host : Host σ} {run : Runner σ} (hr : run.Obeys SameTables) (c : Callback)
    (slots : List Slot) (args : List Value) {finish : Reply → Act σ α}
    (hf : ∀ r, (finish r).Keeps SameTables) : Act.Keeps SameTables (run.callHost host c slots args finish) :=
  fun w => upkeep.callHost hr hf (opened args w)
    (fun hb _ h => ⟨hb.symm, h.classes, h.maxArguments⟩) fun _ => ⟨rfl, rfl, rfl⟩

theorem bystander (host : Host σ) : Bystander host (SameTables (σ := σ)) where
  toBackground := upkeep.toBackground
  engineChange _ _ := ⟨rfl, rfl, rfl⟩
  rejection _ hr := upkeep.rejection hr reporting host
  instanceBuilt _ _ _ _ := ⟨rfl, rfl, rfl⟩
  memberAsked _ _ _ _ _ := ⟨rfl, rfl, rfl⟩
  tokenDrawn _ _ := ⟨rfl, rfl, rfl⟩
  tokenMade _ _ := ⟨rfl, rfl, rfl⟩
  tokenRefused _ _ := ⟨rfl, rfl, rfl⟩
  callback _ hr _ c slots args _ _ _ hf := callback hr c slots args hf

theorem hold {run : Runner σ} (hr : run.Obeys SameTables) (v : Value) : Act.Keeps SameTables (run.hold v) :=
  fun w => by
    have hheld : SameTables w (w.holding v) := ⟨rfl, rfl, rfl⟩
    rw [Act.after, hold_eq, ← Act.after]
    exact steady.trans hheld (hr.script _ _)

theorem usage (host : Host σ) : Usage host (SameTables (σ := σ)) where
  toAttendance := Onlooker.attendance {
    toBystander := bystander host
    retained := upkeep.retained
    released := upkeep.released
    promised := upkeep.promised
    busy := SameTables.busy
    withholding := fun _ hr _ _ hm => upkeep.withholding hr reporting host hm
    valueHeld := fun _ _ _ => ⟨rfl, rfl, rfl⟩
    promiseTaken := fun _ _ _ _ _ => ⟨rfl, rfl, rfl⟩
    intrinsicsSet := fun _ _ => ⟨rfl, rfl, rfl⟩
    deathQueued := fun _ _ => ⟨rfl, rfl, rfl⟩
    dequeued := fun _ _ => ⟨rfl, rfl, rfl⟩
    notice := fun _ hr _ w _ => callback hr _ _ _ (fun _ => steady.pure ()) w }
  valueStaged w v _ := by
    cases v <;> exact ⟨rfl, rfl, rfl⟩
  cacheCleared _ := ⟨rfl, rfl, rfl⟩

/-- Neither a registration nor the end: the table stays. -/
theorem operation {c : Context σ} {op : HostOp} (hb : c.world.busy = false) (hopen : op ≠ .close)
    (hop : op.enrols = false) : SameTables c.world (c.apply op).world :=
  (usage c.host).operation hb hopen fun h => absurd (hop.symm.trans h) Bool.false_ne_true

end SameTables

/-! ### Registrations -/

/-- Whatever becomes of a registration, the class has been entered, or the table is as it was and there is no
result. -/
theorem Runner.registerClass_enters {run : Runner σ} (hr : run.Obeys SameTables) (host : Host σ)
    (d : ClassDescriptor) (classId : Int32) (w : World σ) :
    (SameTables w ((run.registerClass d classId).after w) ∧ ∃ e w', run.registerClass d classId w = .error e w') ∨
      (w.bridge.classes.lookup classId = none ∧
        ∃ shown, SameTables (w.enrolling (classEntry d classId shown)) ((run.registerClass d classId).after w)) := by
  have hR : Attendance host (SameTables (σ := σ)) := (SameTables.usage host).toAttendance
  rcases hfree : w.bridge.classes.lookup classId with - | e
  · rw [Act.after, run.registerClass_free d classId hfree]
    have hshown := hR.showClass hr d classId w
    rcases e : run.showClass d classId w with ⟨shown, w₁⟩ | ⟨f, w₁⟩
    · rw [Act.after_ok e] at hshown
      refine .inr ⟨rfl, shown, ?_⟩
      have henrolled : SameTables (w.enrolling (classEntry d classId shown))
          (w₁.enrolling (classEntry d classId shown)) :=
        ⟨hshown.busy, congrArg (· ++ _) hshown.classes, hshown.maxArguments⟩
      rw [Act.bind_ok e]
      exact SameTables.steady.trans henrolled (SameTables.hold hr (.object shown.1) _)
    · rw [Act.after_error e] at hshown
      rw [Act.bind_error e]
      exact .inl ⟨hshown, f, w₁, rfl⟩
  · have htaken := run.registerClass_taken d classId (by rw [hfree]; rfl)
    rw [Act.after_error htaken]
    exact .inl ⟨SameTables.steady.refl w, _, w, htaken⟩

theorem Runner.settle_fails (run : Runner σ) {m : Act σ α} {w w' : World σ} {e : Failure}
    (h : m w = .error e w') : ∃ e' w'', run.settle m w = .error e' w'' := by
  cases e with
  | thrown v =>
    obtain ⟨e', w'', hfault⟩ := Act.Fails.bind (m := run.script (renderThrown v))
      (k := fun text => (Act.fault (.exception text) : Act σ α)) (fun _ => .throw _) w'
    exact ⟨e', w'', by rw [settle, h]; exact hfault⟩
  | fault f => exact ⟨.fault f, w', by rw [settle, h]⟩
  | interrupted => exact ⟨.interrupted, w', by rw [settle, h]⟩

/-! ### Contexts and their classes -/

namespace Context

/-- The class that an operation declares: one that a registration has entered in the table. -/
def declares (c : Context σ) : HostOp → List (Int32 × ClassDescriptor)
  | .registerClass d classId =>
    if (c.world.bridge.classes.lookup classId).isNone
      && ((c.registerClass d classId).2.world.bridge.classes.lookup classId).isSome then [(classId, d)]
    else []
  | _ => []

/-- A context that a host can come to from this setup without ending it, with the classes that were declared
on the way. -/
inductive Declared (s : Setup) : Context σ → List (Int32 × ClassDescriptor) → Prop where
  | created {host : Host σ} {limits : Limits} {memory : σ} {c : Context σ} :
      create host limits s memory = .ok c → Declared s c []
  | step {c : Context σ} {ds : List (Int32 × ClassDescriptor)} {op : HostOp} : op ≠ .close →
      Declared s c ds → Declared s (c.apply op) (ds ++ c.declares op)

end Context

/-- The entry of a class says what its descriptor says. -/
def Describes (e : Int32 × ClassEntry) (x : Int32 × ClassDescriptor) : Prop :=
  e.1 = x.1 ∧ e.2.name = x.2.name ∧ e.2.routes = x.2.routes

/-- The member at a position of a class, by the descriptors of the classes. -/
def declaredRoute? (ds : List (Int32 × ClassDescriptor)) (classId : Int32) (position : Nat) :
    Option MemberRoute :=
  (ds.lookup classId).bind fun d => (d.routes[position]?).join

theorem lookup_described {t : ClassTable} {ds : List (Int32 × ClassDescriptor)}
    (h : List.Forall₂ Describes t ds) (classId : Int32) :
    (t.lookup classId = none ∧ ds.lookup classId = none) ∨
      ∃ e d, t.lookup classId = some e ∧ ds.lookup classId = some d ∧ e.name = d.name ∧ e.routes = d.routes := by
  induction h with
  | nil => exact .inl ⟨rfl, rfl⟩
  | @cons e x t ds hex _ ih =>
    obtain ⟨k, e⟩ := e
    obtain ⟨k', d⟩ := x
    obtain ⟨rfl, hname, hroutes⟩ := hex
    by_cases hk : classId = k
    · refine .inr ⟨e, d, ?_, ?_, hname, hroutes⟩ <;> simp [hk]
    · simpa [List.lookup, beq_false_of_ne hk] using ih

theorem route?_described {t : ClassTable} {ds : List (Int32 × ClassDescriptor)}
    (h : List.Forall₂ Describes t ds) (classId : Int32) (position : Nat) :
    t.route? classId position = declaredRoute? ds classId position := by
  obtain ⟨ht, hds⟩ | ⟨e, d, ht, hds, -, hroutes⟩ := lookup_described h classId
  · rw [ClassTable.route?, declaredRoute?, ht, hds]
    rfl
  · rw [ClassTable.route?, declaredRoute?, ht, hds, Option.bind_some, ← hroutes]

namespace Context.Declared

variable {s : Setup} {c : Context σ} {ds : List (Int32 × ClassDescriptor)}

theorem reachable (hc : c.Declared s ds) : c.Reachable := by
  induction hc with
  | created h => exact .created h
  | step _ _ ih => exact .step _ ih

/-- An operation that declares these classes. -/
theorem declaring (hc : c.Declared s ds) (op : HostOp) {more : List (Int32 × ClassDescriptor)}
    (hopen : op ≠ .close) (h : c.declares op = more) : (c.apply op).Declared s (ds ++ more) :=
  h ▸ hc.step hopen

/-- After a registration the class has been entered and is declared, or nothing of either, and then there was
no result. -/
theorem registered (c : Context σ) (d : ClassDescriptor) (classId : Int32) :
    (SameTables c.world (c.apply (.registerClass d classId)).world
        ∧ c.declares (.registerClass d classId) = [] ∧ (c.registerClass d classId).1.toBool = false) ∨
      (c.world.bridge.classes.lookup classId = none ∧ c.declares (.registerClass d classId) = [(classId, d)]
        ∧ ∃ shown, SameTables (c.world.enrolling (classEntry d classId shown))
          (c.apply (.registerClass d classId)).world) := by
  have hR : Attendance c.host (SameTables (σ := σ)) := (SameTables.usage c.host).toAttendance
  have hworld : (c.registerClass d classId).2.world
      = (c.runner.settle (c.runner.registerClass d classId)).after c.world := by
    rw [registerClass, perform_world]
  have hsettled : SameTables ((c.runner.registerClass d classId).after c.world)
      (c.registerClass d classId).2.world := by
    rw [hworld]
    exact hR.settled hR.runner _ _
  rcases Runner.registerClass_enters hR.runner c.host d classId c.world
    with ⟨hsame, e, w', herror⟩ | ⟨hfree, shown, hsame⟩
  · have hall := SameTables.steady.trans hsame hsettled
    refine .inl ⟨hall, ?_, ?_⟩
    · rw [declares, hall.classes]
      cases c.world.bridge.classes.lookup classId <;> rfl
    · obtain ⟨e', w'', hsettle⟩ := c.runner.settle_fails herror
      rw [registerClass, perform, hsettle]
      rfl
  · have hall := SameTables.steady.trans hsame hsettled
    refine .inr ⟨hfree, ?_, shown, hall⟩
    have hfound : ((c.world.bridge.classes ++ [classEntry d classId shown]).lookup classId).isSome = true := by
      rw [List.lookup_append, hfree]
      simp [classEntry]
    rw [declares, hall.classes, hfree]
    exact if_pos hfound

theorem table (hc : c.Declared s ds) :
    c.world.busy = false ∧ c.world.bridge.maxArguments = s.maxArguments ∧
      List.Forall₂ Describes c.world.bridge.classes ds ∧ (ds.map Prod.fst).Nodup := by
  induction hc with
  | @created host limits memory c h =>
    have hR : Attendance (blank host limits s memory).host (SameTables (σ := σ)) :=
      (SameTables.usage host).toAttendance
    have hinstalled : SameTables (emptyWorld s memory) c.world := by
      rw [create_ok h]
      exact Attendance.performed (hR.install _ hR.runner)
    refine ⟨hinstalled.busy, hinstalled.maxArguments, ?_, List.nodup_nil⟩
    rw [hinstalled.classes]
    exact .nil
  | @step c ds op hopen hc ih =>
    obtain ⟨hb, hmax, htable, hnodup⟩ := ih
    by_cases hop : op.enrols = true
    · cases op with
      | registerClass d classId =>
        obtain ⟨hsame, hnone, -⟩ | ⟨hfree, hdeclared, shown, hsame⟩ := registered c d classId
        · rw [hnone, List.append_nil]
          exact ⟨hsame.busy.trans hb, hsame.maxArguments.trans hmax, hsame.classes ▸ htable, hnodup⟩
        · rw [hdeclared]
          refine ⟨hsame.busy.trans hb, hsame.maxArguments.trans hmax, ?_, ?_⟩
          · rw [hsame.classes]
            exact List.rel_append htable (.cons ⟨rfl, rfl, rfl⟩ .nil)
          · obtain ⟨-, hnew⟩ | ⟨e, d', htaken, -⟩ := lookup_described htable classId
            · -- the new number is none of those that were declared before
              have hother : ∀ x ∈ ds, classId ≠ x.1 := fun x hx =>
                bne_iff_ne.mp (List.lookup_eq_none_iff.mp hnew x hx)
              rw [List.map_append, List.nodup_append]
              refine ⟨hnodup, List.nodup_singleton _, fun a ha b hb' heq => ?_⟩
              obtain ⟨x, hx, rfl⟩ := List.mem_map.mp ha
              exact hother x hx ((List.mem_singleton.mp hb').symm.trans heq.symm)
            · cases hfree.symm.trans htaken
      | _ => cases hop
    · have hsame := SameTables.operation hb hopen (Bool.not_eq_true _ ▸ hop)
      have hnone : c.declares op = [] := by
        cases op with
        | registerClass d classId => exact absurd rfl hop
        | _ => rfl
      rw [hnone, List.append_nil]
      exact ⟨hsame.busy.trans hb, hsame.maxArguments.trans hmax, hsame.classes ▸ htable, hnodup⟩

end Context.Declared

theorem Context.spacious_declared : spacious.Declared ⟨8, false, none⟩ [] := .created spacious_created

theorem Context.binding_declared :
    binding.Declared ⟨8, false, none⟩ [(7, ⟨"Counter", [⟨"add", .function⟩]⟩)] := by
  have hregistered : spacious.declares (.registerClass ⟨"Counter", [⟨"add", .function⟩]⟩ 7)
      = [(7, ⟨"Counter", [⟨"add", .function⟩]⟩)] := by decide +kernel
  have hcounting : counting.Declared ⟨8, false, none⟩ [(7, ⟨"Counter", [⟨"add", .function⟩]⟩)] :=
    spacious_declared.declaring _ nofun hregistered
  exact hcounting.declaring (.tryDispatch .bind [.hostClass 7 ⟨1⟩]) nofun rfl

end ScriptBridge
