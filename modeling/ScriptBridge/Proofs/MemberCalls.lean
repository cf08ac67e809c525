import ScriptBridge.Proofs.ActionShapes
import ScriptBridge.Proofs.Lasting

/-!
Member calls never confuse objects or classes.

A member function of a class reaches the host only for a receiver that is an instance of that very
class, and then it names the class, its own position, and the token that this object was built with:

    .entered .call (.int32 k :: .int32 n :: .rawPointer t :: _)
      after  .asked k n route (.object r)   and   .built r k t

Every other receiver is turned away before anything but the script's heap has changed.  Design: that a
callback is of this form is part of what `Lasts` keeps along every run; what one construction and one
refusal do is read off their definitions, in whatever world they happen.
-/
namespace ScriptBridge

open Data Text Script Script.Script Runner

variable {σ : Type} {host : Host σ}

/-! ### Constructions -/

/-- The end of a construction: what is made is an instance with the token that was drawn. -/
theorem Runner.makeInstance_builds {classId : Int32} {t : UInt64} {proto : Ref} {w w' : World σ}
    {v : Value} (h : Runner.makeInstance classId t proto w = .ok v w') :
    ∃ r, v = .object r ∧ (w'.engine.obj r).kind = .host (.instance classId t) ∧
      w'.bridge.journal = .built r classId t :: .made t :: w.bridge.journal := by
  cases h
  refine ⟨.made w.engine.next, rfl, ?_, rfl⟩
  show ((w.engine.allocateObj (hostObject (.instance classId t) proto _)).2.obj _).kind = _
  rw [obj_allocate]
  exact Lasts.kind_hostObject _ _ _

/-- **A construction gives an object of the class with the token that was drawn for it.** -/
theorem Runner.constructInstance_builds {run : Runner σ} (hr : run.Obeys Grows) {classId : Int32}
    {target : Value} {args : List Value} {w w' : World σ} {v : Value}
    (h : run.constructInstance host classId target args w = .ok v w') :
    ∃ (r : Ref) (t : UInt64) (during before : List Occurrence), v = .object r ∧
      (w'.engine.obj r).kind = .host (.instance classId t) ∧
      w'.bridge.journal
        = .built r classId t :: .made t :: during ++ .drawn t :: before ++ w.bridge.journal := by
  have hR : Upkeep (σ := σ) Grows := Adds.upkeep fun _ _ => trivial
  have hO : Observer host (Grows (σ := σ)) := (Adds.bystander (fun _ _ => trivial) host).observer
  obtain ⟨proto, w₀, hlooked, hmade⟩ := Runner.constructInstance_ok hR.toBackground hr h
  obtain ⟨before, hbefore, -⟩ := hlooked.journal
  -- whether or not the host is asked, the journal grows until the object is made
  obtain ⟨w₁, hmiddle, hend⟩ : ∃ w₁, Grows ((Runner.drawToken : Act σ UInt64).after w₀) w₁ ∧
      Runner.makeInstance classId (w₀.bridge.lastToken + 1) proto w₁ = .ok v w' := by
    rcases hmade with ⟨-, hend⟩ | ⟨-, w₁, happrove, hend⟩
    · exact ⟨_, hR.refl _, hend⟩
    · exact ⟨w₁, (hO.approve hr classId _ args).of_ok happrove, hend⟩
  obtain ⟨during, hduring, -⟩ := hmiddle.journal
  obtain ⟨s, rfl, hkind, hjournal⟩ := Runner.makeInstance_builds hend
  refine ⟨s, _, during, before, rfl, hkind, ?_⟩
  rw [hjournal, hduring]
  show _ :: _ :: (during ++ .drawn _ :: w₀.bridge.journal) = _
  rw [hbefore]
  simp

/-! ### Refusals -/

/-- **A receiver that is no instance of the class is turned away**, and nothing but the script's heap has
changed. -/
theorem Machine.member_refuses (host : Host σ) (steps depth : Nat) {f : Ref} {classId : Int32}
    {position : Nat} {route : MemberRoute} {this : Value} (args : List Value) {w : World σ}
    (hf : (w.engine.obj f).kind = .host (.member classId position))
    (hroute : w.bridge.classes.route? classId position = some route) (hmember : route.isStatic = false)
    (hthis : ∀ t, ¬ this.IsInstance w.engine classId t) :
    let done := Machine.callObject (Machine.runner host steps depth) host f this args
    ((done.after w).bridge = w.bridge.note (.asked classId position route this) ∧
      (done.after w).memory = w.memory ∧ (done.after w).busy = w.busy) ∧
    (2 ≤ steps → ∃ r, done w = .error (.thrown (.object r)) (done.after w) ∧
      (done.after w).engine.obj r = errorObject .typeError "Illegal invocation") := by
  intro done
  -- the member is looked up and its call is noted before the receiver is looked at
  have hdone : done w = ((Machine.runner host steps depth).throwNew .typeError "Illegal invocation"
      : Act σ Value) { w with bridge := w.bridge.note (.asked classId position route this) } := by
    refine ((Machine.callObject_host _ host args hf this).trans (Runner.callMember_known _ host args hroute)).trans ?_
    have hslots : (Machine.runner host steps depth).memberSlots classId position route this
        { w with bridge := w.bridge.note (.asked classId position route this) }
      = (Machine.runner host steps depth).throwNew .typeError "Illegal invocation"
        { w with bridge := w.bridge.note (.asked classId position route this) } :=
      memberSlots_other _ hmember hthis
    rw [Runner.sendMember, Act.bind_congr hslots, throwNew_bind]
  rw [throwNew_eq] at hdone
  -- throwing takes steps, but whatever they come to, only the heap may differ
  have hafter : ∃ e, done.after w = { w with
      engine := e, bridge := w.bridge.note (.asked classId position route this) } := by
    rw [Act.after, hdone]
    rcases steps with - | - | n <;> exact ⟨_, rfl⟩
  obtain ⟨e, he⟩ := hafter
  refine ⟨by rw [he]; exact ⟨rfl, rfl, rfl⟩, fun hsteps => ?_⟩
  obtain ⟨n, rfl⟩ := Nat.exists_eq_add_of_le' hsteps
  refine ⟨.made w.engine.next, ?_, ?_⟩
  · rw [Act.after, hdone]
  · rw [Act.after, hdone]
    exact obj_allocate _ _

/-! ### What is reported of an instance -/

/-- The host is told that an object is the instance with this token, whenever it is told of the object
at all: as the receiver of a member, and as a value that it holds. -/
def World.Reports (host : Host σ) (w : World σ) (r : Ref) (classId : Int32) (t : UInt64) : Prop :=
  ∀ steps depth,
    let run := Machine.runner host steps depth
    (∀ position route, route.isStatic = false →
      run.memberSlots classId position route (.object r) w = .error .interrupted w ∨
        run.memberSlots classId position route (.object r) w
          = .ok [.int32 classId, .int32 (Int32.ofNat position), .rawPointer t] w) ∧
    (∀ h, run.script (classify h (.object r)) w = .error .interrupted w ∨
      run.script (classify h (.object r)) w = .ok (.hostObject t h) w)

theorem World.Manifest.reports {w : World σ} (hm : w.Manifest) (hfew : w.Few) (host : Host σ) {r : Ref}
    {classId : Int32} {t : UInt64} (hkind : (w.engine.obj r).kind = .host (.instance classId t)) :
    w.Reports host r classId t := by
  intro steps depth
  have hr : (Machine.runner host steps depth).Obeys Lasts :=
    (Lasts.observer host).conduct.runner steps depth
  obtain ⟨hmarked, hpos, hsmall⟩ := hm.shows hfew hkind
  exact ⟨fun position route hroute => memberSlots_instance hr position hroute hkind hmarked hpos hsmall,
    fun h => classify_carrier hr h hkind rfl hmarked hpos hsmall⟩

/-! ### The whole -/

/-- **Member calls never confuse objects or classes.**  In every context that a host can come to by fewer
than `2 ^ 53` constructions:

1. whenever the host was called for a member, a script had called just that member, and if it is a member
   of instances, the receiver was an object built as an instance of that class, and the first three slots
   are the class, the member's position and the token that this object was built with;
2. no object is built twice;
3. a construction that succeeds, in whatever world, builds an object of its class with the token that was
   drawn for it;
4. in whatever world a member of instances is called with another receiver, it throws, and neither the
   host nor anything on the host's side has been touched;
5. whatever script runs, an instance stays what it is, and the same is reported of it. -/
theorem Context.Reachable.member_calls {c : Context σ} (hc : c.Reachable)
    (hfew : (draws c.world.bridge.journal).length < 2 ^ 53) :
    (∀ later slots earlier, c.world.bridge.journal = later ++ .entered .call slots :: earlier →
      CalledFor earlier slots) ∧
    (∀ r k t k' t', .built r k t ∈ c.world.bridge.journal → .built r k' t' ∈ c.world.bridge.journal →
      k = k' ∧ t = t') ∧
    (∀ steps depth k target args (w w' : World σ) v,
      (Machine.runner c.host steps depth).constructInstance c.host k target args w = .ok v w' →
      ∃ r t during before, v = .object r ∧ (w'.engine.obj r).kind = .host (.instance k t) ∧
        w'.bridge.journal
          = .built r k t :: .made t :: during ++ .drawn t :: before ++ w.bridge.journal) ∧
    (∀ steps depth f k n route this args (w : World σ), (w.engine.obj f).kind = .host (.member k n) →
      w.bridge.classes.route? k n = some route → route.isStatic = false →
      (∀ t, ¬ this.IsInstance w.engine k t) →
      let done := Machine.callObject (Machine.runner c.host steps depth) c.host f this args
      ((done.after w).bridge = w.bridge.note (.asked k n route this) ∧
        (done.after w).memory = w.memory ∧ (done.after w).busy = w.busy) ∧
      (2 ≤ steps → ∃ r, done w = .error (.thrown (.object r)) (done.after w) ∧
        (done.after w).engine.obj r = errorObject .typeError "Illegal invocation")) ∧
    (∀ steps depth (ρ : Type) (p : Prog ρ) r k t,
      (c.world.engine.obj r).kind = .host (.instance k t) →
      let w' := (Machine.run c.host steps depth p c.world).2
      (draws w'.bridge.journal).length < 2 ^ 53 →
      (w'.engine.obj r).kind = .host (.instance k t) ∧ c.world.Reports c.host r k t
        ∧ w'.Reports c.host r k t) := by
  have hm : c.world.Manifest := hc.manifest hfew
  have hlife : c.world.Life [] := (hc.life hfew).2
  refine ⟨hm.registered.called, fun r k t k' t' => hm.registered.once, ?_, ?_, ?_⟩
  · intro steps depth k target args w w' v h
    have hr : (Machine.runner c.host steps depth).Obeys Grows :=
      (Adds.bystander (fun _ _ => trivial) c.host).conduct.runner steps depth
    exact Runner.constructInstance_builds hr h
  · intro steps depth f k n route this args w hf hroute hmember hthis
    exact Machine.member_refuses c.host steps depth args hf hroute hmember hthis
  · intro steps depth ρ p r k t hkind w' hfew'
    -- the world after the run is manifest too, so the same is read there
    have hkind' := Lasts.run_keeps c.host steps depth p hm hlife hfew' hkind rfl
    have hlasts : Lasts c.world w' := ((Lasts.observer c.host).conduct.runner steps depth).keeps p c.world
    exact ⟨hkind', hm.reports hfew c.host hkind, (hlasts.manifest hfew' hm).reports hfew' c.host hkind'⟩

/-- Class, position and token of a call to a member of an instance. -/
def Occurrence.memberCall? : Occurrence → Option (Int32 × Int32 × UInt64)
  | entered .call (.int32 k :: .int32 n :: .rawPointer t :: _) => some (k, n, t)
  | _ => none

theorem memberCall?_eq {x : Occurrence} {k n : Int32} {t : UInt64}
    (h : x.memberCall? = some (k, n, t)) :
    ∃ rest, x = .entered .call (.int32 k :: .int32 n :: .rawPointer t :: rest) := by
  unfold Occurrence.memberCall? at h
  split at h
  · cases h
    exact ⟨_, rfl⟩
  · cases h

namespace Context

def counting : Context Unit := spacious.apply (.registerClass ⟨"Counter", [⟨"add", .function⟩]⟩ 7)

def binding : Context Unit := counting.apply (.tryDispatch .bind [.hostClass 7 ⟨1⟩])

/-- The host has registered a class, bound an instance and invoked its member. -/
def adding : Context Unit :=
  binding.apply (.tryDispatch .invoke [.hostObject 1 ⟨2⟩, .text "add", .int32 0])

theorem adding_reachable : adding.Reachable :=
  .step _ (.step _ (.step _ spacious_reachable))

end Context

/-- The host was called for the member, and there was a call of the member before. -/
theorem Context.Reachable.member_calls_adding :
    adding.Reachable ∧ draws adding.world.bridge.journal = [1] ∧
    ∃ later earlier rest, adding.world.bridge.journal
        = later ++ .entered .call (.int32 7 :: .int32 0 :: .rawPointer 1 :: rest) :: earlier ∧
      CalledFor earlier (.int32 7 :: .int32 0 :: .rawPointer 1 :: rest) := by
  obtain ⟨hdraws, hcalled⟩ : draws adding.world.bridge.journal = [1] ∧
      (7, 0, 1) ∈ findings Occurrence.memberCall? adding.world.bridge.journal := by decide +kernel
  obtain ⟨x, hx, hcall⟩ := mem_findings.mp hcalled
  obtain ⟨rest, rfl⟩ := memberCall?_eq hcall
  obtain ⟨later, earlier, hj⟩ := List.append_of_mem hx
  have hcalls := (member_calls adding_reachable (by rw [hdraws]; decide)).1
  exact ⟨adding_reachable, hdraws, later, earlier, rest, hj, hcalls _ _ _ hj⟩

end ScriptBridge
