import ScriptBridge.Proofs.Carriers
import ScriptBridge.Proofs.Keeping

/-!
What a member function makes of its receiver.

A receiver is an instance of a class by its kind alone, which no script can give to an object, and its
token is read where everybody can read it: in a property that stays what it is.  So for an instance of
the member's class the fixed slots of the call name its token, and every other receiver is turned away:

    memberSlots k n route (.object r)  =  [.int32 k, .int32 n, .rawPointer t]    if r is instance k t
    memberSlots k n route this         =  throwNew .typeError "Illegal invocation"    otherwise

Reading takes steps, so a run may be interrupted while it reads; nothing has changed then.
-/
namespace ScriptBridge

open Data Text Script Script.Script

variable {σ : Type}

/-- The receiver is an instance of the class, with this token. -/
def Script.Value.IsInstance (this : Value) (e : Engine) (classId : Int32) (t : UInt64) : Prop :=
  ∃ r, this = .object r ∧ (e.obj r).kind = .host (.instance classId t)

namespace Runner

variable {R : World σ → World σ → Prop} {run : Runner σ} {w : World σ} {classId : Int32}
  {position : Nat} {route : MemberRoute} {this : Value} {r : Ref} {t : UInt64}

theorem instanceToken_object (run : Runner σ) (classId : Int32) (r : Ref) (w : World σ) :
    run.instanceToken classId (.object r) w
      = (match (w.engine.obj r).kind with
        | .host (.instance owner _) =>
          if owner == classId then do
            return (← run.script (marker r targetKey)).map Number.saturatingUInt64
          else return none
        | _ => return none : Act σ (Option UInt64)) w := rfl

/-- An instance of the class is known by its token. -/
theorem instanceToken_instance (hr : run.Obeys R)
    (hkind : (w.engine.obj r).kind = .host (.instance classId t)) (hm : (w.engine.obj r).Marked)
    (hpos : 0 < t.toNat) (hsmall : t.toNat < 2 ^ 53) :
    run.instanceToken classId (.object r) w = .error .interrupted w
      ∨ run.instanceToken classId (.object r) w = .ok (some t) w := by
  obtain ⟨p, hp, hshows⟩ := hm t (Obj.token?_host hkind) hpos hsmall
  obtain ⟨x, hexact, hreads⟩ := reads_marker hkind hp hshows
  -- the token is read as a double, and comes back as the word that it was
  have htoken : Number.saturatingUInt64 x = t := by
    rw [hexact.saturatingUInt64 hsmall, UInt64.ofNat_toNat]
  have hread : (marker r targetKey : Script _ (Option Float)).run.Reads w.engine (some x) :=
    hreads (.done _)
  rw [instanceToken_object, hkind]
  simp only [beq_self_eq_true, if_true]
  rcases hr.script_reads hread with e | e
  · exact .inl (Act.bind_error e)
  · refine .inr ((Act.bind_ok e).trans ?_)
    rw [← htoken]
    rfl

/-- Nothing else is. -/
theorem instanceToken_other (run : Runner σ) (hthis : ∀ t, ¬ this.IsInstance w.engine classId t) :
    run.instanceToken classId this w = .ok none w := by
  cases this with
  | object r =>
    rw [instanceToken_object]
    rcases hkind : (w.engine.obj r).kind with p | d
    · rfl
    -- an instance of another class is told apart by its kind alone
    · cases d with
      | «instance» owner u =>
        have howner : (owner == classId) = false := by
          refine beq_eq_false_iff_ne.mpr fun heq => hthis u ⟨r, rfl, ?_⟩
          rw [hkind, heq]
        simp only [howner]
        rfl
      | _ => rfl
  | _ => rfl

/-! ### Slots -/

theorem memberSlots_static (run : Runner σ) (hroute : route.isStatic = true) :
    run.memberSlots classId position route this w
      = .ok [.int32 classId, .int32 (Int32.ofNat position)] w := by
  rw [memberSlots, if_pos hroute]
  rfl

theorem memberSlots_member (run : Runner σ) (hroute : route.isStatic = false) :
    run.memberSlots classId position route this w
      = (do
        match ← run.instanceToken classId this with
        | some t => return [.int32 classId, .int32 (Int32.ofNat position), .rawPointer t]
        | none => run.throwNew .typeError "Illegal invocation" : Act σ (List Slot)) w := by
  rw [memberSlots, if_neg (by rw [hroute]; exact Bool.false_ne_true)]
  rfl

theorem memberSlots_instance (hr : run.Obeys R) (position : Nat) (hroute : route.isStatic = false)
    (hkind : (w.engine.obj r).kind = .host (.instance classId t)) (hm : (w.engine.obj r).Marked)
    (hpos : 0 < t.toNat) (hsmall : t.toNat < 2 ^ 53) :
    run.memberSlots classId position route (.object r) w = .error .interrupted w
      ∨ run.memberSlots classId position route (.object r) w
        = .ok [.int32 classId, .int32 (Int32.ofNat position), .rawPointer t] w := by
  rw [memberSlots_member run hroute]
  rcases instanceToken_instance hr hkind hm hpos hsmall with e | e
  · exact .inl (Act.bind_error e)
  · exact .inr (Act.bind_ok e)

theorem memberSlots_other (run : Runner σ) (hroute : route.isStatic = false)
    (hthis : ∀ t, ¬ this.IsInstance w.engine classId t) :
    run.memberSlots classId position route this w = run.throwNew .typeError "Illegal invocation" w := by
  rw [memberSlots_member run hroute]
  exact Act.bind_ok (run.instanceToken_other hthis)

/-- What a member call can come to when it sends its slots: a static member, or an instance. -/
theorem memberSlots_ok (hr : run.Obeys R) {w' : World σ} {fixed : List Slot}
    (hshown : ∀ {r t}, (w.engine.obj r).kind = .host (.instance classId t) →
      (w.engine.obj r).Marked ∧ 0 < t.toNat ∧ t.toNat < 2 ^ 53)
    (h : run.memberSlots classId position route this w = .ok fixed w') :
    w' = w ∧ ((route.isStatic = true ∧ fixed = [.int32 classId, .int32 (Int32.ofNat position)])
      ∨ ∃ t, this.IsInstance w.engine classId t
        ∧ fixed = [.int32 classId, .int32 (Int32.ofNat position), .rawPointer t]) := by
  cases hroute : route.isStatic with
  | true =>
    rw [memberSlots_static run hroute] at h
    cases h
    exact ⟨rfl, .inl ⟨rfl, rfl⟩⟩
  | false =>
    by_cases hthis : ∃ t, this.IsInstance w.engine classId t
    · obtain ⟨t, r, rfl, hkind⟩ := hthis
      obtain ⟨hm, hpos, hsmall⟩ := hshown hkind
      have hslots := memberSlots_instance hr position hroute hkind hm hpos hsmall
      rcases hslots with e | e
      · cases e.symm.trans h
      · cases e.symm.trans h
        exact ⟨rfl, .inr ⟨t, ⟨r, rfl, hkind⟩, rfl⟩⟩
    · rw [memberSlots_other run hroute fun t ht => hthis ⟨t, ht⟩] at h
      obtain ⟨e, w'', hthrow⟩ := run.throwNew_fails (α := List Slot) .typeError "Illegal invocation" w
      cases hthrow.symm.trans h

/-! ### Members -/

theorem callMember_unknown (run : Runner σ) (host : Host σ) (args : List Value)
    (hroute : w.bridge.classes.route? classId position = none) :
    run.callMember host classId position this args w = run.throwFault .wrongArguments w := by
  rw [callMember, Act.bind_bridge, hroute]

/-- A member is asked for before the receiver is looked at. -/
theorem callMember_known (run : Runner σ) (host : Host σ) (args : List Value)
    (hroute : w.bridge.classes.route? classId position = some route) :
    run.callMember host classId position this args w
      = run.sendMember host classId position route this args
          { w with bridge := w.bridge.note (.asked classId position route this) } := by
  rw [callMember, Act.bind_bridge, hroute]
  rfl

/-! ### Slots for the host -/

/-- Whoever hands an object that carries a token to the host names the token. -/
theorem classify_carrier (hr : run.Obeys R) (h : Handle) {d : HostData}
    (hkind : (w.engine.obj r).kind = .host d) (ht : d.token? = some t) (hm : (w.engine.obj r).Marked)
    (hpos : 0 < t.toNat) (hsmall : t.toNat < 2 ^ 53) :
    run.script (classify h (.object r)) w = .error .interrupted w
      ∨ run.script (classify h (.object r)) w = .ok (.hostObject t h) w := by
  obtain ⟨p, hp, hshows⟩ := hm t ((Obj.token?_host hkind).trans ht) hpos hsmall
  obtain ⟨x, hexact, hreads⟩ := reads_marker hkind hp hshows
  have htoken : Number.saturatingUInt64 x = t := by
    rw [hexact.saturatingUInt64 hsmall, UInt64.ofNat_toNat]
  have hread : (classify h (.object r) : Script Slot Slot).run.Reads w.engine (.hostObject t h) := by
    refine hreads ?_
    rw [← htoken]
    exact .done _
  exact hr.script_reads hread

end Runner

end ScriptBridge
