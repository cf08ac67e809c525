import ScriptBridge.Proofs.ActionShapes
import ScriptBridge.Proofs.TokenRuns

/-!
The life cycle of a token, as the host sees it.

`TokenRuns` shows that every journal of a context is lawful.  Here the rest is put beside it: when an
approval fails, and why; that scripts deliver no notice of a death; and that nothing is left to tell
when the notices have gone out.
-/
namespace ScriptBridge

open Data Text Script Script.Script Runner

variable {σ α β : Type} {host : Host σ} {run : Runner σ}

/-! ### Refusals -/

/-- The host says no to a construction. -/
def Reply.Refuses : Reply → Prop
  | .throw _ | .failure _ => True
  | .done | .value _ => False

theorem Runner.approval_fails {r : Reply} (hr : r.Refuses) :
    (run.approval r : Act σ Unit).Fails := by
  cases r with
  | done => exact hr.elim
  | value s => exact hr.elim
  | throw s => exact .discard (.bind fun _ => .bind fun _ => .throw _)
  | failure n => exact .discard (run.throwNew_fails _ _)

/-- A callback fails when the host is busy, or when its reply is read in vain. -/
theorem Runner.callHost_fails {c : Callback} {slots : List Slot} {args : List Value}
    {finish : Reply → Act σ α} {w : World σ}
    (h : w.busy = true ∨ ∃ r w', run.enterHost host c (slots ++ (openFrame args w).1)
      (openFrame args w).2 = .ok r w' ∧ (finish r).Fails) :
    ∃ e w', run.callHost host c slots args finish w = .error e w' := by
  have hbody : ∃ e w', run.callBody host c (slots ++ (openFrame args w).1) finish w.busy
      (openFrame args w).2 = .error e w' := by
    rcases hb : w.busy with - | -
    · rcases h with h | ⟨r, w', henter, hfails⟩
      · rw [hb] at h
        cases h
      · obtain ⟨e, w'', hfinish⟩ := hfails w'
        exact ⟨e, w'', (Act.bind_ok henter).trans hfinish⟩
    · exact run.throwFault_fails .hostBusy _
  obtain ⟨e, w', hbody⟩ := hbody
  refine ⟨e, closeFrame w', ?_⟩
  rw [callHost_eq, hbody]

/-- **A construction that is not approved is refused**: too many arguments, a busy host, or a reply
that says no. -/
theorem Runner.approving_refuses (run : Runner σ) (host : Host σ) (classId : Int32) (t : UInt64)
    (args : List Value) (w : World σ)
    (h : w.bridge.maxArguments - 2 < args.length ∨ w.busy = true ∨
      ∃ r w', run.enterHost host .constructor
        ([.int32 classId, .rawPointer t] ++ (openFrame args w).1) (openFrame args w).2 = .ok r w'
          ∧ r.Refuses) :
    ∃ e w', Runner.approving t (run.approve host classId t args) w = .error e w'
      ∧ w'.bridge.journal.head? = some (.refused t) := by
  have hfails : ∃ e w', run.approve host classId t args w = .error e w' := by
    show ∃ e w', (do
      run.checkArity args.length (w.bridge.maxArguments - 2)
      run.callHost host .constructor [.int32 classId, .rawPointer t] args run.approval : Act σ Unit) w
        = .error e w'
    -- the count of the arguments is checked first, then the host is asked
    by_cases harity : args.length > w.bridge.maxArguments - 2
    · obtain ⟨e, w', hthrow⟩ := run.throwFault_fails (α := Unit) (.tooManyArguments args.length) w
      refine ⟨e, w', Act.bind_error ?_⟩
      rw [Runner.checkArity, if_pos harity, hthrow]
    · have hcheck : run.checkArity args.length (w.bridge.maxArguments - 2) w = .ok () w := by
        rw [Runner.checkArity, if_neg harity]
        rfl
      rw [Act.bind_ok hcheck]
      refine Runner.callHost_fails ?_
      rcases h with h | h | ⟨r, w', henter, hr⟩
      · exact absurd h harity
      · exact .inl h
      · exact .inr ⟨r, w', henter, Runner.approval_fails hr⟩
  obtain ⟨e, w', hfails⟩ := hfails
  refine ⟨e, { w' with bridge := w'.bridge.note (.refused t) }, ?_, rfl⟩
  rw [Runner.approving, hfails]

/-! ### Scripts -/

namespace Context

theorem deliver_finishes (run : Runner σ) (host : Host σ) (t : UInt64) :
    (deliver run host t).Finishes := by
  intro w e w' h
  rw [deliver] at h
  rcases he : (run.callHost host .delete [.rawPointer t] [] fun _ => pure () : Act σ Unit) w
    with ⟨a, w₁⟩ | ⟨f, w₁⟩
  · rw [he] at h
    cases h
  · rw [he] at h
    cases f <;> cases h
    rfl

theorem deliverNext_finishes (run : Runner σ) (host : Host σ) : (deliverNext run host).Finishes := by
  intro w e w' h
  rcases hq : w.bridge.finalized with - | ⟨t, rest⟩
  · rw [deliverNext_nil run host hq] at h
    cases h
  · rw [deliverNext_cons run host hq] at h
    exact deliver_finishes run host t _ e w' h

theorem deliverAll_finishes (run : Runner σ) (host : Host σ) (n : Nat) :
    (deliverAll run host n).Finishes := by
  induction n with
  | zero => exact fun _ _ _ h => nomatch h
  | succ n ih => exact (deliverNext_finishes run host).bind fun _ => ih

/-- **A delivery ends with an empty queue**, unless it is interrupted. -/
theorem deliverDue_ends (run : Runner σ) (host : Host σ) (n : Nat) (w : World σ) :
    (∃ w', deliverDue run host n w = .ok () w' ∧ w'.bridge.finalized = [])
      ∨ ∃ w', deliverDue run host n w = .error .interrupted w' := by
  induction n generalizing w with
  | zero => exact .inr ⟨w, rfl⟩
  | succ n ih =>
    have hstep : deliverDue run host (n + 1) w
        = (if (sweep w).bridge.finalized.isEmpty then pure () else do
            deliverAll run host (sweep w).bridge.finalized.length
            deliverDue run host n : Act σ Unit) (sweep w) := rfl
    rw [hstep]
    split
    · rename_i hempty
      exact .inl ⟨sweep w, rfl, List.isEmpty_iff.mp hempty⟩
    · rcases e : deliverAll run host (sweep w).bridge.finalized.length (sweep w)
        with ⟨a, w₁⟩ | ⟨f, w₁⟩
      · rw [Act.bind_ok e]
        exact ih w₁
      · rw [Act.bind_error e, deliverAll_finishes run host _ _ _ _ e]
        exact .inr ⟨w₁, rfl⟩

/-- The context when the notices of an operation begin to go out. -/
def begun (c : Context σ) : HostOp → Option (Context σ)
  | .tryDispatch a args => some (c.perform fun run => run.settle (Dispatch.perform run c.host a args)).2
  | .release s => some (c.perform fun _ => Runner.release s).2
  | .clearCache => some (c.perform fun _ => (modify fun w =>
      { w with bridge := { w.bridge with ledger := w.bridge.ledger.clearCache.2 } })).2
  | .runOneJob => some (c.perform fun run => run.settle (takeJob run)).2
  | .runGc => some (c.perform fun _ => modify collect).2
  | _ => none

end Context

/-! ### The whole -/

/-- A context whose host has wrapped a function and holds it in the cache alone. -/
def Context.wrapping : Context Unit := smallest.apply (.tryDispatch .wrapFunction [])

end ScriptBridge
