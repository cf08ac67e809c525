import ScriptBridge.Bridge.Context

/-!
Relations that operations of the bridge keep.

    m.Keeps R   :   R w (m.after w)   for every world w

Design.  `R` relates the world before an operation to the world after it, whether the operation
gave a result or failed.  A relation that is reflexive and transitive (`Steady`) is kept by a
sequence whose parts keep it.  `Background` adds what goes on beside the bridge and `Upkeep` what a
host asks for while it answers, and with them every operation of the bridge that neither calls the
host nor makes an object of the host's side keeps `R`.  Those that do are taken up where the relation
is known.
-/
namespace ScriptBridge

open Data Text Script Script.Script

variable {σ α β : Type}

namespace Act

/-- The world that an operation ends in. -/
def after (m : Act σ α) (w : World σ) : World σ :=
  match m w with
  | .ok _ w => w
  | .error _ w => w

def Keeps (R : World σ → World σ → Prop) (m : Act σ α) : Prop := ∀ w, R w (m.after w)

theorem bind_ok {m : Act σ α} {k : α → Act σ β} {a : α} {w w' : World σ} (h : m w = .ok a w') :
    (m >>= k) w = k a w' := by
  show EStateM.bind m k w = _
  rw [EStateM.bind, h]

theorem bind_error {m : Act σ α} {k : α → Act σ β} {e : Failure} {w w' : World σ}
    (h : m w = .error e w') : (m >>= k) w = .error e w' := by
  show EStateM.bind m k w = _
  rw [EStateM.bind, h]

theorem bind_bridge (k : Bridge → Act σ β) (w : World σ) : (bridge >>= k) w = k w.bridge w := rfl

theorem bind_engine (k : Engine → Act σ β) (w : World σ) : (engine >>= k) w = k w.engine w := rfl

/-- A sequence goes on in the same way from a first part that comes to the same. -/
theorem bind_congr {m m' : Act σ α} {k : α → Act σ β} {w w' : World σ} (h : m w = m' w') :
    (m >>= k) w = (m' >>= k) w' := by
  show EStateM.bind m k w = EStateM.bind m' k w'
  rw [EStateM.bind, EStateM.bind, h]

/-- A sequence that gives a result has given one in each of its parts. -/
theorem of_bind_ok {m : Act σ α} {k : α → Act σ β} {b : β} {w w'' : World σ}
    (h : (m >>= k) w = .ok b w'') : ∃ a w', m w = .ok a w' ∧ k a w' = .ok b w'' := by
  rcases e : m w with ⟨a, w'⟩ | ⟨f, w'⟩
  · exact ⟨a, w', rfl, (bind_ok e).symm.trans h⟩
  · rw [bind_error e] at h
    cases h

theorem after_ok {m : Act σ α} {a : α} {w w' : World σ} (h : m w = .ok a w') : m.after w = w' := by
  rw [after, h]

theorem after_error {m : Act σ α} {e : Failure} {w w' : World σ} (h : m w = .error e w') :
    m.after w = w' := by
  rw [after, h]

theorem after_bind_ok {m : Act σ α} {k : α → Act σ β} {a : α} {w w' : World σ}
    (h : m w = .ok a w') : (m >>= k).after w = (k a).after w' := by
  rw [after, bind_ok h, after]

theorem after_bind_error {m : Act σ α} {k : α → Act σ β} {e : Failure} {w w' : World σ}
    (h : m w = .error e w') : (m >>= k).after w = w' := by
  rw [after, bind_error h]

end Act

/-- A relation that does not mind doing nothing, or one thing after another. -/
structure Steady (R : World σ → World σ → Prop) : Prop where
  refl : ∀ w, R w w
  trans : ∀ {a b c}, R a b → R b c → R a c

namespace Steady

variable {R : World σ → World σ → Prop} (hR : Steady R)

include hR

theorem pure (a : α) : Act.Keeps R (Pure.pure a : Act σ α) := fun w => hR.refl w

theorem throw (e : Failure) : Act.Keeps R (MonadExcept.throw e : Act σ α) := fun w => hR.refl w

theorem get : Act.Keeps R (MonadState.get : Act σ (World σ)) := fun w => hR.refl w

/-- What comes second is met only where the first part leads with a result. -/
theorem bindAt {m : Act σ α} {k : α → Act σ β} {w : World σ} (hm : R w (m.after w))
    (hk : ∀ a w', m w = .ok a w' → R w' ((k a).after w')) : R w ((m >>= k).after w) := by
  rcases e : m w with ⟨a, w'⟩ | ⟨f, w'⟩
  · rw [Act.after_ok e] at hm
    rw [Act.after_bind_ok e]
    exact hR.trans hm (hk a w' e)
  · rw [Act.after_error e] at hm
    rw [Act.after_bind_error e]
    exact hm

theorem bind {m : Act σ α} {k : α → Act σ β} (hm : m.Keeps R) (hk : ∀ a, (k a).Keeps R) :
    Act.Keeps R (m >>= k) := fun w => hR.bindAt (hm w) fun a w' _ => hk a w'

theorem bridge : Act.Keeps R (Act.bridge : Act σ Bridge) := hR.bind hR.get fun _ => hR.pure _

theorem fault (f : BridgeFault) : Act.Keeps R (Act.fault f : Act σ α) := hR.throw _

theorem orFault (x : Except BridgeFault α) : Act.Keeps R (Act.orFault x : Act σ α) := by
  cases x with
  | ok a => exact hR.pure a
  | error f => exact hR.fault f

end Steady

namespace Act

variable {R : World σ → World σ → Prop}

theorem Keeps.of_ok {m : Act σ α} (hm : m.Keeps R) {a : α} {w w' : World σ} (h : m w = .ok a w') :
    R w w' := after_ok h ▸ hm w

theorem Keeps.of_error {m : Act σ α} (hm : m.Keeps R) {e : Failure} {w w' : World σ}
    (h : m w = .error e w') : R w w' := after_error h ▸ hm w

theorem Keeps.map {m : Act σ α} {f : α → β} (hm : m.Keeps R) : Act.Keeps R (f <$> m) := by
  intro w
  have hmw := hm w
  show R w (Act.after (fun w => EStateM.map f m w) w)
  rcases e : m w with ⟨a, w'⟩ | ⟨g, w'⟩ <;> simpa [Act.after, EStateM.map, e] using hmw

theorem Keeps.discard {m : Act σ α} (hm : m.Keeps R) : Act.Keeps R (Functor.discard m) :=
  hm.map

/-- What is read first is the bridge of the world that the operation starts in. -/
theorem keeps_bridge {k : Bridge → Act σ α} (hk : ∀ w, R w ((k w.bridge).after w)) :
    Act.Keeps R (Act.bridge >>= k) := hk

theorem keeps_engine {k : Engine → Act σ α} (hk : ∀ w, R w ((k w.engine).after w)) :
    Act.Keeps R (Act.engine >>= k) := hk

end Act

/-- After a change of the bridge, the rest goes on in the changed world. -/
theorem Steady.setBridge {R : World σ → World σ → Prop} (hR : Steady R) {b : Bridge}
    {k : Unit → Act σ α} {w : World σ} (hb : R w { w with bridge := b })
    (hk : (k ()).Keeps R) : R w ((Act.setBridge b >>= k).after w) :=
  hR.trans hb (hk _)

theorem Act.keeps_modify {R : World σ → World σ → Prop} {f : World σ → World σ}
    (hf : ∀ w, R w (f w)) : Act.Keeps R (modify f : Act σ Unit) := fun w => hf w

/-! ### Runners -/

namespace Script

/-- Every result that the program can come to satisfies `Q`. -/
def Prog.Ensures {ρ : Type} (Q : ρ → Prop) : Prog ρ → Prop
  | .done r => Q r
  | .fail _ => True
  | .ask _ k => ∀ a, (k a).Ensures Q

/-- The program comes to `a` by reading objects, and none of them changes when it is read. -/
inductive Prog.Reads {ρ : Type} (e : Engine) : Prog ρ → ρ → Prop where
  | done (a : ρ) : Reads e (.done a) a
  | look {r : Ref} {k : Shape → Prog ρ} {a : ρ} :
      Reads e (k (e.answer (.look r)).1) a → Reads e (.ask (.look r) k) a
  | own {r : Ref} {key : Key} {k : Option Property → Prog ρ} {a : ρ} :
      (e.own r key).2 = e → Reads e (k (e.own r key).1) a → Reads e (.ask (.own r key) k) a

end Script

/-- A runner whose runs keep `R`, and whose results are those of the program. -/
structure Runner.Obeys (R : World σ → World σ → Prop) (run : Runner σ) : Prop where
  keeps : ∀ {ρ : Type} (p : Prog ρ) (w : World σ), R w (run.run p w).2
  sound : ∀ {ρ : Type} {p : Prog ρ} {Q : ρ → Prop}, p.Ensures Q → ∀ {w w' : World σ} {a : ρ},
    run.run p w = (.done a, w') → Q a
  reads : ∀ {ρ : Type} {p : Prog ρ} {a : ρ} {w : World σ}, p.Reads w.engine a →
    run.run p w = (.interrupted, w) ∨ run.run p w = (.done a, w)

namespace Runner.Obeys

variable {R : World σ → World σ → Prop} {run : Runner σ} {ρ : Type}

theorem exec (hr : run.Obeys R) (p : Prog ρ) : Act.Keeps R (run.exec p) := by
  intro w
  have hp := hr.keeps p w
  rcases e : run.run p w with ⟨f, w'⟩
  rw [e] at hp
  cases f <;> simpa [Act.after, Runner.exec, e] using hp

theorem script (hr : run.Obeys R) (m : Script ρ ρ) : Act.Keeps R (run.script m) := hr.exec m.run

theorem script? (hr : run.Obeys R) (m : Script ρ ρ) : Act.Keeps R (run.script? m) := by
  intro w
  have hp := hr.keeps m.run w
  rcases e : run.run m.run w with ⟨f, w'⟩
  rw [e] at hp
  cases f <;> simpa [Act.after, Runner.script?, e] using hp

/-- A script that has run to its end has come to one of its results. -/
theorem result (hr : run.Obeys R) {m : Script ρ ρ} {Q : ρ → Prop} (hm : m.run.Ensures Q)
    {w w' : World σ} {a : ρ} (h : run.script m w = .ok a w') : Q a := by
  rcases e : run.run m.run w with ⟨f, w''⟩
  cases f with
  | done b =>
    have hb : EStateM.Result.ok b w'' = (EStateM.Result.ok a w' : EStateM.Result Failure _ _) := by
      rw [← h, Runner.script, Runner.exec, e]
    cases hb
    exact hr.sound hm e
  | _ => simp [Runner.script, Runner.exec, e] at h

/-- A script that only reads comes to what it reads, unless it is interrupted. -/
theorem script_reads (hr : run.Obeys R) {m : Script ρ ρ} {a : ρ} {w : World σ}
    (hm : m.run.Reads w.engine a) :
    run.script m w = .error .interrupted w ∨ run.script m w = .ok a w := by
  rcases hr.reads hm with e | e
  · exact .inl (by rw [Runner.script, Runner.exec, e])
  · exact .inr (by rw [Runner.script, Runner.exec, e])

end Runner.Obeys

/-! ### Failing -/

/-- The operation gives no result, in whatever world. -/
def Act.Fails (m : Act σ α) : Prop := ∀ w, ∃ e w', m w = .error e w'

namespace Act.Fails

theorem throw (e : Failure) : Act.Fails (MonadExcept.throw e : Act σ α) := fun w => ⟨e, w, rfl⟩

theorem bind {m : Act σ α} {k : α → Act σ β} (hk : ∀ a, (k a).Fails) : Act.Fails (m >>= k) := by
  intro w
  rcases e : m w with ⟨a, w'⟩ | ⟨f, w'⟩
  · rw [Act.bind_ok e]
    exact hk a w'
  · exact ⟨f, w', Act.bind_error e⟩

theorem discard {m : Act σ α} (hm : m.Fails) : Act.Fails (Functor.discard m) := by
  intro w
  obtain ⟨f, w', e⟩ := hm w
  refine ⟨f, w', ?_⟩
  show EStateM.map _ m w = _
  rw [EStateM.map, e]

end Act.Fails

/-- The operation ends early only when it is interrupted. -/
def Act.Finishes (m : Act σ α) : Prop := ∀ w e w', m w = .error e w' → e = .interrupted

namespace Act.Finishes

theorem pure (a : α) : Act.Finishes (Pure.pure a : Act σ α) := fun _ _ _ h => nomatch h

theorem modify (f : World σ → World σ) : Act.Finishes (modify f : Act σ Unit) := fun _ _ _ h => nomatch h

theorem bind {m : Act σ α} {k : α → Act σ β} (hm : m.Finishes) (hk : ∀ a, (k a).Finishes) :
    Act.Finishes (m >>= k) := by
  intro w e w' h
  rcases he : m w with ⟨a, w₁⟩ | ⟨f, w₁⟩
  · rw [Act.bind_ok he] at h
    exact hk a w₁ e w' h
  · rw [Act.bind_error he] at h
    cases h
    exact hm w _ _ he

theorem bridge {k : Bridge → Act σ α} (hk : ∀ b, (k b).Finishes) : Act.Finishes (Act.bridge >>= k) :=
  fun w => hk w.bridge w

end Act.Finishes

namespace Runner

variable (run : Runner σ)

theorem throwNew_fails (c : ErrorClass) (m : String) : (run.throwNew c m : Act σ α).Fails :=
  .bind fun _ => .throw _

/-- What would come after a new error does not come. -/
theorem throwNew_bind (c : ErrorClass) (m : String) (k : α → Act σ β) :
    ((run.throwNew c m : Act σ α) >>= k) = run.throwNew c m := by
  rw [throwNew, bind_assoc]
  rfl

theorem throwFault_fails (f : BridgeFault) : (run.throwFault f : Act σ α).Fails := by
  cases f <;> exact run.throwNew_fails _ _

/-- What comes after a check of the arguments comes in the same world when they fit. -/
theorem checkArity_fits {count limit : Nat} (h : count ≤ limit) (w : World σ) :
    run.checkArity count limit w = .ok () w := by
  rw [checkArity, if_neg (Nat.not_lt.mpr h)]
  rfl

/-- It does not come when they do not. -/
theorem checkArity_exceeded {count limit : Nat} (h : limit < count) (k : Unit → Act σ β) :
    (run.checkArity count limit >>= k)
      = run.throwNew .internalError (BridgeFault.tooManyArguments count).message := by
  rw [checkArity, if_pos h]
  exact run.throwNew_bind _ _ _

end Runner

/-! ### Withholding in parts -/

/-- The value that an operation throws, if it throws one. -/
def Act.thrown? (m : Act σ α) (w : World σ) : Option Value :=
  match m w with
  | .error (.thrown v) _ => some v
  | _ => none

/-- The world in which withholding begins. -/
def World.withholding (w : World σ) : World σ := { w with bridge := { w.bridge with deferred := some [] } }

namespace Dispatch

variable (run : Runner σ) (host : Host σ) (m : Act σ α) (w : World σ)

theorem withholding_eq : withholding run host m w =
    match run.releaseRejections host (m.thrown? w.withholding) (m.after w.withholding) with
    | .ok _ w' =>
      match m w.withholding with
      | .ok a _ => .ok a w'
      | .error e _ => .error e w'
    | .error e w' => .error e w' := by
  have hstart : { w with bridge := { w.bridge with deferred := some [] } } = w.withholding := rfl
  have ended : ∀ handled (k : Act σ α) (w₁ : World σ),
      (run.releaseRejections host handled >>= fun _ => k : Act σ α) w₁
        = match run.releaseRejections host handled w₁ with
          | .ok _ w' => k w'
          | .error e w' => .error e w' := by
    intro handled k w₁
    rcases h : run.releaseRejections host handled w₁ with ⟨u, w₂⟩ | ⟨f, w₂⟩
    · exact Act.bind_ok h
    · exact Act.bind_error h
  rw [withholding, hstart, Act.thrown?, Act.after]
  rcases m w.withholding with ⟨a, w₁⟩ | ⟨e, w₁⟩
  · exact ended none (pure a) w₁
  · cases e with
    | thrown v => exact ended (some v) (throw (.thrown v)) w₁
    | fault f => exact ended none (throw (.fault f)) w₁
    | interrupted => exact ended none (throw .interrupted) w₁

theorem after_withholding : (withholding run host m).after w
    = (run.releaseRejections host (m.thrown? w.withholding)).after (m.after w.withholding) := by
  have hwhole := withholding_eq run host m w
  rw [Act.after, Act.after, hwhole]
  rcases run.releaseRejections host (m.thrown? w.withholding) (m.after w.withholding)
    with ⟨u, w'⟩ | ⟨f, w'⟩
  · rcases m w.withholding with ⟨a, w₁⟩ | ⟨e, w₁⟩ <;> rfl
  · rfl

/-- Unless it is interrupted, what was withheld has been released, and it throws what the operation
throws. -/
theorem withholding_ends (hrelease : Act.Finishes (run.releaseRejections host (m.thrown? w.withholding))) :
    (∃ w', withholding run host m w = .error .interrupted w') ∨
    ((∃ w', run.releaseRejections host (m.thrown? w.withholding) (m.after w.withholding) = .ok () w') ∧
      (withholding run host m).thrown? w = m.thrown? w.withholding) := by
  have hwhole := withholding_eq run host m w
  rcases h : run.releaseRejections host (m.thrown? w.withholding) (m.after w.withholding)
    with ⟨u, w'⟩ | ⟨f, w'⟩
  · refine .inr ⟨⟨w', rfl⟩, ?_⟩
    rw [h] at hwhole
    rw [Act.thrown?, Act.thrown?, hwhole]
    rcases m w.withholding with ⟨a, w₁⟩ | ⟨e, w₁⟩
    · rfl
    · cases e <;> rfl
  · rw [h, hrelease _ f w' h] at hwhole
    exact .inl ⟨w', hwhole⟩

end Dispatch

/-! ### Bookkeeping -/

/-- A promise whose two functions are objects. -/
def PendingPromise.Settles (p : PendingPromise) : Prop :=
  (∃ r, p.resolve = .object r) ∧ ∃ r, p.reject = .object r

/-- A relation that bears what goes on beside the bridge: in the memory of the host and in the log. -/
structure Background (R : World σ → World σ → Prop) : Prop extends Steady R where
  memory : ∀ w m, R w { w with memory := m }
  log : ∀ w x, R w { w with bridge := { w.bridge with log := x } }

/-- The changes that a host asks for while it answers: none of them concerns the lists of the ledger,
the heap or the tokens. -/
structure Upkeep (R : World σ → World σ → Prop) : Prop extends Background R where
  retained : ∀ w h l, w.bridge.ledger.addRef h = .ok l →
    R w { w with bridge := { w.bridge with ledger := l }.note (.retained h) }
  released : ∀ w h v l, w.bridge.ledger.release h = .ok (v, l) →
    R w { w with bridge := { w.bridge with ledger := l }.note (.released h) }
  promised : ∀ w (p : PendingPromise), p.Settles →
    R w { w with bridge := { w.bridge with
      promises := (w.bridge.promises.insert p).2 }.note (.promised (w.bridge.promises.insert p).1 p) }

/-- For a relation that does not mind whether rejections are withheld: what happens to one. -/
structure Reporting (R : World σ → World σ → Prop) : Prop where
  deferred : ∀ w x, R w { w with bridge := { w.bridge with deferred := x } }
  rejected : ∀ w p v, R w { w with bridge := w.bridge.note (.rejected p v) }
  logged : ∀ w v, R w { w with bridge := w.bridge.note (.logged v) }

/-- The functions of a capability of the engine's own are objects. -/
theorem ensures_ownCapability :
    (ownCapability : Script Capability Capability).run.Ensures fun c =>
      (∃ r, c.resolve = .object r) ∧ ∃ r, c.reject = .object r := by
  intro p latch resolve reject
  exact ⟨⟨resolve, rfl⟩, ⟨reject, rfl⟩⟩

namespace Background

variable {R : World σ → World σ → Prop} (hR : Background R) {run : Runner σ} (hr : run.Obeys R)

include hR hr

theorem throwNew (c : ErrorClass) (m : String) : Act.Keeps R (run.throwNew c m : Act σ α) :=
  hR.bind (hr.script _) fun _ => hR.throw _

theorem throwFault (f : BridgeFault) : Act.Keeps R (run.throwFault f : Act σ α) := by
  cases f <;> exact hR.throwNew hr _ _

theorem orThrowFault (x : Except BridgeFault α) : Act.Keeps R (run.orThrowFault x) := by
  cases x with
  | ok a => exact hR.pure a
  | error f => exact hR.throwFault hr f

theorem checkArity (count limit : Nat) : Act.Keeps R (run.checkArity count limit) := by
  unfold Runner.checkArity
  split
  · exact hR.throwFault hr _
  · exact hR.pure ()

/-- What comes after a passed check comes in the same world. -/
theorem checked {count limit : Nat} {k : Unit → Act σ α} {w : World σ}
    (hk : count ≤ limit → R w ((k ()).after w)) :
    R w ((run.checkArity count limit >>= k).after w) := by
  rcases Nat.lt_or_ge limit count with h | h
  · rw [run.checkArity_exceeded h]
    exact hR.throwNew hr _ _ w
  · rw [Act.after_bind_ok (run.checkArity_fits h w)]
    exact hk h

theorem stringify (s : Slot) : Act.Keeps R (run.stringify s) := by
  refine Act.keeps_bridge fun w => ?_
  refine hR.bind (hR.orFault _) (fun v => ?_) w
  exact hR.bind (hr.script _) fun u => hR.orFault _

theorem replyValue (r : Reply) : Act.Keeps R (run.replyValue r) := by
  cases r with
  | done => exact hR.pure _
  | value s => exact hR.bind hR.bridge fun b => hR.orThrowFault hr _
  | throw s =>
    exact hR.bind hR.bridge fun b => hR.bind (hR.orThrowFault hr _) fun v => hR.throw _
  | failure c => exact hR.throwNew hr _ _

theorem approval (r : Reply) : Act.Keeps R (run.approval r) := by
  cases r with
  | done => exact hR.pure ()
  | value s => exact hR.pure ()
  | throw s => exact (hR.replyValue hr _).discard
  | failure c => exact (hR.replyValue hr _).discard

omit hr in
theorem namedModule (base name : String) (r : Reply) :
    Act.Keeps R (Machine.namedModule base name r : Act σ (Option String)) := by
  cases r with
  | value s => exact hR.bind hR.bridge fun b => hR.pure _
  | _ => exact hR.pure _

omit hr in
theorem moduleSource (r : Reply) :
    Act.Keeps R (Machine.moduleSource r : Act σ (Option String)) := by
  cases r with
  | value s => exact hR.bind hR.bridge fun b => hR.pure _
  | _ => exact hR.pure _

/-! ### Text for the host -/

omit hr in
theorem print (host : Host σ) (level : PrintLevel) (text : String) :
    Act.Keeps R (Runner.print host level text) := by
  refine Act.keeps_modify fun w => ?_
  by_cases hb : w.busy = true
  · rw [if_pos hb]
    exact hR.refl w
  · rw [if_neg hb]
    exact hR.memory w _

omit hr in
theorem printAll (host : Host σ) (level : PrintLevel) (lines : List String) :
    Act.Keeps R (Runner.printAll host level lines) := by
  induction lines with
  | nil => exact hR.pure ()
  | cons line rest ih => exact hR.bind (hR.print host level line) fun _ => ih

omit hr in
theorem writeLog (host : Host σ) (fragment : String) :
    Act.Keeps R (Runner.writeLog host fragment) := by
  refine Act.keeps_bridge fun w => ?_
  rcases w.bridge.log.write fragment with ⟨lines, log⟩
  exact hR.setBridge (hR.log w log) (hR.printAll host .log lines)

omit hr in
theorem flushLog (host : Host σ) : Act.Keeps R (Runner.flushLog host) := by
  refine Act.keeps_bridge fun w => ?_
  rcases w.bridge.log.flush with ⟨rest, log⟩
  refine hR.setBridge (hR.log w log) ?_
  cases rest with
  | none => exact hR.pure ()
  | some text => exact hR.print host .log text

theorem reportRejection (hd : Reporting R) (host : Host σ) (reason : Value) :
    Act.Keeps R (run.reportRejection host reason) := by
  refine Act.keeps_bridge fun w => ?_
  rcases w.bridge.deferred with - | reasons
  · exact hR.bind (hr.script _) (fun text =>
      hR.bind (Act.keeps_modify fun w => hd.logged w reason) fun _ => hR.writeLog host _) w
  · exact hd.deferred w _

/-- A rejection that the engine tells of. -/
theorem rejection (hd : Reporting R) (host : Host σ) (promise : Ref) (reason : Value) :
    Act.Keeps R (do
      Act.note (.rejected promise reason)
      run.reportRejection host reason) :=
  hR.bind (Act.keeps_modify fun w => hd.rejected w promise reason) fun _ =>
    hR.reportRejection hr hd host reason

theorem reportEach (hd : Reporting R) (host : Host σ) (reasons : List Value) :
    Act.Keeps R (run.reportEach host reasons) := by
  induction reasons with
  | nil => exact hR.pure ()
  | cons v rest ih => exact hR.bind (hR.reportRejection hr hd host v) fun _ => ih

theorem releaseRejections (hd : Reporting R) (host : Host σ) (handled : Option Value) :
    Act.Keeps R (run.releaseRejections host handled) := by
  refine Act.keeps_bridge fun w => ?_
  exact hR.setBridge (hd.deferred w none) (hR.reportEach hr hd host _)

theorem withholding (hd : Reporting R) (host : Host σ) {m : Act σ α} (hm : m.Keeps R) :
    Act.Keeps R (Dispatch.withholding run host m) := by
  intro w
  rw [Dispatch.after_withholding]
  have hduring : R w (m.after w.withholding) := hR.trans (hd.deferred w (some [])) (hm _)
  exact hR.trans hduring (hR.releaseRejections hr hd host _ _)

theorem joinArguments (args : List Value) : Act.Keeps R (run.joinArguments args) := by
  have text : ∀ v, Act.Keeps R (do run.orThrowFault (hostText (← run.script (toUnits v)))) :=
    fun v => hR.bind (hr.script _) fun u => hR.orThrowFault hr _
  induction args with
  | nil => exact hR.pure ""
  | cons v rest ih =>
    cases rest with
    | nil => exact text v
    | cons u rest =>
      exact hR.bind (hr.script _) fun _ => hR.bind (hR.orThrowFault hr _) fun _ =>
        hR.bind ih fun _ => hR.pure _

theorem printArguments (host : Host σ) (level : PrintLevel) (args : List Value) :
    Act.Keeps R (run.printArguments host level args) :=
  hR.bind (hR.joinArguments hr args) fun _ => hR.bind (hR.print host level _) fun _ => hR.pure _

/-! ### Failures -/

/-- The wording of what an operation throws comes after it. -/
theorem settled (m : Act σ α) (w : World σ) : R (m.after w) ((run.settle m).after w) := by
  rcases e : m w with ⟨a, w'⟩ | ⟨f, w'⟩
  · simpa [Act.after, Runner.settle, e] using hR.refl w'
  · cases f with
    | thrown v =>
      have hrest : Act.Keeps R (do Act.fault (.exception (← run.script (renderThrown v))) : Act σ α) :=
        hR.bind (hr.script _) fun _ => hR.fault _
      simpa [Act.after, Runner.settle, e] using hrest w'
    | fault f => simpa [Act.after, Runner.settle, e] using hR.refl w'
    | interrupted => simpa [Act.after, Runner.settle, e] using hR.refl w'

theorem settle {m : Act σ α} (hm : m.Keeps R) : Act.Keeps R (run.settle m) :=
  fun w => hR.trans (hm w) (hR.settled hr m w)

theorem thrownFaults {m : Act σ α} (hm : m.Keeps R) : Act.Keeps R (run.thrownFaults m) := by
  intro w
  rcases e : m w with ⟨a, w'⟩ | ⟨f, w'⟩
  · simpa [Act.after, Runner.thrownFaults, e] using hm.of_ok e
  · have hmw : R w w' := hm.of_error e
    cases f with
    | fault f =>
      have hrest : Act.Keeps R (run.throwFault f : Act σ α) := hR.throwFault hr f
      simpa [Act.after, Runner.thrownFaults, e] using hR.trans hmw (hrest w')
    | thrown v => simpa [Act.after, Runner.thrownFaults, e] using hmw
    | interrupted => simpa [Act.after, Runner.thrownFaults, e] using hmw

theorem outcome {m : Act σ α} (hm : m.Keeps R) : Act.Keeps R (Machine.outcome run m) := by
  intro w
  rcases e : m w with ⟨a, w'⟩ | ⟨f, w'⟩
  · simpa [Act.after, Machine.outcome, e] using hm.of_ok e
  · have hmw : R w w' := hm.of_error e
    cases f with
    | fault f =>
      have hrest : Act.Keeps R (run.throwFault f : Act σ α) := hR.throwFault hr f
      refine hR.trans hmw ?_
      have hw := hrest w'
      rcases e' : (run.throwFault f : Act σ α) w' with ⟨a, w''⟩ | ⟨g, w''⟩
      · simpa [Act.after, Machine.outcome, e, e'] using hw
      · cases g <;> simpa [Act.after, Machine.outcome, e, e'] using hw
    | thrown v => simpa [Act.after, Machine.outcome, e] using hmw
    | interrupted => simpa [Act.after, Machine.outcome, e] using hmw

theorem asObject (v : Value) : Act.Keeps R (run.asObject v) := by
  cases v with
  | object r => exact hR.pure r
  | _ => exact hR.bind (hr.script _) fun _ => hR.fault _

theorem asFunction (v : Value) : Act.Keeps R (run.asFunction v) := by
  refine hR.bind (hr.script _) fun b => ?_
  cases v with
  | object r =>
    cases b with
    | true => exact hR.pure r
    | false => exact hR.bind (hr.script _) fun _ => hR.fault _
  | _ => exact hR.bind (hr.script _) fun _ => hR.fault _

theorem instanceToken (classId : Int32) (this : Value) :
    Act.Keeps R (run.instanceToken classId this) := by
  cases this with
  | object r =>
    refine Act.keeps_engine fun w => ?_
    split
    · split
      · exact hR.bind (hr.script _) (fun _ => hR.pure _) w
      · exact hR.refl w
    · exact hR.refl w
  | _ => exact hR.pure none

theorem memberSlots (classId : Int32) (position : Nat) (route : MemberRoute) (this : Value) :
    Act.Keeps R (run.memberSlots classId position route this) := by
  unfold Runner.memberSlots
  split
  · exact hR.pure _
  · refine hR.bind (hR.instanceToken hr classId this) fun t => ?_
    cases t with
    | some t => exact hR.pure _
    | none => exact hR.throwNew hr _ _

/-- What a member function does once its call is noted, when the host's turn is borne. -/
theorem sendMember {host : Host σ} {classId : Int32} {position : Nat} {route : MemberRoute} {this : Value}
    {args : List Value} {w : World σ}
    (hcall : ∀ fixed w', run.memberSlots classId position route this w = .ok fixed w' →
      (route.kind = .method → args.length ≤ w'.bridge.maxArguments - fixed.length) →
      R w' ((run.callHost host .call fixed (Runner.sentArguments route.kind args) run.replyValue).after w')) :
    R w ((run.sendMember host classId position route this args).after w) := by
  refine hR.bindAt (hR.memberSlots hr classId position route this w) fun fixed w' e => ?_
  have called := hcall fixed w' e
  cases hk : route.kind == .method with
  | false =>
    have hother : route.kind ≠ .method := ne_of_beq_false hk
    simpa [hk] using called fun h => absurd h hother
  | true =>
    have checked : R w' (Act.after (do
        run.checkArity args.length (w'.bridge.maxArguments - fixed.length)
        run.callHost host .call fixed (Runner.sentArguments route.kind args) run.replyValue)
        w') := hR.checked hr fun hfits => called fun _ => hfits
    exact checked

/-! ### Questions about modules -/

theorem resolveName {host : Host σ} (base name : String)
    (hcall : Act.Keeps R (run.callHost host .moduleName
      [.text (Machine.beforeNul base), .text (Machine.beforeNul name)] []
      (Machine.namedModule (Machine.beforeNul base) (Machine.beforeNul name)))) :
    Act.Keeps R (Machine.resolveName run host base name) := by
  refine hR.bind hcall fun found => ?_
  cases found with
  | some path => exact hR.pure _
  | none => exact hR.throwFault hr _

theorem loadSource {host : Host σ} (name : String)
    (hcall : Act.Keeps R (run.callHost host .loadModule [.text name] [] Machine.moduleSource)) :
    Act.Keeps R (Machine.loadSource run host name) := by
  refine hR.bind hcall fun found => ?_
  cases found with
  | some text => exact hR.bind (hR.orThrowFault hr _) fun _ => hR.pure _
  | none => exact hR.throwFault hr _

end Background

/-! ### The host's requests -/

namespace Upkeep

variable {R : World σ → World σ → Prop} (hR : Upkeep R) {run : Runner σ} (hr : run.Obeys R)

include hR hr

omit hR hr in
theorem answered {m : Act σ α} (hm : m.Keeps R) : Act.Keeps R (Runner.answered m) := by
  intro w
  have hmw := hm w
  rcases e : m w with ⟨a, w'⟩ | ⟨f, w'⟩
  · simpa [Act.after, Runner.answered, e] using hmw
  · cases f <;> simpa [Act.after, Runner.answered, e] using hmw

theorem retain (s : Slot) : Act.Keeps R (run.retain s) := by
  refine Act.keeps_bridge fun w => ?_
  rcases hs : s.handle? with - | h
  · exact hR.refl w
  · rcases hg : w.bridge.ledger.get h with f | v
    · simp only [hg]
      exact hR.refl w
    · rcases ha : w.bridge.ledger.addRef h with f | l
      · simp only [hg, ha]
        exact hR.refl w
      · simp only [hg, ha]
        exact hR.setBridge (k := fun _ => run.script (classify h v)) (hR.retained w h l ha)
          (hr.script _)

omit hr in
theorem release (s : Slot) : Act.Keeps R (Runner.release s : Act σ Unit) := by
  refine Act.keeps_bridge fun w => ?_
  rcases hs : s.handle? with - | h
  · exact hR.refl w
  · rcases hg : w.bridge.ledger.release h with f | ⟨v, l⟩
    · simp only [hg]
      exact hR.refl w
    · simp only [hg]
      exact hR.released w h v l hg

theorem newPromise : Act.Keeps R run.newPromise := by
  intro w
  refine hR.bindAt (hr.script (ownCapability : Script Capability Capability) w) fun c w' e => ?_
  have hc := hr.result ensures_ownCapability e
  exact hR.promised w' ⟨c.promise, c.resolve, c.reject⟩ hc

theorem answerScope (q : ScopeRequest) : Act.Keeps R (run.answerScope q) := by
  cases q with
  | retain s => exact answered (hR.retain hr s)
  | release s => exact answered (hR.release s)
  | stringOf s => exact hR.bind hR.bridge fun b => hR.pure _
  | stringify s => exact answered (hR.stringify hr s)
  | newPromise => exact answered (hR.newPromise hr)

/-- The whole of a host's turn, by induction on its tree. -/
theorem takeTurn (t : Turn σ) : Act.Keeps R (run.takeTurn t) := by
  induction t with
  | reply r m => exact hR.bind (Act.keeps_modify fun w => hR.memory w m) fun _ => hR.pure r
  | ask q k ih => exact hR.bind (hR.answerScope hr q) ih

end Upkeep

/-! ### Calls in parts -/

namespace Machine

variable (run : Runner σ) (host : Host σ) {f : Ref} {w : World σ} (args : List Value)

theorem callObject_script {p : Payload} (hf : (w.engine.obj f).kind = .script p) (this : Value) :
    callObject run host f this args w = run.script (applyFunction f p this args) w := by
  rw [callObject, Act.bind_engine, hf]

theorem callObject_host {h : HostData} (hf : (w.engine.obj f).kind = .host h) (this : Value) :
    callObject run host f this args w = callHostSide run host h this args w := by
  rw [callObject, Act.bind_engine, hf]

theorem constructObject_constructor {classId : Int32} (hf : (w.engine.obj f).kind = .host (.constructor classId))
    (target : Ref) :
    constructObject run host f args target w = run.constructInstance host classId (.object target) args w := by
  rw [constructObject, Act.bind_engine, hf]

end Machine

namespace Runner

variable {run : Runner σ} {host : Host σ} {w w' : World σ}

theorem approving_ok {t : UInt64} {m : Act σ α} {a : α} (h : approving t m w = .ok a w') : m w = .ok a w' := by
  rw [approving] at h
  rcases e : m w with ⟨a', w₁⟩ | ⟨f, w₁⟩
  · rw [e] at h
    cases h
    rfl
  · rw [e] at h
    cases h

/-- **A construction that succeeds** has drawn a token, and then either it was given the sentinel, or the host has
approved; what came before has kept any relation that runs keep. -/
theorem constructInstance_ok {R : World σ → World σ → Prop} (hR : Background R) (hr : run.Obeys R)
    {classId : Int32} {target v : Value} {args : List Value}
    (h : run.constructInstance host classId target args w = .ok v w') :
    ∃ (proto : Ref) (w₀ : World σ), let drawn := (drawToken : Act σ UInt64).after w₀
      let t := w₀.bridge.lastToken + 1
      R w w₀ ∧
      ((isSentinel w₀.bridge args = true ∧ makeInstance classId t proto drawn = .ok v w') ∨
        isSentinel w₀.bridge args = false ∧ ∃ w₁, run.approve host classId t args drawn = .ok () w₁ ∧
          makeInstance classId t proto w₁ = .ok v w') := by
  obtain ⟨callable, w₁, hcallable, h⟩ := Act.of_bind_ok h
  -- without `new`, or with a target that cannot be called, nothing comes of it
  have refused : (run.throwNew .typeError
      "Class constructor cannot be invoked without 'new'" : Act σ Value) w₁ ≠ .ok v w' := by
    intro h
    obtain ⟨e, w'', hthrow⟩ := run.throwNew_fails (α := Value) .typeError
      "Class constructor cannot be invoked without 'new'" w₁
    cases hthrow.symm.trans h
  cases target with
  | object r =>
    cases callable with
    | false => exact absurd h refused
    | true =>
      obtain ⟨proto, w₂, hproto, h⟩ := Act.of_bind_ok h
      have hlooked : R w₁ w₂ := (hR.thrownFaults hr (hR.bind (hr.script _) fun v => hR.asObject hr v)).of_ok hproto
      refine ⟨proto, w₂, hR.trans ((hr.script _).of_ok hcallable) hlooked, ?_⟩
      obtain ⟨b, w₃, hb, h⟩ := Act.of_bind_ok h
      obtain ⟨t, w₄, ht, h⟩ := Act.of_bind_ok h
      cases hb
      cases ht
      rcases hs : isSentinel w₂.bridge args with - | -
      · rw [hs] at h
        obtain ⟨u, w₅, happroving, h⟩ := Act.of_bind_ok h
        exact .inr ⟨rfl, w₅, approving_ok happroving, h⟩
      · rw [hs] at h
        exact .inl ⟨rfl, h⟩
  | _ => exact absurd h refused

end Runner

/-! ### Callbacks in parts -/

namespace Runner

variable {host : Host σ} {run : Runner σ}

/-- What happens between the opening and the closing of a callback's frame. -/
def callBody (run : Runner σ) (host : Host σ) (c : Callback) (slots : List Slot)
    (finish : Reply → Act σ α) (busy : Bool) : Act σ α :=
  if busy then run.throwFault .hostBusy else do finish (← run.enterHost host c slots)

theorem callHost_eq (run : Runner σ) (host : Host σ) (c : Callback) (slots : List Slot)
    (args : List Value) (finish : Reply → Act σ α) (w : World σ) :
    run.callHost host c slots args finish w
      = match run.callBody host c (slots ++ (openFrame args w).1) finish w.busy
          (openFrame args w).2 with
        | .ok a w' => .ok a (closeFrame w')
        | .error e w' => .error e (closeFrame w') := rfl

theorem after_callHost (run : Runner σ) (host : Host σ) (c : Callback) (slots : List Slot)
    (args : List Value) (finish : Reply → Act σ α) (w : World σ) :
    (run.callHost host c slots args finish).after w
      = closeFrame ((run.callBody host c (slots ++ (openFrame args w).1) finish w.busy).after
          (openFrame args w).2) := by
  rw [Act.after, callHost_eq, Act.after]
  rcases run.callBody host c (slots ++ (openFrame args w).1) finish w.busy (openFrame args w).2
    with ⟨a, w'⟩ | ⟨e, w'⟩ <;> rfl

/-- The world in which the host answers. -/
def entering (c : Callback) (slots : List Slot) (w : World σ) : World σ :=
  { w with bridge := w.bridge.note (.entered c slots), busy := true }

/-- The world once the host has answered. -/
def leaving (w : World σ) : World σ := { w with bridge := w.bridge.note .left, busy := false }

theorem after_enterHost (run : Runner σ) (host : Host σ) (c : Callback) (slots : List Slot)
    (w : World σ) :
    (run.enterHost host c slots).after w
      = leaving ((run.takeTurn (host.act w.memory c slots)).after (entering c slots w)) := by
  rw [Act.after, Act.after, Runner.enterHost, entering]
  rcases run.takeTurn (host.act w.memory c slots)
    { w with bridge := w.bridge.note (.entered c slots), busy := true } with ⟨r, w'⟩ | ⟨e, w'⟩ <;> rfl

end Runner

namespace Upkeep

open Runner

variable {R : World σ → World σ → Prop} (hR : Upkeep R) {host : Host σ} {run : Runner σ}
  (hr : run.Obeys R) {c : Callback} {slots : List Slot} {finish : Reply → Act σ α}
  (hf : ∀ r, (finish r).Keeps R)

include hR hr hf

/-- What happens inside a callback's frame, and what came before. -/
theorem callBodySince {w₀ w : World σ} (hw : w.busy = true → R w₀ w)
    (henter : w.busy = false → R w₀ ((run.enterHost host c slots).after w)) :
    R w₀ ((run.callBody host c slots finish w.busy).after w) := by
  cases hb : w.busy with
  | true => exact hR.trans (hw hb) (hR.throwFault hr .hostBusy w)
  | false =>
    have hentered := henter hb
    show R w₀ (Act.after (run.enterHost host c slots >>= finish) w)
    rcases e : run.enterHost host c slots w with ⟨r, w'⟩ | ⟨f, w'⟩
    · rw [Act.after_ok e] at hentered
      rw [Act.after, Act.bind_ok e]
      exact hR.trans hentered (hf r w')
    · rw [Act.after_error e] at hentered
      rw [Act.after, Act.bind_error e]
      exact hentered

/-- What happens inside a callback's frame. -/
theorem callBody {w : World σ}
    (henter : w.busy = false → R w ((run.enterHost host c slots).after w)) :
    R w ((run.callBody host c slots finish w.busy).after w) :=
  hR.callBodySince hr hf (fun _ => hR.refl w) henter

/-- A callback, when the host's coming and going are borne together with the opening of the frame. -/
theorem callHostSince {args : List Value} {w : World σ} (hopen : R w (openFrame args w).2)
    (hturn : w.busy = false → ∀ w',
      R (entering c (slots ++ (openFrame args w).1) (openFrame args w).2) w' → R w (leaving w'))
    (hclose : ∀ w', R w' (closeFrame w')) :
    R w ((run.callHost host c slots args finish).after w) := by
  rw [after_callHost]
  refine hR.trans (hR.callBodySince hr hf (w := (openFrame args w).2) (fun _ => hopen) fun hb => ?_) (hclose _)
  rw [after_enterHost]
  exact hturn hb _ (hR.takeTurn hr _ _)

/-- A callback, when its frame's opening and closing and the host's coming and going are borne. -/
theorem callHost {args : List Value} {w : World σ} (hopen : R w (openFrame args w).2)
    (hturn : w.busy = false → ∀ w',
      R (entering c (slots ++ (openFrame args w).1) (openFrame args w).2) w' →
        R (openFrame args w).2 (leaving w'))
    (hclose : ∀ w', R w' (closeFrame w')) :
    R w ((run.callHost host c slots args finish).after w) :=
  hR.callHostSince hr hf hopen (fun hb w' h => hR.trans hopen (hturn hb w' h)) hclose

end Upkeep

end ScriptBridge
