import ScriptBridge.Proofs.Deaths

/-!
Objects of the host's side last.

What the engine does for a script leaves every object of the host's side as the kind that it is, its
class and its token included:

    (e.obj r).kind = .host h   →   ((e.answer q).2.obj r).kind = .host h

Design.  `Carriers` looks the other way and shows that no carrier comes from nowhere; here none is
lost.  A new object is put where no node is, and that is so as long as the heap is `Bounded` by the
next free place, which `Stays` carries along.  Only sweeps remove objects, and they tell the tokens of
those that they remove (`Told`).
-/
namespace ScriptBridge.Script

open Data

namespace Obj

/-- An object of the host's side is of the same kind afterwards. -/
def Stays (o o' : Obj) : Prop := ∀ h, o.kind = .host h → o'.kind = .host h

theorem Stays.of_kind {o o' : Obj} (h : o'.kind = o.kind) : o.Stays o' := fun _ ho => h.trans ho

theorem stays_put (o : Obj) (k : Key) (p : Property) : o.Stays (o.put k p) :=
  .of_kind (kind_put o k p)

theorem stays_unshare (o : Obj) (k : Key) : o.Stays (Engine.unshare o k) := by
  intro h ho
  unfold Engine.unshare
  split
  · rename_i hshared
    cases ho.symm.trans hshared
  · exact ho

theorem Stays.trans {a b c : Obj} (hab : a.Stays b) (hbc : b.Stays c) : a.Stays c :=
  fun h ha => hbc h (hab h ha)

end Obj

namespace Engine

/-- No node stands at or beyond the next free place. -/
def Bounded (e : Engine) : Prop := ∀ n, e.next ≤ n → e.nodes.get? n = none

/-- In a bounded heap every object of the host's side keeps its kind. -/
structure Stays (e e' : Engine) : Prop where
  next : e.next ≤ e'.next
  bounded : e.Bounded → e'.Bounded
  kept : e.Bounded → ∀ r, (e.obj r).Stays (e'.obj r)

theorem setObj_next (e : Engine) (r : Ref) (o : Obj) : (e.setObj r o).next = e.next := by
  cases r with
  | builtin b => rfl
  | made n =>
    rw [setObj]
    split <;> rfl

namespace Stays

variable {e e' e'' : Engine}

theorem refl (e : Engine) : Stays e e := ⟨Nat.le_refl _, id, fun _ _ _ h => h⟩

theorem trans (h : Stays e e') (h' : Stays e' e'') : Stays e e'' :=
  ⟨Nat.le_trans h.next h'.next, fun hb => h'.bounded (h.bounded hb),
    fun hb r => (h.kept hb r).trans (h'.kept (h.bounded hb) r)⟩

/-- A change that leaves the heap alone. -/
theorem of_same (hn : e'.nodes = e.nodes) (hnext : e'.next = e.next) (hp : e'.patched = e.patched) :
    Stays e e' := by
  refine ⟨Nat.le_of_eq hnext.symm, fun hb n hle => ?_, fun _ r => ?_⟩
  · rw [hn]
    exact hb n (hnext ▸ hle)
  · rw [obj_congr hn hp]
    exact fun _ h => h

theorem setObj (e : Engine) {r : Ref} {o : Obj} (ho : (e.obj r).Stays o) : Stays e (e.setObj r o) := by
  refine ⟨Nat.le_of_eq (setObj_next e r o).symm, fun hb n hle => ?_, fun _ s => ?_⟩
  · rcases r with b | m
    · exact hb n hle
    · rw [Engine.setObj] at hle ⊢
      split at hle
      · rename_i o' hm
        show (e.nodes.insert m (.object o)).get? n = none
        have hne : n ≠ m := by
          rintro rfl
          rw [hb n hle] at hm
          cases hm
        rw [NatMap.get?_insert, if_neg hne]
        exact hb n hle
      · exact hb n hle
  · rcases obj_setObj e r s o with ⟨rfl, hs⟩ | hs
    · rw [hs]
      exact ho
    · rw [hs]
      exact fun _ h => h

/-- A node is put where none was. -/
theorem allocate (e : Engine) (node : Node) : Stays e (e.allocate node).2 := by
  refine ⟨Nat.le_succ _, fun hb n hle => ?_, fun hb r h hr => ?_⟩
  · have hlt : e.next + 1 ≤ n := hle
    show (e.nodes.insert e.next node).get? n = none
    rw [NatMap.get?_insert, if_neg (Nat.ne_of_gt hlt)]
    exact hb n (Nat.le_of_succ_le hlt)
  -- an object of the host's side stands below the next free place, where the new node goes
  · rcases r with b | n
    · exact hr
    · rw [obj] at hr ⊢
      have hne : n ≠ e.next := by
        rintro rfl
        rw [hb _ (Nat.le_refl _)] at hr
        cases hr
      have hnode : (e.allocate node).2.nodes.get? n = e.nodes.get? n := by
        show (e.nodes.insert e.next node).get? n = _
        rw [NatMap.get?_insert, if_neg hne]
      simp only [hnode]
      exact hr

/-- A node that is no object is put in the place of one that is none. -/
theorem of_insert {n : NodeId} {old node : Node} (hold : e.nodes.get? n = some old)
    (hobj : ∀ o, old ≠ .object o) (hn : e'.nodes = e.nodes.insert n node) (hnext : e'.next = e.next)
    (hp : e'.patched = e.patched) : Stays e e' := by
  refine ⟨Nat.le_of_eq hnext.symm, fun hb m hle => ?_, fun hb r h hr => ?_⟩
  · have hne : m ≠ n := by
      rintro rfl
      rw [hb m (hnext ▸ hle)] at hold
      cases hold
    rw [hn, NatMap.get?_insert, if_neg hne]
    exact hb m (hnext ▸ hle)
  · rcases r with b | m
    · rw [obj] at hr ⊢
      rw [hp]
      exact hr
    · rw [obj] at hr ⊢
      have hne : m ≠ n := by
        rintro rfl
        rw [hold] at hr
        cases old with
        | object o => exact absurd rfl (hobj o)
        | _ => cases hr
      rw [hn, NatMap.get?_insert, if_neg hne]
      exact hr

end Stays

/-! ### Answers -/

theorem stays_writeCell (e : Engine) (c : NodeId) (v : Option Value) :
    Stays e (e.writeCell c v) := by
  rw [writeCell]
  split
  · rename_i u hc
    exact .of_insert hc (fun _ => Node.noConfusion) rfl rfl rfl
  · exact .refl e

theorem stays_writeTask (e : Engine) (id : NodeId) (t : Task) : Stays e (e.writeTask id t) := by
  rw [writeTask]
  split
  · rename_i u ht
    exact .of_insert ht (fun _ => Node.noConfusion) rfl rfl rfl
  · exact .refl e

/-- Looking a property up makes a prototype at most, and puts it in its place. -/
theorem stays_own (e : Engine) (r : Ref) (k : Key) : Stays e (e.own r k).2 := by
  unfold own
  simp only
  split
  · refine (Stays.allocate e (.object (prototypeFor r (e.obj r)))).trans (.setObj _ fun h hr => ?_)
    -- the new object is none of the host's side, so it is not the one that is looked at
    rcases obj_allocateObj e (prototypeFor r (e.obj r)) r with ⟨-, ha⟩ | ha
    · obtain ⟨p, hp⟩ := prototypeFor_script r (e.obj r)
      rw [show (e.allocate (.object (prototypeFor r (e.obj r)))).2.obj r = _ from ha, hp] at hr
      cases hr
    · rw [show (e.allocate (.object (prototypeFor r (e.obj r)))).2.obj r = _ from ha] at hr
      exact Obj.stays_put _ k _ h hr
  · exact .refl e
  · exact .refl e

theorem stays_update (e : Engine) (r : Ref) (k : Key) (p : Property) :
    Stays e (e.update r (e.obj r) k p) := by
  -- an object that is no longer one with a variable was never one of the host's side
  have put : ∀ q, Stays e (e.setObj r ((e.obj r).put k q)) := fun q => .setObj e (Obj.stays_put _ k q)
  have unshared : ∀ q, Stays e (e.setObj r ((unshare (e.obj r) k).put k q)) := fun q =>
    .setObj e ((Obj.stays_unshare _ k).trans (Obj.stays_put _ k q))
  unfold update
  split
  · exact (put _).trans (stays_writeCell _ _ _)
  · exact (unshared _).trans (stays_writeCell _ _ _)
  · exact unshared _

theorem stays_define (e : Engine) (r : Ref) (k : Key) (c : Change) : Stays e (e.define r k c).2 := by
  have hown := stays_own e r k
  -- whatever is found and admitted, what is defined is put in place, and the kind stays
  have put : ∀ (e : Engine) q, Stays e (e.setObj r ((e.obj r).put k q)) :=
    fun e q => .setObj e (Obj.stays_put _ k q)
  unfold define
  generalize e.own r k = found at hown ⊢
  obtain ⟨found, e'⟩ := found
  simp only at hown ⊢
  cases found with
  | some p =>
    simp only
    split
    · exact hown
    · split
      · refine hown.trans ?_
        unfold defineLength
        split
        · simp only
          split
          · exact put e' _
          · exact .setObj e' (.of_kind (Obj.kind_put _ _ _))
        · exact put e' _
      · exact hown.trans (stays_update e' r k _)
  | none =>
    simp only
    split
    · exact hown
    · split
      · refine hown.trans ?_
        unfold addElement
        simp only
        split
        · exact .setObj e' (Obj.stays_put _ _ _)
        · split
          · exact .refl e'
          · exact .setObj e' ((Obj.stays_put _ _ _).trans (Obj.stays_put _ _ _))
      · exact hown.trans (put e' _)

theorem stays_delete (e : Engine) (r : Ref) (k : Key) : Stays e (e.delete r k).2 := by
  unfold delete
  simp only
  split
  · split
    · exact .refl e
    · split
      · exact .setObj e ((Obj.stays_unshare _ k).trans (.of_kind (Obj.kind_remove _ k)))
      · exact .refl e
  · exact .refl e

/-- **What the engine does for a script leaves the host's objects what they are.** -/
theorem stays_answer (e : Engine) (q : Request) : Stays e (e.answer q).2 := by
  cases q with
  | own r k => exact stays_own e r k
  | define r k c => exact stays_define e r k c
  | delete r k => exact stays_delete e r k
  | reparent r proto =>
    show Stays e (e.reparent r proto).2
    unfold reparent
    split
    · exact .refl e
    · exact .setObj e (.of_kind rfl)
  | close r => exact .setObj e (.of_kind rfl)
  | make proto p members => exact .allocate e _
  | revise r p =>
    show Stays e (e.revise r p)
    unfold revise
    simp only
    split
    · rename_i hscript
      exact .setObj e fun h hr => by cases hr.symm.trans hscript
    · exact .refl e
  | newCell v => exact .allocate e _
  | writeCell c v => exact stays_writeCell e c v
  | newTask t => exact .allocate e _
  | writeTask id t => exact stays_writeTask e id t
  | declareGlobal n constant => exact (Stays.allocate e (.cell none)).trans (.of_same rfl rfl rfl)
  | symbolFor key =>
    show Stays e (e.symbolFor key).2
    unfold symbolFor
    split <;> exact .of_same rfl rfl rfl
  | _ => exact .of_same rfl rfl rfl

/-! ### Sweeps -/

/-- Of the nodes that carry a token, a sweep adds none, and tells the tokens of those that it
removes. -/
structure Told (before after : NatMap Node) (tokens : List UInt64) : Prop where
  left : ∀ n node t, after.get? n = some node → Node.token? node = some t →
    before.get? n = some node
  told : ∀ n node t, before.get? n = some node → Node.token? node = some t →
    after.get? n = some node ∨ t ∈ tokens

theorem Told.start (nodes : NatMap Node) {tokens : List UInt64} : Told nodes nodes tokens :=
  ⟨fun _ _ _ h _ => h, fun _ _ _ h _ => .inl h⟩

theorem Told.bury {before nodes : NatMap Node} {tokens : List UInt64} {n : NodeId} {node : Node}
    (h : Told before nodes tokens) (hn : nodes.get? n = some node) :
    Told before (nodes.erase n) ((Node.token? node).toList ++ tokens) := by
  constructor
  · intro m other t hm ht
    rw [NatMap.get?_erase] at hm
    split at hm
    · cases hm
    · exact h.left m other t hm ht
  · intro m other t hm ht
    rcases h.told m other t hm ht with hleft | htold
    · by_cases heq : m = n
      · rw [heq, hn] at hleft
        cases hleft
        exact .inr (List.mem_append_left _ (Option.mem_toList.mpr ht))
      · refine .inl ?_
        rw [NatMap.get?_erase, if_neg heq]
        exact hleft
    · exact .inr (List.mem_append_right _ htold)

theorem Told.replace {before nodes : NatMap Node} {tokens : List UInt64} {n : NodeId}
    {old node : Node} (h : Told before nodes tokens) (hn : nodes.get? n = some old)
    (hold : Node.token? old = none) (hnode : Node.token? node = none) :
    Told before (nodes.insert n node) tokens := by
  constructor
  · intro m other t hm ht
    rw [NatMap.get?_insert] at hm
    split at hm
    · cases hm
      cases hnode.symm.trans ht
    · exact h.left m other t hm ht
  · intro m other t hm ht
    rcases h.told m other t hm ht with hleft | htold
    · have hne : m ≠ n := by
        rintro rfl
        rw [hn] at hleft
        cases hleft
        cases hold.symm.trans ht
      refine .inl ?_
      rw [NatMap.get?_insert, if_neg hne]
      exact hleft
    · exact .inr htold

theorem Told.closed (before : NatMap Node) : Sweep.Closed (Told before) where
  bury h hn := h.bury hn
  replace h hn hold hnode := h.replace hn (token?_of_host? hold) (token?_of_host? hnode)

/-- A sweep puts no node beyond a place where none was. -/
theorem closed_bounded (next : NodeId) :
    Sweep.Closed fun nodes _ => ∀ n, next ≤ n → nodes.get? n = none where
  bury := by
    intro nodes _ n node h _ m hle
    rw [NatMap.get?_erase]
    split
    · rfl
    · exact h m hle
  replace := by
    intro nodes _ n old node h hn _ _ m hle
    have hne : m ≠ n := by
      rintro rfl
      rw [h m hle] at hn
      cases hn
    rw [NatMap.get?_insert, if_neg hne]
    exact h m hle

/-- What is left when objects have died and the tokens of those among them that carried one are told. -/
structure Leaves (e e' : Engine) (tokens : List UInt64) : Prop where
  next : e'.next = e.next
  bounded : e.Bounded → e'.Bounded
  left : ∀ {r h t}, (e'.obj r).kind = .host h → h.token? = some t → e'.obj r = e.obj r
  told : ∀ {r h t}, (e.obj r).kind = .host h → h.token? = some t →
    (e'.obj r).kind = .host h ∨ t ∈ tokens

theorem Leaves.trans {e₁ e₂ e₃ : Engine} {ts us : List UInt64} (h : Leaves e₁ e₂ ts)
    (h' : Leaves e₂ e₃ us) : Leaves e₁ e₃ (ts ++ us) := by
  refine ⟨h'.next.trans h.next, fun hb => h'.bounded (h.bounded hb), fun hr ht => ?_, fun hr ht => ?_⟩
  · have hlast := h'.left hr ht
    rw [hlast] at hr ⊢
    exact h.left hr ht
  · rcases h.told hr ht with hr | hts
    · exact (h'.told hr ht).imp_right (List.mem_append_right _)
    · exact .inr (List.mem_append_left _ hts)

/-- An object that carries a token is a node that carries it. -/
theorem node_of_kind {e : Engine} {n : NodeId} {h : HostData} {t : UInt64}
    (hr : (e.obj (.made n)).kind = .host h) (ht : h.token? = some t) :
    ∃ o, e.nodes.get? n = some (.object o) ∧ Node.token? (.object o) = some t
      ∧ o.kind = .host h := by
  rw [obj] at hr
  rcases hn : e.nodes.get? n with - | node
  · rw [hn] at hr
    cases hr
  · rw [hn] at hr
    cases node with
    | object o =>
      have hkind : o.kind = .host h := hr
      refine ⟨o, rfl, ?_, hkind⟩
      rw [token?_object, Obj.token?, hkind]
      exact ht
    | _ => cases hr

/-- What is told of nodes is told of objects. -/
theorem Told.leaves {e e' : Engine} {tokens : List UInt64} (h : Told e.nodes e'.nodes tokens)
    (hp : e'.patched = e.patched) (hnext : e'.next = e.next) (hb : e.Bounded → e'.Bounded) :
    Leaves e e' tokens := by
  have builtin : ∀ b, e'.obj (.builtin b) = e.obj (.builtin b) := by
    intro b
    rw [obj, obj, hp]
  have made : ∀ {e : Engine} {n o}, e.nodes.get? n = some (.object o) → e.obj (.made n) = o := by
    intro e n o hn
    rw [obj, hn]
  refine ⟨hnext, hb, fun {r d t} hr ht => ?_, fun {r d t} hr ht => ?_⟩
  · rcases r with b | n
    · exact builtin b
    · obtain ⟨o, hn, htoken, -⟩ := node_of_kind hr ht
      rw [made hn, made (h.left n _ t hn htoken)]
  · rcases r with b | n
    · exact .inl ((builtin b).symm ▸ hr)
    · obtain ⟨o, hn, htoken, hkind⟩ := node_of_kind hr ht
      rcases h.told n _ t hn htoken with hleft | htold
      · rw [made hleft]
        exact .inl hkind
      · exact .inr htold

theorem leaves_release (e : Engine) (held : List NodeId) :
    Leaves e (e.release held).1 (e.release held).2 :=
  Told.leaves ((Told.closed e.nodes).finish _ _ (Told.start e.nodes)) rfl rfl fun hb =>
    (closed_bounded e.next).finish _ _ hb

/-- Some of the nodes go at once, and their tokens are told. -/
theorem told_erased (nodes : NatMap Node) (dead : Nat × Node → Bool) :
    Told nodes ((nodes.entries.filter dead).foldl (fun t n => t.erase n.1) nodes)
      ((nodes.entries.filter dead).filterMap fun n => Node.token? n.2) := by
  constructor
  · intro n node t hn _
    rw [get?_erased] at hn
    split at hn
    · cases hn
    · exact hn
  · intro n node t hn ht
    rw [get?_erased]
    split
    · rename_i hmem
      obtain ⟨⟨n, other⟩, hdead, rfl⟩ := List.mem_map.mp hmem
      cases (NatMap.mem_entries.mp (List.mem_filter.mp hdead).1).symm.trans hn
      exact .inr (List.mem_filterMap.mpr ⟨_, hdead, ht⟩)
    · exact .inl hn

theorem leaves_collect (e : Engine) (held : List NodeId) :
    Leaves e (e.collect held).1 (e.collect held).2 := by
  unfold collect
  simp only
  generalize hs : Sweep.purgeWeak _ = s
  have htold : Told e.nodes s.nodes s.tokens := by
    rw [← hs]
    exact (Told.closed e.nodes).purgeWeak (told_erased e.nodes _)
  have hbounded : e.Bounded → ∀ n, e.next ≤ n → s.nodes.get? n = none := by
    intro hb
    rw [← hs]
    refine (closed_bounded e.next).purgeWeak fun n hle => ?_
    show NatMap.get? _ n = none
    rw [get?_erased]
    split
    · rfl
    · exact hb n hle
  -- the dead and the weak references go first, then what no handle holds any more
  have hfirst : Leaves e { e with nodes := s.nodes, suspended := s.suspended, jobs := e.jobs ++ s.jobs }
      s.tokens := Told.leaves htold rfl rfl hbounded
  exact hfirst.trans (leaves_release _ held)

end Engine

end ScriptBridge.Script
