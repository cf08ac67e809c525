import ScriptBridge.Proofs.Permanence
import ScriptBridge.Proofs.TokenRuns

/-!
What stands behind the tokens.

`TokenLife` reads the heap in the journal: what carries a token was made and has not died.
`World.Manifest` is the other way round: a token whose object was made and has not died is carried by an
object of the heap, every instance of the heap is the one that was built with its class and its token,
and it shows that token.  So when the host is called for a member, the token that it is given is the one
that the receiver was built with (`CalledFor`).

Design.  `Lasts w w'` keeps `Manifest` and, on top of it, says of every single object that carries a
token that it is of the same kind in `w'` unless it has died in between.  Objects come in one step
(`placed`) and go in another (`swept`); every other step leaves the host's objects alone
(`Engine.Stays`) and brings none (`Engine.Harmless`), whatever else it does (`aside`).
-/
namespace ScriptBridge

open Data Text Script Script.Script Runner

variable {σ α : Type}

/-! ### Member calls in the journal -/

/-- Right before the host is called for a member, apart from the handles of the arguments, a script has
called that member; the slots name it, and if it is one of instances, they name the token that the
receiver was built with. -/
def CalledFor (earlier : List Occurrence) (slots : List Slot) : Prop :=
  ∃ (handles : List Handle) (classId : Int32) (position : Nat) (route : MemberRoute) (this : Value)
    (before : List Occurrence) (rest : List Slot),
    earlier = handles.map Occurrence.issued ++ .asked classId position route this :: before ∧
    slots = .int32 classId :: .int32 (Int32.ofNat position) :: rest ∧
    (route.isStatic = false → ∃ r t more,
      this = .object r ∧ .built r classId t ∈ before ∧ rest = .rawPointer t :: more)

/-- Every call of a member in the journal was made for one. -/
def Attested (j : List Occurrence) : Prop :=
  ∀ later slots earlier, j = later ++ .entered .call slots :: earlier → CalledFor earlier slots

theorem Attested.cons {j : List Occurrence} {x : Occurrence} (h : Attested j)
    (hx : ∀ slots, x = .entered .call slots → CalledFor j slots) : Attested (x :: j) := by
  intro later slots earlier heq
  cases later with
  | nil =>
    cases heq
    exact hx slots rfl
  | cons y later =>
    cases heq
    exact h later slots earlier rfl

/-! ### Instances in the journal -/

/-- Is it a step in the making of an object that carries a token, or a call of a member? -/
def Occurrence.manifests : Occurrence → Bool
  | drawn _ | made _ | built .. | entered .call _ => true
  | _ => false

/-- The tokens of instances were drawn, no object was built twice, and members were called for. -/
structure Registered (j : List Occurrence) (last : UInt64) : Prop where
  numbers : Numbers j last
  once : ∀ {r c t c' t'}, .built r c t ∈ j → .built r c' t' ∈ j → c = c' ∧ t = t'
  drawn : ∀ {r c t}, .built r c t ∈ j → .drawn t ∈ j
  called : Attested j

namespace Registered

variable {j : List Occurrence} {last : UInt64}

theorem start : Registered [] 0 where
  numbers := .start
  once h := absurd h List.not_mem_nil
  drawn h := absurd h List.not_mem_nil
  called later slots earlier h := by simp at h

/-- An occurrence by which no token is drawn and no instance built. -/
theorem cons (h : Registered j last) {x : Occurrence} (hdrawn : x.drawn? = none)
    (hbuilt : ∀ r c t, x ≠ .built r c t)
    (hcall : ∀ slots, x = .entered .call slots → CalledFor j slots) : Registered (x :: j) last := by
  have mem : ∀ {r c t}, .built r c t ∈ x :: j → .built r c t ∈ j :=
    fun hb => (List.mem_cons.mp hb).resolve_left fun heq => hbuilt _ _ _ heq.symm
  exact ⟨h.numbers.later [x] (List.forall_mem_singleton.mpr hdrawn),
    fun hb hb' => h.once (mem hb) (mem hb'),
    fun hb => List.mem_cons_of_mem _ (h.drawn (mem hb)), h.called.cons hcall⟩

theorem made (h : Registered j last) (t : UInt64) : Registered (.made t :: j) last :=
  h.cons rfl (fun _ _ _ heq => nomatch heq) fun _ heq => nomatch heq

theorem later (h : Registered j last) (es : List Occurrence)
    (hes : ∀ x ∈ es, x.manifests = false) : Registered (es ++ j) last := by
  induction es with
  | nil => exact h
  | cons x es ih =>
    have hx := hes x List.mem_cons_self
    refine (ih fun y hy => hes y (List.mem_cons_of_mem _ hy)).cons ?_ ?_ ?_
    · cases x <;> first | rfl | cases hx
    · rintro r c t rfl
      cases hx
    · rintro slots rfl
      cases hx

theorem draw (h : Registered j last) (hfew : (draws j).length + 1 < 2 ^ 53) :
    Registered (.drawn (last + 1) :: j) (last + 1) := by
  have mem : ∀ {r c t}, .built r c t ∈ .drawn (last + 1) :: j → .built r c t ∈ j :=
    fun hb => (List.mem_cons.mp hb).resolve_left nofun
  exact ⟨h.numbers.drawn hfew, fun hb hb' => h.once (mem hb) (mem hb'),
    fun hb => List.mem_cons_of_mem _ (h.drawn (mem hb)), h.called.cons nofun⟩

/-- An object that was not built before is built with a token that was drawn. -/
theorem built (h : Registered j last) {r : Ref} {c : Int32} {t : UInt64} (ht : .drawn t ∈ j)
    (hr : ∀ c u, .built r c u ∉ j) : Registered (.built r c t :: j) last := by
  refine ⟨h.numbers.later [.built r c t] (List.forall_mem_singleton.mpr rfl),
    fun {s c₁ t₁ c₂ t₂} hb hb' => ?_, fun {s c₁ t₁} hb => ?_, h.called.cons nofun⟩
  · rcases List.mem_cons.mp hb with heq | hb <;> rcases List.mem_cons.mp hb' with heq' | hb'
    · cases heq
      cases heq'
      exact ⟨rfl, rfl⟩
    · cases heq
      exact absurd hb' (hr _ _)
    · cases heq'
      exact absurd hb (hr _ _)
    · exact h.once hb hb'
  · rcases List.mem_cons.mp hb with heq | hb
    · cases heq
      exact List.mem_cons_of_mem _ ht
    · exact List.mem_cons_of_mem _ (h.drawn hb)

end Registered

/-! ### Heap and journal -/

/-- An object carries a token when it is of a kind with that token. -/
theorem Script.Engine.carries_iff {e : Engine} {r : Ref} {t : UInt64} :
    e.Carries r t ↔ ∃ h, (e.obj r).kind = .host h ∧ h.token? = some t := by
  rw [Engine.Carries, Obj.token?]
  cases (e.obj r).kind with
  | script p =>
    constructor
    · intro h
      cases h
    · rintro ⟨_, h, -⟩
      cases h
  | host d =>
    constructor
    · exact fun h => ⟨d, rfl, h⟩
    · rintro ⟨_, h, h'⟩
      cases h
      exact h'

/-- The heap has the living objects of the journal, and its instances are those that were built. -/
structure Housed (e : Engine) (j : List Occurrence) : Prop where
  bounded : e.Bounded
  marked : ∀ r, (e.obj r).Marked
  carried : ∀ {t}, Alive j t → ∃ r, e.Carries r t
  built : ∀ {r c t}, (e.obj r).kind = .host (.instance c t) → .built r c t ∈ j
  /-- what was built has had its place, which nothing else gets -/
  placed : ∀ {r c t}, .built r c t ∈ j → ∃ n, r = .made n ∧ n < e.next

namespace Housed

variable {e e' : Engine} {j : List Occurrence}

/-- The object of a token is still there. -/
theorem carried_later (h : Housed e j) {es : List Occurrence} {t : UInt64}
    (hkept : ∀ {r d}, (e.obj r).kind = .host d → d.token? = some t → (e'.obj r).kind = .host d)
    (hmade : .made t ∈ j) (hlive : .died t ∉ es ++ j) : ∃ r, e'.Carries r t := by
  obtain ⟨r, hr⟩ := h.carried ⟨hmade, fun hdied => hlive (List.mem_append_right _ hdied)⟩
  obtain ⟨d, hkind, ht⟩ := Engine.carries_iff.mp hr
  exact ⟨r, Engine.carries_iff.mpr ⟨d, hkept hkind ht, ht⟩⟩

/-- No object with a token is made, and none is taken away. -/
theorem aside (h : Housed e j) (es : List Occurrence) (hmade : ∀ t, .made t ∉ es)
    (hbuilt : ∀ r c t, .built r c t ∉ es) (hs : Engine.Stays e e') (hh : Engine.Harmless e e') :
    Housed e' (es ++ j) := by
  refine ⟨hs.bounded h.bounded, fun r => ?_, fun {t} ha => ?_, fun {r c t} hr => ?_, fun {r c t} hb => ?_⟩
  · rcases hh r with hnone | ⟨-, hmarked⟩
    · exact Obj.marked_of_none hnone
    · exact hmarked (h.marked r)
  · exact h.carried_later (fun {r d} hkind _ => hs.kept h.bounded r d hkind)
      ((List.mem_append.mp ha.1).resolve_left (hmade t)) ha.2
  · rcases hh r with hnone | ⟨hkind, -⟩
    · rw [Obj.token?, hr] at hnone
      cases hnone
    · exact List.mem_append_right _ (h.built (hkind.symm.trans hr))
  · obtain ⟨n, hr, hlt⟩ := h.placed ((List.mem_append.mp hb).resolve_left (hbuilt r c t))
    exact ⟨n, hr, Nat.lt_of_lt_of_le hlt hs.next⟩

/-- An object with a token is made, and this is noted; of an instance it is also noted which object
it is. -/
theorem made (h : Housed e j) {o : Obj} {d : HostData} {t : UInt64} (ho : o.kind = .host d)
    (ht : d.token? = some t) (hm : o.Marked) (es : List Occurrence)
    (hes : ∀ x ∈ es, x = .made t ∨ ∃ c, x = .built (.made e.next) c t)
    (hbuilt : ∀ c, d = .instance c t → .built (.made e.next) c t ∈ es) :
    Housed (e.allocateObj o).2 (es ++ j) := by
  have hs : Engine.Stays e (e.allocateObj o).2 := .allocate e (.object o)
  refine ⟨hs.bounded h.bounded, fun r => ?_, fun {u} ha => ?_, fun {r c u} hr => ?_, fun {r c u} hx => ?_⟩
  · rcases Engine.obj_allocateObj e o r with ⟨-, hobj⟩ | hobj
    · rw [hobj]
      exact hm
    · rw [hobj]
      exact h.marked r
  -- the token is carried by the new object, every other by the one that carried it before
  · by_cases hu : u = t
    · refine ⟨.made e.next, Engine.carries_iff.mpr ⟨d, ?_, hu ▸ ht⟩⟩
      rw [obj_allocate]
      exact ho
    · refine h.carried_later (fun {r d} hkind _ => hs.kept h.bounded r d hkind) ?_ ha.2
      refine (List.mem_append.mp ha.1).resolve_left fun hx => ?_
      rcases hes _ hx with heq | ⟨c, heq⟩
      · exact hu (Occurrence.made.inj heq)
      · cases heq
  · rcases Engine.obj_allocateObj e o r with ⟨hnew, hobj⟩ | hobj
    · rw [hobj, ho] at hr
      cases hr
      cases ht
      rw [hnew]
      exact List.mem_append_left _ (hbuilt c rfl)
    · rw [hobj] at hr
      exact List.mem_append_right _ (h.built hr)
  · rcases List.mem_append.mp hx with hx | hx
    · rcases hes _ hx with heq | ⟨c', heq⟩
      · cases heq
      · cases heq
        exact ⟨e.next, rfl, Nat.lt_succ_self _⟩
    · obtain ⟨n, hn, hlt⟩ := h.placed hx
      exact ⟨n, hn, Nat.lt_succ_of_lt hlt⟩

/-- The next place is not that of an object that was built. -/
theorem unbuilt (h : Housed e j) (c : Int32) (t : UInt64) : .built (.made e.next) c t ∉ j := by
  intro hb
  obtain ⟨n, hn, hlt⟩ := h.placed hb
  cases hn
  exact Nat.lt_irrefl _ hlt

/-- Objects die, and the deaths of those that carried tokens are noted. -/
theorem swept (h : Housed e j) {ts us : List UInt64} (hl : Engine.Leaves e e' ts) (hus : us.Perm ts) :
    Housed e' ((us.map Occurrence.died).reverse ++ j) := by
  have other : ∀ x ∈ (us.map Occurrence.died).reverse, ∃ t, x = .died t := fun x hx => by
    obtain ⟨t, -, hdied⟩ := mem_dying.mp hx
    exact ⟨t, hdied⟩
  refine ⟨hl.bounded h.bounded, fun r t hr hpos hsmall => ?_, fun {t} ha => ?_, fun {r c t} hr => ?_,
    fun {r c t} hx => ?_⟩
  · obtain ⟨d, hkind, ht⟩ := Engine.carries_iff.mp hr
    rw [hl.left hkind ht] at hr ⊢
    exact h.marked r t hr hpos hsmall
  · refine h.carried_later (fun {r d} hkind ht => (hl.told hkind ht).resolve_right fun hts => ?_)
      ((List.mem_append.mp ha.1).resolve_left fun hx => nomatch other _ hx) ha.2
    exact ha.2 (List.mem_append_left _ (mem_dying.mpr ⟨t, hus.mem_iff.mpr hts, rfl⟩))
  · have hsame := hl.left hr rfl
    rw [hsame] at hr
    exact List.mem_append_right _ (h.built hr)
  · obtain ⟨n, hn, hlt⟩ := h.placed ((List.mem_append.mp hx).resolve_left fun hx => nomatch other _ hx)
    exact ⟨n, hn, Nat.lt_of_lt_of_eq hlt hl.next.symm⟩

end Housed

/-- The journal's living objects stand in the heap, and the heap's instances in the journal. -/
structure World.Manifest (w : World σ) : Prop where
  registered : Registered w.bridge.journal w.bridge.lastToken
  housed : Housed w.engine w.bridge.journal

namespace World.Manifest

variable {w w' : World σ}

/-- An instance shows its token, and the token has a double of its own. -/
theorem shows (h : w.Manifest) (hfew : w.Few) {r : Ref} {c : Int32} {t : UInt64}
    (hr : (w.engine.obj r).kind = .host (.instance c t)) :
    (w.engine.obj r).Marked ∧ 0 < t.toNat ∧ t.toNat < 2 ^ 53 :=
  ⟨h.housed.marked r, h.registered.numbers.small hfew (h.registered.drawn (h.housed.built hr))⟩

/-- A step that makes no object with a token, takes none away and calls no member. -/
theorem aside (h : w.Manifest) (es : List Occurrence) (hes : ∀ x ∈ es, x.manifests = false)
    (hj : w'.bridge.journal = es ++ w.bridge.journal)
    (hlast : w'.bridge.lastToken = w.bridge.lastToken) (hs : Engine.Stays w.engine w'.engine)
    (hh : Engine.Harmless w.engine w'.engine) : w'.Manifest := by
  refine ⟨?_, ?_⟩
  · rw [hj, hlast]
    exact h.registered.later es hes
  · rw [hj]
    refine h.housed.aside es (fun t hx => ?_) (fun r c t hx => ?_) hs hh
    · cases hes _ hx
    · cases hes _ hx

/-- The host is entered; if it is called for a member, then a script has called that member. -/
theorem entered (h : w.Manifest) {c : Callback} {slots : List Slot}
    (hcall : c = .call → CalledFor w.bridge.journal slots) : (entering c slots w).Manifest := by
  refine ⟨h.registered.cons rfl (fun _ _ _ heq => nomatch heq) fun slots' heq => ?_,
    h.housed.aside [.entered c slots] (by simp) (by simp) (.refl _) (.refl _)⟩
  cases heq
  exact hcall rfl

/-- Nothing has happened yet. -/
theorem start (s : Setup) (memory : σ) : (Context.emptyWorld s memory).Manifest := by
  have none : ∀ r, (Engine.fresh.obj r).token? = none := by
    intro r
    cases r with
    | builtin b => exact token?_initial b
    | made n => rfl
  refine ⟨.start, fun _ _ => rfl, fun r => Obj.marked_of_none (none r),
    fun h => absurd h.1 List.not_mem_nil, fun {r c t} hr => ?_, fun h => absurd h List.not_mem_nil⟩
  have hnone := none r
  rw [Obj.token?, show (Engine.fresh.obj r).kind = _ from hr] at hnone
  cases hnone

end World.Manifest

/-! ### From world to world -/

/-- The objects that carry tokens last from one world to another, unless they die. -/
structure Lasts (w w' : World σ) : Prop where
  grows : Grows w w'
  manifest : w'.Few → w.Manifest → w'.Manifest
  kept : w'.Few → w.Manifest → ∀ {r h t}, (w.engine.obj r).kind = .host h → h.token? = some t →
    .died t ∉ w'.bridge.journal → (w'.engine.obj r).kind = .host h

namespace Lasts

variable {w w' : World σ}

theorem steady : Steady (σ := σ) Lasts where
  refl w := ⟨Adds.steady.refl w, fun _ h => h, fun _ _ _ _ _ hr _ _ => hr⟩
  trans := by
    intro a b c hab hbc
    have hfew : c.Few → b.Few := fun hfew => hfew.of_grows hbc.grows
    refine ⟨Adds.steady.trans hab.grows hbc.grows, fun hc h => hbc.manifest hc (hab.manifest (hfew hc) h),
      fun hc h r d t hr ht hlive => ?_⟩
    -- the journal only grows, so who has not died by the end has not died halfway
    obtain ⟨es, hes, -⟩ := hbc.grows.journal
    have hbefore : .died t ∉ b.bridge.journal := by
      intro hdied
      rw [hes] at hlive
      exact hlive (List.mem_append_right _ hdied)
    exact hbc.kept hc (hab.manifest (hfew hc) h) (hab.kept (hfew hc) h hr ht hbefore) ht hlive

/-- What holds in any case may be proved for few tokens and a world that is manifest. -/
theorem of_manifest (hg : Grows w w') (h : w.Few → w.Manifest → Lasts w w') : Lasts w w' :=
  ⟨hg, fun hfew hm => (h (hfew.of_grows hg) hm).manifest hfew hm,
    fun hfew hm => (h (hfew.of_grows hg) hm).kept hfew hm⟩

/-! ### Steps -/

theorem aside (es : List Occurrence) (hes : ∀ x ∈ es, x.manifests = false)
    (hj : w'.bridge.journal = es ++ w.bridge.journal)
    (hlast : w'.bridge.lastToken = w.bridge.lastToken) (hb : w'.busy = w.busy)
    (hs : Engine.Stays w.engine w'.engine) (hh : Engine.Harmless w.engine w'.engine) : Lasts w w' where
  grows := ⟨hb, es, hj, fun _ _ => trivial⟩
  manifest _ h := h.aside es hes hj hlast hs hh
  kept _ h _ _ _ hr _ _ := hs.kept h.housed.bounded _ _ hr

/-- A step that leaves no trace in the journal. -/
theorem silent (hj : w'.bridge.journal = w.bridge.journal)
    (hlast : w'.bridge.lastToken = w.bridge.lastToken) (hb : w'.busy = w.busy)
    (hs : Engine.Stays w.engine w'.engine) (hh : Engine.Harmless w.engine w'.engine) : Lasts w w' :=
  aside [] (fun _ h => absurd h List.not_mem_nil) hj hlast hb hs hh

/-- A note, and the heap as it was. -/
theorem noted {x : Occurrence} (hx : x.manifests = false)
    (hj : w'.bridge.journal = x :: w.bridge.journal)
    (hlast : w'.bridge.lastToken = w.bridge.lastToken) (hb : w'.busy = w.busy)
    (he : w'.engine = w.engine) : Lasts w w' :=
  aside [x] (List.forall_mem_singleton.mpr hx) hj hlast hb (he ▸ .refl _) (he ▸ .refl _)

theorem drawn (w : World σ) : Lasts w ((Runner.drawToken : Act σ UInt64).after w) := by
  refine ⟨Adds.one rfl rfl trivial, fun hfew h => ⟨h.registered.draw ?_, ?_⟩, fun _ _ _ _ _ hr _ _ => hr⟩
  · have hlength : (draws (.drawn (w.bridge.lastToken + 1) :: w.bridge.journal)).length < 2 ^ 53 := hfew
    rw [draws, findings_cons, List.length_append] at hlength
    exact hlength
  · exact h.housed.aside [.drawn (w.bridge.lastToken + 1)] (by simp) (by simp) (.refl _) (.refl _)

theorem kind_hostObject (h : HostData) (proto : Ref) (members : List (Key × Property)) :
    (hostObject h proto members).kind = .host h :=
  Obj.kind_foldl_put members _

theorem makeWrapped : Act.Keeps Lasts (Runner.makeWrapped : Act σ Ref) := by
  intro w
  have made : ∀ (w : World σ) (t : UInt64), Lasts w ((Runner.makeCarrier (.wrapped t) t functionPrototype
      (hostFunctionMembers none) : Act σ Ref).after w) := by
    intro w t
    refine ⟨Adds.one rfl rfl trivial, fun _ h => ⟨h.registered.made _, ?_⟩,
      fun _ h _ _ _ hr _ _ => (Engine.Stays.allocate w.engine _).kept h.housed.bounded _ _ hr⟩
    exact h.housed.made (kind_hostObject _ _ _) rfl
      (marked_hostObject (.wrapped t) t functionPrototype (hostFunctionMembers none) rfl) [.made t]
      (List.forall_mem_singleton.mpr (.inl rfl)) nofun
  exact steady.trans (drawn w) (made _ _)

/-- An instance is made with a token that was drawn. -/
theorem makeInstance (c : Int32) {t : UInt64} (proto : Ref) (ht : .drawn t ∈ w.bridge.journal) :
    Lasts w ((Runner.makeInstance c t proto : Act σ Value).after w) := by
  refine ⟨⟨rfl, [.built (.made w.engine.next) c t, .made t], rfl, fun _ _ => trivial⟩,
    fun _ h => ⟨?_, ?_⟩,
    fun _ h _ _ _ hr _ _ => (Engine.Stays.allocate w.engine _).kept h.housed.bounded _ _ hr⟩
  · have hmade : Registered (.made t :: w.bridge.journal) w.bridge.lastToken :=
      h.registered.made _
    refine hmade.built (List.mem_cons_of_mem _ ht) fun c' u hb => ?_
    exact h.housed.unbuilt c' u ((List.mem_cons.mp hb).resolve_left nofun)
  · refine h.housed.made (kind_hostObject _ _ _) rfl (marked_hostObject (.instance c t) t proto [] rfl)
      [.built (.made w.engine.next) c t, .made t] (fun x hx => ?_) fun c' hc => ?_
    · rcases List.mem_cons.mp hx with rfl | hx
      · exact .inr ⟨c, rfl⟩
      · exact .inl (List.mem_singleton.mp hx)
    · cases hc
      exact List.mem_cons_self

/-- A construction, whatever is done in the middle of it. -/
theorem constructed (classId : Int32) (proto : Ref) (m : UInt64 → Act σ Unit)
    (hm : ∀ t, (m t).Keeps Lasts) : Act.Keeps Lasts (do
      let t ← Runner.drawToken
      m t
      Runner.makeInstance classId t proto) := by
  intro w
  have hdrawn := drawn w
  have hmem : .drawn (w.bridge.lastToken + 1)
      ∈ ((Runner.drawToken : Act σ UInt64).after w).bridge.journal := List.mem_cons_self
  rw [Act.after_bind_ok (show (Runner.drawToken : Act σ UInt64) w
    = .ok (w.bridge.lastToken + 1) ((Runner.drawToken : Act σ UInt64).after w) from rfl)]
  generalize (Runner.drawToken : Act σ UInt64).after w = w₁ at hdrawn hmem ⊢
  -- the token is still in the journal when its object is made
  refine steady.trans hdrawn (steady.bindAt (hm (w.bridge.lastToken + 1) w₁) fun a w₂ e => ?_)
  obtain ⟨es, hes, -⟩ := ((hm (w.bridge.lastToken + 1)).of_ok e).grows.journal
  refine makeInstance classId proto ?_
  rw [hes]
  exact List.mem_append_right _ hmem

/-- Objects die, and their tokens are queued. -/
theorem swept {e : Engine} {ts us : List UInt64} (hl : Engine.Leaves w.engine e ts) (hus : us.Perm ts) :
    Lasts w { w with engine := e, bridge := Context.queueDeaths w.bridge us } := by
  rw [Context.queueDeaths_eq]
  refine ⟨⟨rfl, _, rfl, fun _ _ => trivial⟩,
    fun _ h => ⟨h.registered.later _ fun x hx => ?_, h.housed.swept hl hus⟩,
    fun _ _ r h t hr ht hlive => (hl.told hr ht).resolve_right fun hts => hlive ?_⟩
  · obtain ⟨t, -, rfl⟩ := mem_dying.mp hx
    rfl
  · exact List.mem_append_left _ (mem_dying.mpr ⟨t, hus.mem_iff.mpr hts, rfl⟩)

/-! ### Callbacks -/

theorem upkeep : Upkeep (σ := σ) Lasts where
  toSteady := steady
  memory _ _ := silent rfl rfl rfl (.refl _) (.refl _)
  log _ _ := silent rfl rfl rfl (.refl _) (.refl _)
  retained _ _ _ _ := noted rfl rfl rfl rfl rfl
  released _ _ _ _ _ := noted rfl rfl rfl rfl rfl
  promised _ _ _ := noted rfl rfl rfl rfl rfl

theorem reporting : Reporting (σ := σ) Lasts where
  deferred _ _ := silent rfl rfl rfl (.refl _) (.refl _)
  rejected _ _ _ := noted rfl rfl rfl rfl rfl
  logged _ _ := noted rfl rfl rfl rfl rfl

theorem opened (args : List Value) (w : World σ) : Lasts w (openFrame args w).2 := by
  obtain ⟨hlast, -, -⟩ :=
    Lives.encodeAll_rest args { w.bridge with ledger := w.bridge.ledger.pushFrame }
  obtain ⟨es, hes, hissued⟩ := openFrame_issues args w
  refine aside es (fun x hx => ?_) hes hlast rfl (.refl _) (.refl _)
  obtain ⟨h, rfl⟩ := hissued x hx
  rfl

/-- The host's turn, from its beginning to its end. -/
theorem turn {c : Callback} {slots : List Slot} (hb : w.busy = false)
    (hcall : c = .call → CalledFor w.bridge.journal slots)
    (h : Lasts (entering c slots w) w') : Lasts w (leaving w') := by
  have hbefore : (leaving w').Few → w'.Few := fun hfew => hfew.earlier (show _ = [.left] ++ _ from rfl)
  refine ⟨Adds.turn (fun _ _ => trivial) trivial hb h.grows, fun hfew hm => ?_,
    fun hfew hm r d t hr ht hlive => ?_⟩
  · have hleft := h.manifest (hbefore hfew) (hm.entered hcall)
    exact hleft.aside [.left] (List.forall_mem_singleton.mpr rfl) rfl rfl (.refl _) (.refl _)
  · exact h.kept (hbefore hfew) (hm.entered hcall) hr ht fun hdied =>
      hlive (List.mem_cons_of_mem _ hdied)

/-- A callback; if the host is called for a member, then a script has called that member. -/
theorem callback {host : Host σ} {run : Runner σ} (hr : run.Obeys Lasts) (c : Callback)
    (slots : List Slot) (args : List Value) {finish : Reply → Act σ α}
    (hf : ∀ r, (finish r).Keeps Lasts)
    (hcall : c = .call → CalledFor (openFrame args w).2.bridge.journal (slots ++ (openFrame args w).1)) :
    Lasts w ((run.callHost host c slots args finish).after w) :=
  upkeep.callHost hr hf (opened args w) (fun hb _ h => turn hb hcall h) fun _ =>
    silent rfl rfl rfl (.refl _) (.refl _)

/-- A member call that sends its slots is one of its receiver. -/
theorem calledFor {run : Runner σ} (hr : run.Obeys Lasts) (hfew : w.Few) (hm : w.Manifest)
    {classId : Int32} {position : Nat} {route : MemberRoute} {this : Value} {fixed : List Slot}
    {before : List Occurrence} (hj : w.bridge.journal = .asked classId position route this :: before)
    (h : run.memberSlots classId position route this w = .ok fixed w') (args : List Value) :
    w' = w ∧ CalledFor (openFrame args w).2.bridge.journal (fixed ++ (openFrame args w).1) := by
  obtain ⟨rfl, hfixed⟩ := memberSlots_ok hr (fun hkind => hm.shows hfew hkind) h
  refine ⟨rfl, ((stagedArguments args w').map Prod.fst).reverse, classId, position, route, this, before,
    ?_⟩
  have hjournal : (openFrame args w').2.bridge.journal
      = ((stagedArguments args w').map Prod.fst).reverse.map Occurrence.issued
        ++ .asked classId position route this :: before := by
    rw [(openFrame_encodes args w').journal, List.map_reverse, List.map_map, hj]
    rfl
  -- an instance of the heap was built, and before the call was noted
  rcases hfixed with ⟨hstatic, rfl⟩ | ⟨t, ⟨r, rfl, hkind⟩, rfl⟩
  · refine ⟨_, hjournal, rfl, fun hroute => ?_⟩
    cases hstatic.symm.trans hroute
  · have hbuilt := hm.housed.built hkind
    rw [hj] at hbuilt
    exact ⟨_, hjournal, rfl, fun _ =>
      ⟨r, t, _, rfl, (List.mem_cons.mp hbuilt).resolve_left nofun, rfl⟩⟩

/-- What a member function does once its call is noted. -/
theorem sendMember {host : Host σ} {run : Runner σ} (hr : run.Obeys Lasts) {classId : Int32}
    {position : Nat} {route : MemberRoute} {this : Value} (args : List Value)
    {before : List Occurrence} (hj : w.bridge.journal = .asked classId position route this :: before) :
    Lasts w ((run.sendMember host classId position route this args).after w) := by
  have hR : Upkeep (σ := σ) Lasts := upkeep
  -- the receiver's token is known only in a manifest world with few tokens
  have hgrow : run.Obeys Grows := ⟨fun p w => (hr.keeps p w).grows, hr.sound, hr.reads⟩
  refine of_manifest ((Adds.bystander (fun _ _ => trivial) host).sendMember hgrow classId position route
    this args w) fun hfew hm => ?_
  refine hR.sendMember hr fun fixed w₁ e _ => ?_
  obtain ⟨rfl, hcall⟩ := calledFor hr hfew hm hj e (Runner.sentArguments route.kind args)
  exact callback hr .call fixed _ (fun r => hR.replyValue hr r) fun _ => hcall

theorem callMember {host : Host σ} {run : Runner σ} (hr : run.Obeys Lasts) (classId : Int32)
    (position : Nat) (this : Value) (args : List Value) :
    Act.Keeps Lasts (run.callMember host classId position this args) := by
  refine Act.keeps_bridge fun w => ?_
  rcases w.bridge.classes.route? classId position with - | route
  · exact upkeep.throwFault hr _ w
  · have hasked : Lasts w { w with bridge := w.bridge.note (.asked classId position route this) } :=
      noted (x := .asked classId position route this) rfl rfl rfl rfl rfl
    exact steady.trans hasked (sendMember hr args rfl)

/-! ### Every run -/

theorem observer (host : Host σ) : Observer host (Lasts (σ := σ)) where
  toBackground := upkeep.toBackground
  engineAnswer w q := silent rfl rfl rfl (Engine.stays_answer w.engine q)
    (Engine.harmless_answer w.engine q)
  taskWritten w id t := silent rfl rfl rfl (Engine.stays_writeTask w.engine id t)
    (Engine.harmless_writeTask w.engine id t)
  taskKept _ _ := silent rfl rfl rfl (.of_same rfl rfl rfl) (.of_same rfl rfl)
  rejection _ hr := upkeep.rejection hr reporting host
  tokenRefused _ _ := noted rfl rfl rfl rfl rfl
  constructed := constructed
  memberCall _ hr := callMember hr
  callback _ hr _ c slots args _ _ hc _ hf _ := callback hr c slots args hf fun heq => absurd heq hc

/-- **The host's objects last through every operation of a context.** -/
theorem service (host : Host σ) : Service host (Lasts (σ := σ)) where
  toConduct := (observer host).conduct
  retained := upkeep.retained
  released := upkeep.released
  promised := upkeep.promised
  busy h := h.grows.busy
  withholding _ hr _ _ := upkeep.withholding hr reporting host
  valueStaged _ _ _ := noted rfl rfl rfl rfl rfl
  valueHeld _ _ _ := noted rfl rfl rfl rfl rfl
  promiseTaken _ _ _ _ _ := noted rfl rfl rfl rfl rfl
  hostMade w h proto members hh := silent rfl rfl rfl (.allocate w.engine _)
    (Engine.harmless_allocateObj w.engine ((token?_hostObject h proto members).trans hh))
  functionWrapped := makeWrapped
  classAdded _ _ := silent rfl rfl rfl (.refl _) (.refl _)
  intrinsicsSet _ _ := silent rfl rfl rfl (.refl _) (.refl _)
  jobTaken _ _ := silent rfl rfl rfl (.of_same rfl rfl rfl) (.of_same rfl rfl)
  cacheCleared _ := silent rfl rfl rfl (.refl _) (.refl _)
  collected _ := swept (Engine.leaves_collect _ _) (Context.sortTokens_perm _)
  tablesReleased _ := noted rfl rfl rfl rfl rfl
  noticesDelivered run hr n _ hb := by
    have dequeued : ∀ (w : World σ) ts,
        Lasts w { w with bridge := { w.bridge with finalized := ts } } :=
      fun _ _ => silent rfl rfl rfl (.refl _) (.refl _)
    have notice : ∀ t (w : World σ), w.busy = false → Lasts w
        (Act.after (run.callHost host .delete [.rawPointer t] [] fun _ => pure ()) w) :=
      fun t w _ => callback hr .delete [.rawPointer t] [] (fun _ => steady.pure ()) nofun
    have swept : ∀ w : World σ, Lasts w (Context.sweep w) :=
      fun _ => swept (Engine.leaves_release _ _) (Context.sortTokens_perm _)
    exact steady.deliverDue (fun h => h.grows.busy)
      (fun _ hb => steady.deliverNext (fun h => h.grows.busy) dequeued notice hb) swept n hb

/-- **What a script runs leaves every object that carries a token what it is**, since a script sees no
object die. -/
theorem run_keeps (host : Host σ) (steps depth : Nat) {ρ : Type} (p : Prog ρ) (hm : w.Manifest)
    {P : List UInt64} (hlife : w.Life P) (hfew : (Machine.run host steps depth p w).2.Few) {r : Ref}
    {h : HostData} {t : UInt64} (hr : (w.engine.obj r).kind = .host h) (ht : h.token? = some t) :
    ((Machine.run host steps depth p w).2.engine.obj r).kind = .host h := by
  have hlasts : Lasts w (Machine.run host steps depth p w).2 :=
    ((observer host).conduct.runner steps depth).keeps p w
  have hadds : Adds Occurrence.Scripted w (Machine.run host steps depth p w).2 :=
    ((Adds.bystander (fun _ hx => hx) host).conduct.runner steps depth).keeps p w
  -- a death in between would stand in what the script has added to the journal
  obtain ⟨es, hes, hscripted⟩ := hadds.journal
  refine hlasts.kept hfew hm hr ht fun hdied => ?_
  rw [hes] at hdied
  rcases List.mem_append.mp hdied with hdied | hdied
  · exact hscripted _ hdied
  · exact (hlife.heap.alive (Engine.carries_iff.mpr ⟨h, hr, ht⟩)).2 hdied

end Lasts

/-- What the journal of a reachable context tells of living objects is so. -/
theorem Context.Reachable.manifest {c : Context σ} (hc : c.Reachable) (hfew : c.world.Few) :
    c.world.Manifest := by
  obtain ⟨s, memory, hlasts⟩ := hc.kept (Lasts.service c.host)
  exact hlasts.manifest hfew (World.Manifest.start s memory)

end ScriptBridge
