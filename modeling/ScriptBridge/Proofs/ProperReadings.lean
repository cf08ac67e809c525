import ScriptBridge.Channel.Message
import ScriptBridge.Proofs.JsonValues

/-!
Values are read in the form in which they are held.

Members come in the order of the text and are entered by their keys, a later one in the stead of an earlier one of the
same key, so an object that has been read has its keys in order and each once (`proper_ofMembers`).  A numeral with a
minus sign is kept as a whole number only if it is below zero (`isProper_whole`).  Hence everything that is read as a
value of free form is `Proper` (`tree_proper`), and so are the arguments of calls and the results of responses.

Design.  `Returns x P` says of a computation that may fail that what it returns has the property; it goes through the
readers by their steps, with no regard to when they fail.
-/
namespace ScriptBridge

open Source JsonTree JsonReader

/-- Whatever the computation returns is such. -/
def Returns {α : Type} (x : Except JsonFault α) (P : α → Prop) : Prop := ∀ a, x = .ok a → P a

namespace Returns

variable {α β : Type} {x : Except JsonFault α} {f : α → Except JsonFault β} {P : β → Prop} {Q : α → Prop} {b : β}

theorem ok (h : P b) : Returns (.ok b) P := by
  rintro _ ⟨⟩
  exact h

theorem error {e : JsonFault} : Returns (.error e) P := by
  rintro _ ⟨⟩

theorem bind (hx : Returns x Q) (hf : ∀ a, Q a → Returns (f a) P) : Returns (x >>= f) P := by
  rcases x with e | a
  · exact error
  · exact hf a (hx a rfl)

theorem any (hf : ∀ a, Returns (f a) P) : Returns (x >>= f) P :=
  bind (Q := fun _ => True) (fun _ _ => trivial) fun a _ => hf a

theorem ite {c : Prop} [Decidable c] {x y : Except JsonFault β} (hx : Returns x P) (hy : Returns y P) :
    Returns (if c then x else y) P := by
  split <;> assumption

end Returns

/-! ### Numerals -/

theorem isProper_whole (positive : Bool) (n : Nat) : (JsonTree.number (whole positive n)).IsProper := by
  rw [whole]
  split
  case isTrue => trivial
  split
  case isTrue => trivial
  case isFalse h =>
    simp only [beq_iff_eq, Bool.or_eq_true, decide_eq_true_eq, not_or] at h
    show Int64.ofInt (-(n : Int)) < 0
    rw [Int64.lt_iff_toInt_lt, Int64.toInt_ofInt_of_le (by omega) (by omega)]
    show -(n : Int) < 0
    omega

theorem double_proper (positive : Bool) (n : Nat) (e : Int) :
    Returns (double positive n e) fun r => (JsonTree.number r).IsProper := by
  rw [double]
  rcases scaled 8 (Float.ofNat n) e with e | x
  · exact Returns.error
  · exact Returns.ok trivial

theorem power_proper (positive : Bool) (n : Nat) (e : Int) (s : Source) :
    Returns (power positive n e s) fun r => (JsonTree.number r.1).IsProper := by
  unfold power
  dsimp only
  refine .ite .error (.ite .error (.ite (.ite .error (.ok trivial)) ?_))
  exact (double_proper positive n _).bind fun _ h => .ok h

theorem fraction_proper (positive : Bool) (n : Nat) (e : Int) (s : Source) :
    Returns (fraction positive n e s) fun r => (JsonTree.number r.1).IsProper := by
  unfold fraction
  dsimp only
  refine .ite (.ite .error .error) ?_
  split
  · exact .ite (power_proper positive _ _ _) ((double_proper positive _ _).bind fun _ h => .ok h)
  · exact (double_proper positive _ _).bind fun _ h => .ok h

theorem numeral_proper (positive : Bool) (s : Source) :
    Returns (numeral positive s) fun r => (JsonTree.number r.1).IsProper := by
  unfold numeral
  dsimp only
  split
  · exact .ite .error .error
  refine .ite .error ?_
  split
  · exact fraction_proper positive _ _ _
  · refine .ite (power_proper positive _ _ _) (.ite (.ok (isProper_whole positive _)) ?_)
    exact (double_proper positive _ _).bind fun _ h => .ok h
  · exact .ite (.ok (isProper_whole positive _)) ((double_proper positive _ _).bind fun _ h => .ok h)

/-- A head that is a numeral is one that stands for a number. -/
def HeadProper : JsonHead → Prop
  | .number n => (JsonTree.number n).IsProper
  | _ => True

theorem head_proper (s : Source) : Returns (Source.head s) fun r => HeadProper r.1 := by
  unfold Source.head
  split
  · exact .error
  split
  · exact .any fun _ => .ok trivial
  · exact .any fun _ => .ok trivial
  · exact .any fun _ => .ok trivial
  · exact (numeral_proper false _).bind fun _ h => .ok h
  · exact .any fun _ => .ok trivial
  · exact .ok trivial
  · exact .ok trivial
  · exact .ite ((numeral_proper true _).bind fun _ h => .ok h) .error

/-! ### Objects -/

namespace JsonTree

variable {key : String} {v t : JsonTree} {m : String × JsonTree} {members : List (String × JsonTree)}
  {items : List JsonTree}

theorem mem_enter (h : m ∈ enter key v members) : m = (key, v) ∨ m ∈ members := by
  induction members with
  | nil => exact .inl (List.mem_singleton.mp h)
  | cons n members ih =>
    rw [enter_cons] at h
    split_ifs at h
    case pos => exact (List.mem_cons.mp h).imp_right (List.mem_cons_of_mem _)
    case pos => exact List.mem_cons.mp h
    case neg =>
      rcases List.mem_cons.mp h with rfl | h
      · exact .inr List.mem_cons_self
      · exact (ih h).imp_right (List.mem_cons_of_mem _)

theorem sorted_enter (h : Sorted members) : Sorted (enter key v members) := by
  induction members with
  | nil => exact List.pairwise_singleton _ _
  | cons n members ih =>
    obtain ⟨hbefore, hmembers⟩ := List.pairwise_cons.mp h
    rw [enter_cons]
    split_ifs with hsame hless
    case pos => exact List.pairwise_cons.mpr ⟨fun m hm => hsame ▸ hbefore m hm, hmembers⟩
    case pos =>
      refine List.pairwise_cons.mpr ⟨fun m hm => ?_, h⟩
      rcases List.mem_cons.mp hm with rfl | hm
      · exact hless
      · exact hless.trans (hbefore m hm)
    case neg =>
      -- the first stays before all: before those that were there, and before the new one, by the order of keys
      refine List.pairwise_cons.mpr ⟨fun m hm => ?_, ih hmembers⟩
      rcases mem_enter hm with rfl | hm
      · exact lt_of_le_of_ne (not_lt.mp hless) hsame
      · exact hbefore m hm

theorem forall_itemsParts {P : JsonTree → Prop} :
    (∀ s ∈ itemsParts items, P s) ↔ ∀ t ∈ items, ∀ s ∈ t.parts, P s := by
  induction items with
  | nil => simp [itemsParts]
  | cons t items ih => rw [itemsParts, List.forall_mem_append, ih, List.forall_mem_cons]

theorem forall_membersParts {P : JsonTree → Prop} :
    (∀ s ∈ membersParts members, P s) ↔ ∀ m ∈ members, ∀ s ∈ m.2.parts, P s := by
  induction members with
  | nil => simp [membersParts]
  | cons m members ih =>
    obtain ⟨k, t⟩ := m
    rw [membersParts, List.forall_mem_append, ih, List.forall_mem_cons]

theorem proper_list (h : ∀ t ∈ items, t.Proper) : (JsonTree.list items).Proper :=
  List.forall_mem_cons.mpr ⟨trivial, forall_itemsParts.mpr h⟩

theorem proper_ofMembers (h : ∀ m ∈ members, m.2.Proper) : (ofMembers members).Proper := by
  -- what has been entered so far is in order, whatever is still to come
  suffices hfold : ∀ entered : List (String × JsonTree), Sorted entered → (∀ m ∈ entered, m.2.Proper) →
      (JsonTree.object (members.foldl (fun sorted m => enter m.1 m.2 sorted) entered)).Proper from
    hfold [] List.Pairwise.nil (by simp)
  induction members with
  | nil =>
    intro entered hsorted hproper
    exact List.forall_mem_cons.mpr ⟨hsorted, forall_membersParts.mpr hproper⟩
  | cons n members ih =>
    intro entered hsorted hproper
    obtain ⟨hn, hmembers⟩ := List.forall_mem_cons.mp h
    refine ih hmembers _ (sorted_enter hsorted) fun m hm => ?_
    rcases mem_enter hm with rfl | hm
    · exact hn
    · exact hproper m hm

end JsonTree

/-! ### Values of free form -/

namespace JsonReader

mutual

theorem treeOf_proper : ∀ (fuel depth : Nat) (s : Source), Returns (treeOf fuel depth s) fun r => r.1.Proper
  | 0, _, _ => .error
  | fuel + 1, depth, s => by
    rw [treeOf]
    refine (head_proper s).bind ?_
    rintro ⟨h, rest⟩ hh
    cases h with
    | null | bool | text => exact .ok (List.forall_mem_singleton.mpr trivial)
    | number n => exact .ok (List.forall_mem_singleton.mpr hh)
    | list =>
      refine .any fun inner => (treeItems_proper fuel inner true rest).bind fun r hr => .any fun rest => .ok ?_
      exact proper_list hr
    | object =>
      refine .any fun inner => (treeMembers_proper fuel inner true rest).bind fun r hr => .any fun rest => .ok ?_
      exact proper_ofMembers hr

theorem treeItems_proper : ∀ (fuel depth : Nat) (first : Bool) (s : Source),
    Returns (treeItems fuel depth first s) fun r => ∀ t ∈ r.1, t.Proper
  | 0, _, _, _ => .error
  | fuel + 1, depth, first, s => by
    rw [treeItems]
    refine .any fun next => ?_
    cases next with
    | none => exact .ok (by simp)
    | some s =>
      refine (treeOf_proper fuel depth s).bind fun t ht => ?_
      refine (treeItems_proper fuel depth false t.2).bind fun more hmore => .ok ?_
      exact List.forall_mem_cons.mpr ⟨ht, hmore⟩

theorem treeMembers_proper : ∀ (fuel depth : Nat) (first : Bool) (s : Source),
    Returns (treeMembers fuel depth first s) fun r => ∀ m ∈ r.1, m.2.Proper
  | 0, _, _, _ => .error
  | fuel + 1, depth, first, s => by
    rw [treeMembers]
    refine .any fun next => ?_
    cases next with
    | none => exact .ok (by simp)
    | some s =>
      refine .any fun k => .any fun rest => ?_
      refine (treeOf_proper fuel depth rest).bind fun t ht => ?_
      refine (treeMembers_proper fuel depth false t.2).bind fun more hmore => .ok ?_
      exact List.forall_mem_cons.mpr ⟨ht, hmore⟩

end

theorem tree_proper (depth : Nat) (s : Source) : Returns (tree depth s) fun r => r.1.Proper :=
  treeOf_proper _ depth s

/-! ### Records -/

variable {σ α : Type} {fields : List (Field σ)} {given : σ} {P : σ → Prop}

/-- The field keeps what is collected such. -/
def Keeps (P : σ → Prop) (f : Field σ) : Prop :=
  ∀ depth s, Returns (f.read depth s) fun r => ∀ given, P given → P (r.1 given)

theorem members_returns (hfields : ∀ f ∈ fields, Keeps P f) (hgiven : P given) (depth fuel : Nat) (first : Bool)
    (s : Source) : Returns (members fields depth fuel first given s) fun r => P r.1 := by
  induction fuel generalizing first given s with
  | zero => exact .error
  | succ fuel ih =>
    rw [members]
    refine .any fun next => ?_
    cases next with
    | none => exact .ok hgiven
    | some s =>
      refine .any fun key => ?_
      dsimp only
      cases hfind : fields.find? fun f => f.name == key.1 with
      | none => exact .any fun rest => .any fun rest => ih hgiven _ _
      | some f =>
        refine .ite .error (.any fun rest => ?_)
        refine (hfields f (List.mem_of_find?_eq_some hfind) depth rest).bind fun put hput => ?_
        exact ih (hput given hgiven) _ _

theorem positions_returns (hfields : ∀ f ∈ fields, Keeps P f) (hgiven : P given) (depth : Nat) (first : Bool)
    (s : Source) : Returns (positions depth fields first given s) fun r => P r.1 := by
  induction fields generalizing first given s with
  | nil => exact .ok hgiven
  | cons f fields ih =>
    obtain ⟨hf, hfields⟩ := List.forall_mem_cons.mp hfields
    rw [positions]
    refine .any fun next => ?_
    cases next with
    | none => exact .ok hgiven
    | some s => exact (hf depth s).bind fun put hput => ih hfields (hput given hgiven) _ _

theorem itemsOf_returns {item : JsonReader α} {Q : α → Prop} (hitem : ∀ depth s, Returns (item depth s) fun r => Q r.1)
    (depth fuel : Nat) (first : Bool) (s : Source) :
    Returns (itemsOf item depth fuel first s) fun r => ∀ a ∈ r.1, Q a := by
  induction fuel generalizing first s with
  | zero => exact .error
  | succ fuel ih =>
    rw [itemsOf]
    refine .any fun next => ?_
    cases next with
    | none => exact .ok (by simp)
    | some s =>
      refine (hitem depth s).bind fun a ha => (ih false a.2).bind fun more hmore => .ok ?_
      exact List.forall_mem_cons.mpr ⟨ha, hmore⟩

/-- What is made of what was collected, with what stands behind it. -/
theorem build_returns {r : Record σ α} {Q : α → Prop} (hbuild : ∀ given a, P given → r.build given = .ok a → Q a)
    (hgiven : P given) (close : Except JsonFault Source) (fault : String → JsonFault) :
    Returns
      (match r.build given with
        | .ok a => do return (a, ← close)
        | .error name => .error (fault name)) fun x => Q x.1 := by
  cases hmade : r.build given with
  | ok a => exact .any fun rest => .ok (hbuild given a hgiven hmade)
  | error name => exact .error

theorem record_returns {r : Record σ α} {Q : α → Prop} (hfields : ∀ f ∈ r.fields, Keeps P f) (hstart : P r.start)
    (hbuild : ∀ given a, P given → r.build given = .ok a → Q a) (depth : Nat) (s : Source) :
    Returns (record r depth s) fun x => Q x.1 := by
  rw [record]
  refine .any fun h => ?_
  obtain ⟨h, rest⟩ := h
  cases h with
  | object =>
    refine .any fun inner => (members_returns hfields hstart inner _ true rest).bind fun x hx => ?_
    exact build_returns hbuild hx (endObject x.2) .missingField
  | list =>
    refine .any fun inner => (positions_returns hfields hstart inner true rest).bind fun x hx => ?_
    exact build_returns hbuild hx (endList x.2) _
  | null | bool | number | text => exact .error

theorem run_returns {read : JsonReader α} {Q : α → Prop} {s : Source} (h : Returns (read depthLimit s) fun r => Q r.1) :
    Returns (run read s) Q := h.bind fun _ hr => .any fun _ => .ok hr

end JsonReader

/-! ### Calls and responses -/

namespace MethodCall

theorem reader_proper (depth : Nat) (s : Source) : Returns (reader depth s) fun r => r.1.arguments.Proper := by
  refine record_returns (P := fun g : Given => ∀ t ∈ g.arguments, t.Proper)
    (Q := fun c : MethodCall => c.arguments.Proper) ?fields ?start ?build depth s
  case fields =>
    rw [List.forall_mem_cons, List.forall_mem_singleton]
    constructor
    · exact fun depth s => .any fun name => .ok fun given hgiven => hgiven
    · exact fun depth s => (tree_proper depth s).bind fun t ht => .ok fun given _ => by simpa using ht
  case start => simp
  case build =>
    rintro ⟨method, arguments⟩ c hgiven hmade
    cases method with
    | none => cases hmade
    | some method =>
      cases hmade
      cases arguments with
      | none => exact List.forall_mem_singleton.mpr trivial
      | some t => exact hgiven t rfl

/-- The arguments of a call that has been read are held as values are held. -/
theorem decode_proper {message : List UInt8} {c : MethodCall} (h : decode message = .ok c) : c.arguments.Proper :=
  run_returns (Q := fun c : MethodCall => c.arguments.Proper) (reader_proper _ _) c h

end MethodCall

namespace Response

variable {status : Option Status} {result : Option JsonTree} {members : List (String × JsonTree)}

/-- The value of free form that a response holds. -/
def result? : Response → Option JsonTree
  | .success result => some result
  | .error _ _ | .notImplemented => none

def Body.IsProper : Body → Prop
  | .members _ others => ∀ m ∈ others, m.2.Proper
  | .items _ others => ∀ t ∈ others, t.Proper

theorem bodyMembers_proper (depth fuel : Nat) (first : Bool) (s : Source) :
    Returns (bodyMembers depth fuel first status s) fun r => ∀ m ∈ r.2.1, m.2.Proper := by
  induction fuel generalizing first status s with
  | zero => exact .error
  | succ fuel ih =>
    rw [bodyMembers]
    refine .any fun next => ?_
    cases next with
    | none => exact .ok (by simp)
    | some s =>
      refine .any fun key => .ite (.ite .error (.any fun rest => .any fun st => ih _ _)) (.any fun rest => ?_)
      refine (tree_proper depth rest).bind fun t ht => (ih false t.2).bind fun more hmore => .ok ?_
      exact List.forall_mem_cons.mpr ⟨ht, hmore⟩

theorem bodyReader_proper (depth : Nat) (s : Source) : Returns (bodyReader depth s) fun r => r.1.IsProper := by
  unfold bodyReader
  refine .any ?_
  rintro ⟨h, rest⟩
  cases h with
  | object =>
    refine .any fun inner => (bodyMembers_proper inner _ true rest).bind ?_
    rintro ⟨status, others, rest⟩ hothers
    cases status with
    | none => exact .error
    | some st => exact .any fun rest => .ok hothers
  | list =>
    refine .any fun inner => .any fun next => ?_
    cases next with
    | none => exact .error
    | some rest =>
      refine .any fun st => (itemsOf_returns tree_proper inner _ false st.2).bind fun others hothers => ?_
      exact .any fun rest => .ok hothers
  | null | bool | number | text => exact .error

theorem resultOf_proper (hresult : ∀ t ∈ result, t.Proper) (hmembers : ∀ m ∈ members, m.2.Proper) :
    Returns (resultOf result members) Proper := by
  induction members generalizing result with
  | nil =>
    cases result with
    | none => exact .error
    | some t => exact .ok (hresult t rfl)
  | cons m members ih =>
    obtain ⟨hm, hmembers⟩ := List.forall_mem_cons.mp hmembers
    exact .ite (.ite .error (ih (by simpa using hm) hmembers)) (ih hresult hmembers)

theorem ofBody_proper {body : Body} (h : body.IsProper) : Returns (ofBody body) fun r => ∀ t ∈ r.result?, t.Proper := by
  cases body with
  | members st others =>
    cases st with
    | success => exact (resultOf_proper (by simp) h).bind fun t ht => .ok (by simpa [result?] using ht)
    | error => exact .any fun _ => .ok (by simp [result?])
    | notImplemented => exact .ok (by simp [result?])
  | items st others =>
    cases st with
    | success =>
      match others, h with
      | [], _ => exact .error
      | [t], h => exact .ok (by simpa [result?] using h t List.mem_cons_self)
      | _ :: _ :: _, _ => exact .error
    | error =>
      match others, h with
      | [], _ => exact .error
      | [_], _ => exact .any fun _ => .error
      | _ :: _ :: _, _ => exact .any fun _ => .any fun _ => .ite (.ok (by simp [result?])) .error
    | notImplemented => exact .ite (.ok (by simp [result?])) .error

/-- So is the result of a response that has been read. -/
theorem run_proper {s : Source} {r : Response} (h : run Response.reader s = .ok r) : ∀ t ∈ r.result?, t.Proper := by
  refine run_returns (Q := fun r : Response => ∀ t ∈ r.result?, t.Proper) ?_ r h
  exact (bodyReader_proper _ s).bind fun body hbody => (ofBody_proper hbody).bind fun r hr => .ok hr

end Response

end ScriptBridge
