import ScriptBridge.Proofs.ProperReadings
import ScriptBridge.Proofs.SourceBytes
import ScriptBridge.Protocol.Interchange

/-!
The interchange forms lose nothing.

    read (write a)  =  a      for calls, responses, class descriptors and slots without floats

Each form has its tree, and its reader takes the tree for the value (`takes_toTree`): a call and a class descriptor are
records, a slot is a variant under its tag, and a response is an object whose status says what stands beside it.  The
status of a response is found by its name among members that are kept as trees (`bodyMembers_laid`), so a result is read
as any value of free form is.  Text comes back in both ways of writing it, without blanks and on lines.
-/
namespace ScriptBridge

open Source JsonReader JsonTree ModuleText

/-! ### Calls -/

theorem MethodCall.takes_toTree (c : MethodCall) (h : Takes tree c.arguments c.arguments) :
    Takes MethodCall.reader c.toTree c :=
  takes_record (.cons rfl rfl (takes_text c.method) (.cons rfl rfl h .nil)) rfl

/-! ### Responses -/

namespace Response

variable {depth fuel : Nat} {st : Status} {members : List (String × JsonTree)}

theorem takes_status (st : Status) : Takes Status.reader (.text st.name) st where
  opens := opens_laid (.text st.name)
  reads g level depth blanks rest hb hdepth hend := by
    rw [Status.reader, (takes_variantName st.name).reads g level depth blanks rest hb hdepth hend]
    cases st <;> rfl

/-- Members besides the status are kept as they are. -/
theorem bodyMembers_laid (g : Spacing) (level : Nat) (first : Bool) (rest : Source) (status : Option Status)
    (h : ∀ m ∈ members, m.1 ≠ "status" ∧ Takes tree m.2 m.2) (hdepth : membersDepth members < depth)
    (hfuel : members.length < fuel) :
    ∃ closing, Blank closing ∧
      bodyMembers depth fuel first status (laidMembers g level first members ++ some '\x7d' :: rest)
        = .ok (status, members, closing ++ some '\x7d' :: rest) := by
  induction members generalizing fuel first with
  | nil =>
    obtain ⟨fuel, rfl⟩ := Nat.exists_eq_add_one_of_ne_zero (Nat.ne_of_gt hfuel)
    have hclosing : Blank (laidMembers g level first []) := blank_laidMembers_nil
    refine ⟨_, hclosing, ?_⟩
    rw [bodyMembers, nextKey_end hclosing]
    rfl
  | cons m members ih =>
    obtain ⟨k, t⟩ := m
    obtain ⟨fuel, rfl⟩ := Nat.exists_eq_add_one_of_ne_zero (Nat.ne_of_gt (Nat.zero_lt_of_lt hfuel))
    obtain ⟨hk, hread⟩ := h (k, t) List.mem_cons_self
    rw [membersDepth] at hdepth
    obtain ⟨closing, hclosing, hmore⟩ := ih false (fun m hm => h m (List.mem_cons_of_mem _ hm)) (by omega)
      (Nat.lt_of_succ_lt_succ hfuel)
    have hvalue := hread.reads g (level + 1) depth _ _ (blank_value g) (by dsimp only; omega)
      (ends_laidMembers g level members rest)
    have hkey : (k == "status") = false := beq_eq_false_iff_ne.mpr hk
    refine ⟨closing, hclosing, ?_⟩
    rw [laidMembers_cons_append, bodyMembers, nextKey_comma (blank_line g _)]
    simp only [bind, Except.bind, quoted_flatMap, hkey, colon_cons, hvalue, hmore]
    rfl

theorem bodyMembers_status (g : Spacing) (level : Nat) (rest : Source) (st : Status)
    (h : ∀ m ∈ members, m.1 ≠ "status" ∧ Takes tree m.2 m.2) (hdepth : membersDepth members < depth)
    (hfuel : members.length + 1 < fuel) :
    ∃ closing, Blank closing ∧
      bodyMembers depth fuel true none
          (laidMembers g level true (("status", .text st.name) :: members) ++ some '\x7d' :: rest)
        = .ok (some st, members, closing ++ some '\x7d' :: rest) := by
  obtain ⟨fuel, rfl⟩ := Nat.exists_eq_add_one_of_ne_zero (Nat.ne_of_gt (Nat.zero_lt_of_lt hfuel))
  -- the status comes first, so all others are met with the status known
  obtain ⟨closing, hclosing, hmore⟩ := bodyMembers_laid g level false rest (some st) h hdepth
    (Nat.lt_of_succ_lt_succ hfuel)
  have hstatus := (takes_status st).reads g (level + 1) depth _ _ (blank_value g)
    (Nat.zero_lt_of_lt hdepth) (ends_laidMembers g level members rest)
  refine ⟨closing, hclosing, ?_⟩
  rw [laidMembers_cons_append, bodyMembers, nextKey_comma (blank_line g _)]
  simp only [bind, Except.bind, quoted_flatMap, colon_cons, hstatus, hmore]
  rfl

theorem takes_body (h : ∀ m ∈ members, m.1 ≠ "status" ∧ Takes tree m.2 m.2) :
    Takes bodyReader (.object (("status", .text st.name) :: members)) (.members st members) where
  opens g level := ⟨_, _, rfl, rfl, by decide⟩
  reads g level depth blanks rest hb hdepth _ := by
    obtain ⟨inner, hdescend, hinner⟩ := descend_of_lt hdepth
    rw [membersDepth] at hinner
    have hfuel : members.length + 1
        < (laidMembers g level true (("status", .text st.name) :: members) ++ some '\x7d' :: rest).length + 1 := by
      have hlength := length_le_laidMembers g level true (("status", .text st.name) :: members)
      simp only [List.length_append, List.length_cons] at hlength ⊢
      omega
    obtain ⟨closing, hclosing, hmembers⟩ := bodyMembers_status g level rest st h (show _ < inner by omega) hfuel
    rw [laid_object_append, bodyReader, head_append hb, head_object]
    simp only [hdescend, bind, Except.bind, hmembers, endObject_end hclosing]
    rfl

theorem takes_of_body {t : JsonTree} {body : Body} {r : Response} (h : Takes bodyReader t body)
    (hbody : ofBody body = .ok r) : Takes Response.reader t r where
  opens := h.opens
  reads g level depth blanks rest hb hdepth hend := by
    simp only [Response.reader, h.reads g level depth blanks rest hb hdepth hend, bind, Except.bind, hbody]
    rfl

theorem takes_any_text (s : String) : Takes tree (.text s) (.text s) :=
  takes_tree (by simp [Proper, parts, IsProper]) (by simp [Whole, parts, isFloat])

theorem takes_toTree (r : Response) (h : ∀ t ∈ r.result?, Takes tree t t) : Takes Response.reader r.toTree r := by
  cases r with
  | success result =>
    have hmembers : ∀ m ∈ [("result", result)], m.1 ≠ "status" ∧ Takes tree m.2 m.2 := by
      simpa using h result rfl
    exact takes_of_body (takes_body hmembers) rfl
  | error code message =>
    have hmembers : ∀ m ∈ [("code", JsonTree.text code), ("message", JsonTree.text message)],
        m.1 ≠ "status" ∧ Takes tree m.2 m.2 := by
      simpa using ⟨takes_any_text code, takes_any_text message⟩
    exact takes_of_body (takes_body hmembers) rfl
  | notImplemented =>
    have hmembers : ∀ m ∈ ([] : List (String × JsonTree)), m.1 ≠ "status" ∧ Takes tree m.2 m.2 := by simp
    exact takes_of_body (takes_body hmembers) rfl

end Response

/-! ### Class descriptors -/

theorem MemberDescriptor.takes_toTree (m : MemberDescriptor) : Takes MemberDescriptor.reader m.toTree m :=
  takes_record (.cons rfl rfl (takes_text m.name) (.cons rfl rfl (takes_uint32 m.flags.bits) .nil)) rfl

theorem ClassDescriptor.takes_toTree (d : ClassDescriptor) : Takes ClassDescriptor.reader d.toTree d :=
  takes_record
    (.cons rfl rfl (takes_text d.name) (.cons rfl rfl (takes_list fun m _ => m.takes_toTree) .nil)) rfl

/-! ### Slots -/

namespace Slot

theorem takes_handle (h : Handle) : Takes handleReader (.ofNat h.id.toNat) h := (takes_uint32 h.id).map

theorem takes_pair {α β : Type} {tag name : String} {read : JsonReader α} {t : JsonTree} {a : α}
    (make : α → Handle → β) (hname : name ≠ "handle") (ht : Takes read t a) (h : Handle) :
    Takes (record (pairRecord tag name read make)) (.object [(name, t), ("handle", .ofNat h.id.toNat)]) (make a h) := by
  -- the name is a variable here, so its field is found by the head of the list, and the handle's behind it
  have hfirst : (name == name) = true := beq_self_eq_true name
  have hsecond : ¬ (name == "handle") := by simpa using hname
  exact takes_record (.cons (List.find?_cons_of_pos hfirst) rfl ht
    (.cons (List.find?_cons_of_neg hsecond) rfl (takes_handle h) .nil)) rfl

/-- The readers of the slots' contents are found by the names of their tags. -/
theorem findVariant_tag (tag : SlotTag) :
    findVariant (SlotTag.all.map fun t => ⟨t.name, contentOf t⟩) tag.name = .ok ⟨tag.name, contentOf tag⟩ := by
  cases tag <;> rfl

theorem takes_content {s : Slot} {t : JsonTree} (hcontent : s.content? = some t)
    (h : Takes (Variant.read ⟨s.tag.name, contentOf s.tag⟩) t s) : Takes Slot.reader s.toTree s := by
  rw [toTree, hcontent]
  exact takes_variant (findVariant_tag s.tag) h

theorem takes_toTree (s : Slot) (hs : s.tag ≠ .double) : Takes Slot.reader s.toTree s := by
  cases s with
  | null => exact takes_bare (v := ⟨SlotTag.null.name, contentOf .null⟩) (findVariant_tag .null) rfl
  | int32 n => exact takes_content rfl (takes_int32 n).map
  | int64 n => exact takes_content rfl (takes_int64 n).map
  | double => exact absurd rfl hs
  | bool b => exact takes_content rfl (takes_bool b).map
  | text s => exact takes_content rfl (takes_text s).map
  | scriptString h | scriptValue h | managed h => exact takes_content rfl (takes_handle h).map
  | hostClass c h =>
    exact takes_content rfl (takes_pair Slot.hostClass (by decide) (takes_int32 c) h)
  | hostObject t h =>
    exact takes_content rfl (takes_pair Slot.hostObject (by decide) (takes_uint64 t) h)
  | rawPointer p => exact takes_content rfl (takes_uint64 p).map
  | promise p => exact takes_content rfl ((takes_uint32 p.id).map (f := fun n => Slot.promise ⟨n⟩))

end Slot

/-! ### Texts that read back -/

/-- The reader takes the tree's text for the value, written without blanks and on lines. -/
def ReadsBack {α : Type} (read : JsonReader α) (t : JsonTree) (a : α) : Prop :=
  run read (ofText t.compact) = .ok a ∧ run read (ofText t.onLines) = .ok a

theorem JsonReader.Takes.readsBack {α : Type} {read : JsonReader α} {t : JsonTree} {a : α} (h : Takes read t a)
    (hdepth : t.depth < depthLimit) : ReadsBack read t a :=
  ⟨h.compact hdepth, h.onLines hdepth⟩

theorem JsonTree.itemsDepth_le {n : Nat} {items : List JsonTree} (h : ∀ t ∈ items, t.depth ≤ n) :
    itemsDepth items ≤ n := by
  induction items with
  | nil => exact Nat.zero_le n
  | cons t items ih =>
    obtain ⟨ht, hitems⟩ := List.forall_mem_cons.mp h
    exact Nat.max_le.mpr ⟨ht, ih hitems⟩

theorem ClassDescriptor.depth_toTree (d : ClassDescriptor) : d.toTree.depth < depthLimit := by
  have hmembers : itemsDepth (d.members.map MemberDescriptor.toTree) ≤ 1 :=
    itemsDepth_le fun t ht => by
      obtain ⟨m, -, rfl⟩ := List.mem_map.mp ht
      exact Nat.le_refl 1
  simp only [toTree, JsonTree.depth, membersDepth, depthLimit]
  omega

theorem Slot.depth_toTree (s : Slot) (hs : s.tag ≠ .double) : s.toTree.depth < depthLimit := by
  cases s with
  | double => exact absurd rfl hs
  | _ => simp +decide [toTree, content?, JsonTree.depth, membersDepth, depthLimit, JsonTree.ofInt, JsonTree.ofNat]

/-- **The interchange forms lose nothing.**  A call, a response, a class descriptor or a slot without floats that is
written is read as the same, as long as it nests less deeply than readers go.  Values of free form are held with the
members of objects in the order of their keys, as those that have been read are. -/
theorem interchange_lossless :
    (∀ c : MethodCall, c.arguments.Proper → c.arguments.Whole → c.toTree.depth < depthLimit →
      MethodCall.decode (bytesOf c.encode) = .ok c ∧ ReadsBack MethodCall.reader c.toTree c) ∧
    (∀ r : Response, (∀ t ∈ r.result?, t.Proper ∧ t.Whole) → r.toTree.depth < depthLimit →
      ReadsBack Response.reader r.toTree r) ∧
    (∀ d : ClassDescriptor, ReadsBack ClassDescriptor.reader d.toTree d) ∧
    (∀ s : Slot, s.tag ≠ .double → ReadsBack Slot.reader s.toTree s) ∧
    (∀ message c, MethodCall.decode message = .ok c → c.arguments.Proper) ∧
    (∀ s r, run Response.reader s = .ok r → ∀ t ∈ r.result?, t.Proper) := by
  refine ⟨fun c hproper hwhole hdepth => ?call, fun r hresult hdepth => ?response,
    fun d => d.takes_toTree.readsBack d.depth_toTree, fun s hs => (s.takes_toTree hs).readsBack (s.depth_toTree hs),
    fun message c => MethodCall.decode_proper, fun s r => Response.run_proper⟩
  case call =>
    have hreads : ReadsBack MethodCall.reader c.toTree c :=
      (c.takes_toTree (takes_tree hproper hwhole)).readsBack hdepth
    refine ⟨?_, hreads⟩
    rw [MethodCall.decode, ofBytes_bytesOf]
    exact hreads.1
  case response =>
    exact (r.takes_toTree fun t ht => takes_tree (hresult t ht).1 (hresult t ht).2).readsBack hdepth

/-- Arguments with keys and numbers at their limits. -/
def awkwardArguments : JsonTree :=
  .object
    [("", .list [.number (.unsigned 18446744073709551615), .number (.negative (-9223372036854775808)), .list []]),
     ("\"\\\n\x01", .object [("é", .null), ("😀", .bool false)])]

theorem interchange_lossless_awkward :
    let c : MethodCall := ⟨"say \"\\\t\x00😀", awkwardArguments⟩
    let r : Response := .success awkwardArguments
    let s : Slot := .hostObject 18446744073709551615 ⟨7⟩
    (MethodCall.decode (bytesOf c.encode) = .ok c ∧ ReadsBack MethodCall.reader c.toTree c) ∧
      ReadsBack Response.reader r.toTree r ∧ ReadsBack Slot.reader s.toTree s := by
  have hproper : awkwardArguments.Proper := by decide
  have hwhole : awkwardArguments.Whole := by decide
  exact ⟨interchange_lossless.1 _ hproper hwhole (by decide),
    interchange_lossless.2.1 _ (by rintro _ ⟨⟩; exact ⟨hproper, hwhole⟩) (by decide),
    interchange_lossless.2.2.2.1 _ (by decide)⟩

end ScriptBridge
