import ScriptBridge.Json.Record
import ScriptBridge.Proofs.JsonScalars

/-!
What readers take for what.

`Takes read t a` says that a reader takes the text of the tree `t` for the value `a`: in every spacing, behind blanks,
before everything that may follow a value, and with levels enough left.  It holds of a scalar by the head of its text
(`takes_scalar`), of lists, records and variants by what the readers inside them take (`takes_list`, `takes_record`,
`takes_variant`).  A reader that takes a tree that is no deeper than the limit takes it back from both of its texts
(`Takes.compact`, `Takes.onLines`).
-/
namespace ScriptBridge

open Source JsonTree

/-! ### Levels of a tree -/

namespace JsonTree

mutual

/-- How many levels of brackets a tree has. -/
def depth : JsonTree → Nat
  | .null | .bool _ | .number _ | .text _ => 0
  | .list items => itemsDepth items + 1
  | .object members => membersDepth members + 1

def itemsDepth : List JsonTree → Nat
  | [] => 0
  | t :: rest => max t.depth (itemsDepth rest)

def membersDepth : List (String × JsonTree) → Nat
  | [] => 0
  | (_, t) :: rest => max t.depth (membersDepth rest)

end

end JsonTree

namespace JsonReader

/-- The reader takes the text of the tree for the value. -/
structure Takes {α : Type} (read : JsonReader α) (t : JsonTree) (a : α) : Prop where
  opens (g : Spacing) (level : Nat) : Opens (laid g level t)
  reads (g : Spacing) (level depth : Nat) (blanks rest : Source) :
    Blank blanks → t.depth < depth → Ends rest → read depth (blanks ++ (laid g level t ++ rest)) = .ok (a, rest)

variable {α β : Type} {read : JsonReader α} {t : JsonTree} {a : α} {blanks rest : Source} {level depth fuel : Nat}
  {g : Spacing} {first : Bool}

/-! ### Scalars -/

/-- A value that no bracket opens, and that a word can hold if it is a number. -/
inductive Plain : JsonTree → Prop
  | null : Plain .null
  | bool (b : Bool) : Plain (.bool b)
  | number {n : JsonNumeral} : WholeNumeral n → Plain (.number n)
  | text (s : String) : Plain (.text s)

theorem head_laid (ht : Plain t) (h : Ends rest) : Source.head (laid g level t ++ rest) = .ok (t.head, rest) := by
  cases ht with
  | null => rfl
  | bool b => cases b <;> rfl
  | number hn => exact head_numeral hn h
  | text s =>
    rw [laid, map_quotedChars, head_quote, quoted_flatMap]
    rfl

theorem opens_laid (ht : Plain t) (g : Spacing) (level : Nat) : Opens (laid g level t) := by
  cases ht with
  | null => exact ⟨_, _, rfl, rfl, by decide⟩
  | bool b => cases b <;> exact ⟨_, _, rfl, rfl, by decide⟩
  | number hn => exact opens_numeral hn
  | text s => exact ⟨_, _, rfl, rfl, by decide⟩

theorem takes_scalar {expected : String} {accept : JsonHead → Option (Except JsonFault α)} (ht : Plain t)
    (haccept : accept t.head = some (.ok a)) : Takes (scalar expected accept) t a where
  opens := opens_laid ht
  reads g level depth blanks rest hb _ h := by
    simp only [scalar, head_append hb, head_laid ht h, haccept, bind, Except.bind, pure, Except.pure]

theorem takes_text (s : String) : Takes text (.text s) s := takes_scalar (.text s) rfl

theorem takes_bool (b : Bool) : Takes JsonReader.bool (.bool b) b := takes_scalar (.bool b) rfl

theorem Takes.map {f : α → β} (h : Takes read t a) : Takes (JsonReader.map f read) t (f a) where
  opens := h.opens
  reads g level depth blanks rest hb hdepth hend := by
    simp only [JsonReader.map, h.reads g level depth blanks rest hb hdepth hend, bind, Except.bind, pure, Except.pure]

/-! ### Whole numbers -/

theorem wholeNumeral_ofInt {i : Int} (h : -9223372036854775808 ≤ i) : WholeNumeral (.ofInt i) := by
  cases i with
  | ofNat n => trivial
  | negSucc n =>
    show Int64.ofInt (Int.negSucc n) < 0
    rw [Int64.lt_iff_toInt_lt, Int64.toInt_ofInt_of_le h (by omega)]
    exact Int.negSucc_lt_zero n

theorem int?_ofInt {i : Int} (hleast : -9223372036854775808 ≤ i) (hgreatest : i ≤ 18446744073709551615) :
    (JsonNumeral.ofInt i).int? = some i := by
  cases i with
  | ofNat n =>
    have hn : n < UInt64.size := Nat.lt_of_le_of_lt (Int.ofNat_le.mp hgreatest) (by decide)
    simp [JsonNumeral.ofInt, JsonNumeral.int?, UInt64.toNat_ofNat_of_lt' hn]
  | negSucc n => rw [JsonNumeral.ofInt, JsonNumeral.int?, Int64.toInt_ofInt_of_le hleast (by omega)]

theorem takes_integer {expected : String} {least greatest i : Int}
    (hword : -9223372036854775808 ≤ least ∧ greatest ≤ 18446744073709551615) (hrange : least ≤ i ∧ i ≤ greatest) :
    Takes (integer expected least greatest) (.ofInt i) i := by
  have hleast := Int.le_trans hword.1 hrange.1
  have hgreatest := Int.le_trans hrange.2 hword.2
  refine takes_scalar (.number (wholeNumeral_ofInt hleast)) ?_
  simp only [JsonTree.ofInt, JsonTree.head, int?_ofInt hleast hgreatest]
  simp [hrange]

theorem takes_int32 (n : Int32) : Takes int32 (.ofInt n.toInt) n := by
  have hleast := n.le_toInt
  have hless := n.toInt_lt
  have h : Takes int32 (.ofInt n.toInt) (Int32.ofInt n.toInt) := (takes_integer (by decide) (by omega)).map
  rwa [Int32.ofInt_toInt] at h

theorem takes_int64 (n : Int64) : Takes int64 (.ofInt n.toInt) n := by
  have hleast := n.le_toInt
  have hless := n.toInt_lt
  have h : Takes int64 (.ofInt n.toInt) (Int64.ofInt n.toInt) := (takes_integer (by decide) (by omega)).map
  rwa [Int64.ofInt_toInt] at h

theorem takes_uint32 (n : UInt32) : Takes uint32 (.ofNat n.toNat) n := by
  have hless := n.toNat_lt
  have h : Takes uint32 (.ofNat n.toNat) (UInt32.ofNat (n.toNat : Int).toNat) :=
    (takes_integer (i := n.toNat) (by decide) (by omega)).map
  simpa using h

theorem takes_word {expected : String} (n : UInt64) :
    Takes (JsonReader.map (fun i => UInt64.ofNat i.toNat) (integer expected 0 18446744073709551615)) (.ofNat n.toNat)
      n := by
  have hless := n.toNat_lt
  have h : Takes (JsonReader.map (fun i => UInt64.ofNat i.toNat) (integer expected 0 18446744073709551615))
      (.ofNat n.toNat) (UInt64.ofNat (n.toNat : Int).toNat) :=
    (takes_integer (i := n.toNat) (by decide) (by omega)).map
  simpa using h

theorem takes_uint64 (n : UInt64) : Takes uint64 (.ofNat n.toNat) n := takes_word n

theorem takes_size (n : UInt64) : Takes size (.ofNat n.toNat) n := takes_word n

/-! ### Between items -/

theorem blank_line (g : Spacing) (level : Nat) : Blank (g.line level) := g.line_blank level

theorem blank_laidItems_nil : Blank (laidItems g level first []) := by
  cases first
  · exact blank_line g level
  · exact blank_nil

theorem blank_laidMembers_nil : Blank (laidMembers g level first []) := by
  cases first
  · exact blank_line g level
  · exact blank_nil

theorem ends_laidItems (g : Spacing) (level : Nat) (items : List JsonTree) (rest : Source) :
    Ends (laidItems g level false items ++ some ']' :: rest) := by
  cases items with
  | nil => exact ends_append_cons blank_laidItems_nil (ends_cons (by simp))
  | cons t items => exact ends_cons (by simp)

theorem ends_laidMembers (g : Spacing) (level : Nat) (members : List (String × JsonTree)) (rest : Source) :
    Ends (laidMembers g level false members ++ some '\x7d' :: rest) := by
  cases members with
  | nil => exact ends_append_cons blank_laidMembers_nil (ends_cons (by simp))
  | cons m members => exact ends_cons (by simp)

theorem nextItem_end (hb : Blank blanks) : nextItem first (blanks ++ some ']' :: rest) = .ok none := by
  rw [nextItem, skipBlanks_append hb]
  rfl

theorem endList_end (hb : Blank blanks) : endList (blanks ++ some ']' :: rest) = .ok rest := by
  rw [endList, skipBlanks_append hb]
  rfl

theorem nextItem_comma {s : Source} (hb : Blank blanks) (hs : Opens s) :
    nextItem first (comma first ++ (blanks ++ (s ++ rest))) = .ok (some (s ++ rest)) := by
  obtain ⟨p, s, rfl, hblank, hbracket⟩ := hs
  have hskip : skipBlanks (blanks ++ p :: (s ++ rest)) = p :: (s ++ rest) := by
    rw [skipBlanks_append hb, skipBlanks_cons hblank]
  have hcomma : skipBlanks (some ',' :: (blanks ++ p :: (s ++ rest))) = some ',' :: (blanks ++ p :: (s ++ rest)) :=
    skipBlanks_cons rfl
  cases first
  · simp [nextItem, hcomma, hskip, hbracket]
  · simp [nextItem, hskip]

theorem nextKey_end (hb : Blank blanks) : nextKey first (blanks ++ some '\x7d' :: rest) = .ok none := by
  rw [nextKey, skipBlanks_append hb]
  rfl

theorem endObject_end (hb : Blank blanks) : endObject (blanks ++ some '\x7d' :: rest) = .ok rest := by
  rw [endObject, skipBlanks_append hb]
  rfl

theorem nextKey_comma (hb : Blank blanks) :
    nextKey first (comma first ++ (blanks ++ some '"' :: rest)) = .ok (some rest) := by
  have hskip : skipBlanks (blanks ++ some '"' :: rest) = some '"' :: rest := by
    rw [skipBlanks_append hb, skipBlanks_cons rfl]
  have hcomma : skipBlanks (some ',' :: (blanks ++ some '"' :: rest)) = some ',' :: (blanks ++ some '"' :: rest) :=
    skipBlanks_cons rfl
  cases first
  · simp [nextKey, hcomma, hskip]
  · simp [nextKey, hskip]

/-! ### Lists -/

theorem head_list : Source.head (some '[' :: rest) = .ok (.list, rest) := rfl

theorem head_object : Source.head (some '\x7b' :: rest) = .ok (.object, rest) := rfl

theorem descend_of_lt {d : Nat} (h : d + 1 < depth) : ∃ inner, descend depth = .ok inner ∧ d < inner := by
  obtain ⟨inner, rfl⟩ := Nat.exists_eq_add_of_le' (show 2 ≤ depth by omega)
  exact ⟨inner + 1, rfl, by omega⟩

theorem length_le_laidItems (level : Nat) (first : Bool) {items : List JsonTree}
    (h : ∀ t ∈ items, ∀ level, Opens (laid g level t)) : items.length ≤ (laidItems g level first items).length := by
  induction items generalizing first with
  | nil => simp
  | cons t items ih =>
    have hpos := (h t List.mem_cons_self (level + 1)).length_pos
    have hmore := ih false fun t ht => h t (List.mem_cons_of_mem _ ht)
    simp only [laidItems, List.length_append, List.length_cons]
    omega

theorem itemsOf_laidItems (g : Spacing) (level : Nat) (first : Bool) (rest : Source) {item : JsonReader α}
    {tree : α → JsonTree} {as : List α} (h : ∀ a ∈ as, Takes item (tree a) a)
    (hdepth : itemsDepth (as.map tree) < depth) (hfuel : as.length < fuel) :
    ∃ closing, Blank closing ∧
      itemsOf item depth fuel first (laidItems g level first (as.map tree) ++ some ']' :: rest)
        = .ok (as, closing ++ some ']' :: rest) := by
  -- what the loop leaves is the blanks before the closing bracket, which are none when there were no items
  induction as generalizing fuel first with
  | nil =>
    obtain ⟨fuel, rfl⟩ := Nat.exists_eq_add_one_of_ne_zero (Nat.ne_of_gt hfuel)
    have hclosing : Blank (laidItems g level first []) := blank_laidItems_nil
    refine ⟨_, hclosing, ?_⟩
    rw [itemsOf, List.map_nil, nextItem_end hclosing]
    rfl
  | cons a as ih =>
    obtain ⟨fuel, rfl⟩ := Nat.exists_eq_add_one_of_ne_zero (Nat.ne_of_gt (Nat.zero_lt_of_lt hfuel))
    rw [List.map_cons, itemsDepth] at hdepth
    have ha := h a List.mem_cons_self
    obtain ⟨closing, hclosing, hmore⟩ := ih false (fun b hb => h b (List.mem_cons_of_mem _ hb)) (by omega)
      (Nat.lt_of_succ_lt_succ hfuel)
    have hread := ha.reads g (level + 1) depth [] _ blank_nil (by omega)
      (ends_laidItems g level (as.map tree) rest)
    refine ⟨closing, hclosing, ?_⟩
    simp only [List.map_cons, laidItems, List.append_assoc]
    rw [itemsOf, nextItem_comma (blank_line g _) (ha.opens g (level + 1))]
    rw [List.nil_append] at hread
    simp only [bind, Except.bind, hread, hmore]
    rfl

theorem takes_list {item : JsonReader α} {tree : α → JsonTree} {as : List α} (h : ∀ a ∈ as, Takes item (tree a) a) :
    Takes (list item) (.list (as.map tree)) as where
  opens g level := ⟨_, _, rfl, rfl, by decide⟩
  reads g level depth blanks rest hb hdepth _ := by
    obtain ⟨inner, hdescend, hinner⟩ := descend_of_lt hdepth
    have hlength : (as.map tree).length ≤ (laidItems g level true (as.map tree)).length :=
      length_le_laidItems level true fun t ht => by
        obtain ⟨a, ha, rfl⟩ := List.mem_map.mp ht
        exact (h a ha).opens g
    rw [List.length_map] at hlength
    have hfuel : as.length < (laidItems g level true (as.map tree) ++ some ']' :: rest).length + 1 := by
      simp only [List.length_append, List.length_cons]
      omega
    obtain ⟨closing, hclosing, hitems⟩ := itemsOf_laidItems g level true rest h hinner hfuel
    rw [laid_list_append, list, head_append hb, head_list]
    simp only [hdescend, bind, Except.bind, hitems, endList_end hclosing]
    rfl

/-! ### Members -/

theorem laidMembers_cons_append (k : String) (t : JsonTree) (members : List (String × JsonTree)) :
    laidMembers g level first ((k, t) :: members) ++ rest
      = comma first ++ (g.line (level + 1) ++ some '"' :: ((k.toList.flatMap escapedChar).map some
        ++ some '"' :: some ':' ::
          (g.value ++ (laid g (level + 1) t ++ (laidMembers g level false members ++ rest))))) := by
  simp [laidMembers, quotedChars]

theorem colon_cons : colon (some ':' :: rest) = .ok rest := rfl

theorem blank_value (g : Spacing) : Blank g.value := g.value_blank

theorem length_le_laidMembers (g : Spacing) (level : Nat) (first : Bool) (members : List (String × JsonTree)) :
    members.length ≤ (laidMembers g level first members).length := by
  induction members generalizing first with
  | nil => simp
  | cons m members ih =>
    have hmore := ih false
    simp only [laidMembers, List.length_append, List.length_cons]
    omega

/-! ### Records -/

variable {σ : Type} {fields : List (Field σ)} {given given' : σ} {members : List (String × JsonTree)}

/-- Members with the names of fields, each given once, bring a record from `given` on. -/
inductive Fills (fields : List (Field σ)) : σ → List (String × JsonTree) → σ → Prop
  | nil {given : σ} : Fills fields given [] given
  | cons {given given' : σ} {k : String} {t : JsonTree} {members : List (String × JsonTree)} {γ : Type}
      {isGiven : σ → Bool} {read : JsonReader γ} {put : γ → σ → σ} {c : γ} :
      (fields.find? fun f => f.name == k) = some ⟨k, isGiven, map put read⟩ → isGiven given = false →
      Takes read t c → Fills fields (put c given) members given' → Fills fields given ((k, t) :: members) given'

theorem members_laidMembers (g : Spacing) (level : Nat) (first : Bool) (rest : Source)
    (h : Fills fields given members given') (hdepth : membersDepth members < depth) (hfuel : members.length < fuel) :
    ∃ closing, Blank closing ∧
      JsonReader.members fields depth fuel first given (laidMembers g level first members ++ some '\x7d' :: rest)
        = .ok (given', closing ++ some '\x7d' :: rest) := by
  induction h generalizing fuel first with
  | nil =>
    obtain ⟨fuel, rfl⟩ := Nat.exists_eq_add_one_of_ne_zero (Nat.ne_of_gt hfuel)
    have hclosing : Blank (laidMembers g level first []) := blank_laidMembers_nil
    refine ⟨_, hclosing, ?_⟩
    rw [JsonReader.members, nextKey_end hclosing]
    rfl
  | @cons given given' k t members γ isGiven read put c hfind hgiven hread _ ih =>
    obtain ⟨fuel, rfl⟩ := Nat.exists_eq_add_one_of_ne_zero (Nat.ne_of_gt (Nat.zero_lt_of_lt hfuel))
    rw [membersDepth] at hdepth
    obtain ⟨closing, hclosing, hmore⟩ := ih false (by omega) (Nat.lt_of_succ_lt_succ hfuel)
    have hvalue := (hread.map (f := put)).reads g (level + 1) depth _ _ (blank_value g) (by omega)
      (ends_laidMembers g level members rest)
    refine ⟨closing, hclosing, ?_⟩
    rw [laidMembers_cons_append, JsonReader.members, nextKey_comma (blank_line g _)]
    simp only [bind, Except.bind, quoted_flatMap, hfind, hgiven, colon_cons, hvalue, hmore]
    rfl

theorem takes_record {r : Record σ α} (h : Fills r.fields r.start members given) (hbuild : r.build given = .ok a) :
    Takes (record r) (.object members) a where
  opens g level := ⟨_, _, rfl, rfl, by decide⟩
  reads g level depth blanks rest hb hdepth _ := by
    obtain ⟨inner, hdescend, hinner⟩ := descend_of_lt hdepth
    have hfuel : members.length < (laidMembers g level true members ++ some '\x7d' :: rest).length + 1 := by
      have hlength := length_le_laidMembers g level true members
      simp only [List.length_append, List.length_cons]
      omega
    obtain ⟨closing, hclosing, hmembers⟩ := members_laidMembers g level true rest h hinner hfuel
    rw [laid_object_append, record, head_append hb, head_object]
    simp only [hdescend, bind, Except.bind, hmembers, hbuild, endObject_end hclosing]
    rfl

/-! ### Variants -/

variable {variants : List (Variant α)} {v : Variant α}

theorem takes_bare (hfind : findVariant variants v.name = .ok v) (hbare : v.bare = .ok a) :
    Takes (variant variants) (.text v.name) a where
  opens := opens_laid (.text v.name)
  reads g level depth blanks rest hb _ _ := by
    rw [laid, map_quotedChars, variant, skipBlanks_append hb, skipBlanks_cons rfl]
    simp only [quoted_flatMap, bind, Except.bind, hfind, hbare]
    rfl

theorem takes_variantName (name : String) : Takes variantName (.text name) name := takes_scalar (.text name) rfl

theorem takes_variant (hfind : findVariant variants v.name = .ok v) (ht : Takes v.read t a) :
    Takes (variant variants) (.object [(v.name, t)]) a where
  opens g level := ⟨_, _, rfl, rfl, by decide⟩
  reads g level depth blanks rest hb hdepth _ := by
    obtain ⟨inner, hdescend, hinner⟩ := descend_of_lt hdepth
    have hclosing : Blank (laidMembers g level false []) := blank_laidMembers_nil
    have hvalue := ht.reads g (level + 1) inner g.value (laidMembers g level false [] ++ some '\x7d' :: rest)
      (blank_value g) (by rw [membersDepth] at hinner; omega) (ends_laidMembers g level [] rest)
    -- the name of a variant is a value like others, and one level further in
    have hname := (takes_variantName v.name).reads g 0 inner (g.line (level + 1))
      (some ':' :: (g.value ++ (laid g (level + 1) t ++ (laidMembers g level false [] ++ some '\x7d' :: rest))))
      (blank_line g _) (by rw [JsonTree.depth]; omega) (ends_cons (by simp))
    rw [laid, map_quotedChars] at hname
    rw [laid_object_append, laidMembers_cons_append, variant, skipBlanks_append hb, skipBlanks_cons rfl]
    simp only [comma_first, List.nil_append, hdescend, bind, Except.bind, hname, hfind, colon_cons, hvalue,
      skipBlanks_append hclosing]
    rfl

/-! ### Whole texts -/

theorem run_laid (h : Takes read t a) (hdepth : t.depth < depthLimit) : run read (laid g level t) = .ok a := by
  have hread := h.reads g level depthLimit [] [] blank_nil hdepth ends_nil
  rw [List.nil_append, List.append_nil] at hread
  simp only [run, hread, bind, Except.bind]
  rfl

theorem Takes.compact (h : Takes read t a) (hdepth : t.depth < depthLimit) : run read (ofText t.compact) = .ok a := by
  rw [ofText_compact, run_laid h hdepth]

theorem Takes.onLines (h : Takes read t a) (hdepth : t.depth < depthLimit) : run read (ofText t.onLines) = .ok a := by
  rw [ofText_onLines, run_laid h hdepth]

end JsonReader

end ScriptBridge
