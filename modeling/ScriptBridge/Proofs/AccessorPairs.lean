import ScriptBridge.Proofs.MemberEntries

/-!
Getters and setters in pairs.

A list of routes is read once, and every getter and setter goes into the pair of its name, over what the pair had
before.  What comes out is said by positions in the whole list, methods and empty entries counted:

    the pairs    in the order of the first accessor of their names
    their sides  the last getter and the last setter of the name

Design.  `foldl_enter` has the sides.  For the order the list is taken from its end: a route at the end is the first of
its name just when no pair has the name yet, and then it comes after all that are first of theirs.
-/
namespace ScriptBridge

/-- What a route is found by: its name, and whether it is of the class itself. -/
def MemberRoute.key (r : MemberRoute) : String × Bool := (r.name, r.isStatic)

/-- The route is a getter or a setter under this key. -/
def MemberRoute.Accesses (r : MemberRoute) (key : String × Bool) : Prop := r.kind ≠ .method ∧ r.key = key

namespace AccessorPair

def key (p : AccessorPair) : String × Bool := (p.name, p.isStatic)

variable {routes : List (Option MemberRoute)} {k : String × Bool} {n : Nat}

/-! ### Positions -/

/-- An accessor with this key stands somewhere. -/
def Occurs (routes : List (Option MemberRoute)) (k : String × Bool) : Prop :=
  ∃ (n : Nat) (r : MemberRoute), routes[n]? = some (some r) ∧ r.Accesses k

/-- The first accessor with this key stands here. -/
def FirstAt (routes : List (Option MemberRoute)) (k : String × Bool) (n : Nat) : Prop :=
  (∃ r, routes[n]? = some (some r) ∧ r.Accesses k) ∧
    ∀ m r, routes[m]? = some (some r) → r.Accesses k → n ≤ m

/-- The last route that is just this one stands here. -/
def LastAt (routes : List (Option MemberRoute)) (r : MemberRoute) (n : Nat) : Prop :=
  routes[n]? = some (some r) ∧ ∀ m : Nat, routes[m]? = some (some r) → m ≤ n

theorem FirstAt.append (h : FirstAt routes k n) (x : Option MemberRoute) : FirstAt (routes ++ [x]) k n := by
  obtain ⟨⟨r, hn, hr⟩, hleast⟩ := h
  have hlt : n < routes.length := (List.getElem?_eq_some_iff.mp hn).1
  refine ⟨⟨r, by rw [List.getElem?_append_left hlt, hn], hr⟩, fun m r' hm hr' => ?_⟩
  rcases Nat.lt_or_ge m routes.length with hlt' | hge
  · rw [List.getElem?_append_left hlt'] at hm
    exact hleast m r' hm hr'
  · omega

theorem FirstAt.last {r : MemberRoute} (hr : r.Accesses k) (hnone : ¬ Occurs routes k) :
    FirstAt (routes ++ [some r]) k routes.length := by
  refine ⟨⟨r, by simp, hr⟩, fun m r' hm hr' => ?_⟩
  by_contra hlt
  rw [List.getElem?_append_left (by omega)] at hm
  exact hnone ⟨m, r', hm, hr'⟩

theorem FirstAt.lt_length (h : FirstAt routes k n) : n < routes.length := by
  obtain ⟨⟨r, hn, -⟩, -⟩ := h
  exact (List.getElem?_eq_some_iff.mp hn).1

theorem occurs_append {x : Option MemberRoute} :
    Occurs (routes ++ [x]) k ↔ Occurs routes k ∨ ∃ r, x = some r ∧ r.Accesses k := by
  constructor
  · rintro ⟨n, r, hn, hr⟩
    rcases Nat.lt_or_ge n routes.length with hlt | hge
    · rw [List.getElem?_append_left hlt] at hn
      exact .inl ⟨n, r, hn, hr⟩
    · rw [List.getElem?_append_right hge] at hn
      have hx := List.mem_singleton.mp (List.mem_of_getElem? hn)
      exact .inr ⟨r, hx.symm, hr⟩
  · rintro (⟨n, r, hn, hr⟩ | ⟨r, rfl, hr⟩)
    · have hlt := (List.getElem?_eq_some_iff.mp hn).1
      exact ⟨n, r, by rw [List.getElem?_append_left hlt, hn], hr⟩
    · exact ⟨routes.length, r, by simp, hr⟩

theorem lastOf_iff {r : MemberRoute} : lastOf r none routes.zipIdx = some n ↔ LastAt routes r n := by
  rw [lastOf_zipIdx]
  constructor
  · rintro (⟨i, rfl, hi, hlater⟩ | ⟨hnone, -⟩)
    · rw [Nat.zero_add]
      exact ⟨hi, fun m hm => Nat.le_of_not_lt fun hlt => hlater m hlt hm⟩
    · cases hnone
  · rintro ⟨hn, hlast⟩
    exact .inl ⟨n, (Nat.zero_add n).symm, hn, fun m hlt hm => Nat.not_le_of_lt hlt (hlast m hm)⟩

theorem lastOf_eq_none_iff {r : MemberRoute} :
    lastOf r none routes.zipIdx = none ↔ ∀ n : Nat, routes[n]? ≠ some (some r) := by
  constructor
  · intro h n hn
    -- among finitely many positions there is a last one
    have hbound : ∀ m : Nat, routes[m]? = some (some r) → m ≤ routes.length := fun m hm =>
      (List.getElem?_eq_some_iff.mp hm).1.le
    have hlast : LastAt routes r (Nat.findGreatest (fun m => routes[m]? = some (some r)) routes.length) :=
      ⟨Nat.findGreatest_spec (P := fun m => routes[m]? = some (some r)) (hbound n hn) hn,
        fun m hm => Nat.le_findGreatest (hbound m hm) hm⟩
    rw [← lastOf_iff, h] at hlast
    cases hlast
  · intro h
    cases hlast : lastOf r none routes.zipIdx with
    | none => rfl
    | some n => exact absurd (lastOf_iff.mp hlast).1 (h n)

/-! ### One more route -/

theorem ofRoutes_concat_none : ofRoutes (routes ++ [none]) = ofRoutes routes := by
  rw [ofRoutes, List.zipIdx_append, List.foldl_append]
  rfl

theorem ofRoutes_concat_some (r : MemberRoute) : ofRoutes (routes ++ [some r])
    = if r.kind == .method then ofRoutes routes else enter r routes.length (ofRoutes routes) := by
  rw [ofRoutes, List.zipIdx_append, List.foldl_append]
  simp only [List.zipIdx_singleton, List.foldl_cons, List.foldl_nil, Nat.zero_add]
  rfl

theorem key_assign (p : AccessorPair) (kind : MemberKind) (n : Nat) : (p.assign kind n).key = p.key := by
  cases kind <;> rfl

theorem isFor_iff_key {p : AccessorPair} {r : MemberRoute} : p.isFor r = true ↔ p.key = r.key := by
  rw [isFor_iff, key, MemberRoute.key, Prod.mk.injEq]

/-- An accessor is entered in the pair of its key, or behind all pairs. -/
theorem keys_enter (r : MemberRoute) (n : Nat) (pairs : List AccessorPair) :
    (enter r n pairs).map key = if r.key ∈ pairs.map key then pairs.map key else pairs.map key ++ [r.key] := by
  induction pairs with
  | nil => exact congrArg (fun k => [k]) (key_assign _ _ _)
  | cons p pairs ih =>
    rw [enter]
    by_cases hp : p.isFor r = true
    · have hkey := isFor_iff_key.mp hp
      rw [if_pos hp, List.map_cons, key_assign, if_pos (by simp [hkey])]
      rfl
    · have hkey : r.key ≠ p.key := fun h => hp (isFor_iff_key.mpr h.symm)
      rw [if_neg hp, List.map_cons, List.map_cons, ih]
      by_cases hmem : r.key ∈ pairs.map key
      · rw [if_pos hmem, if_pos (List.mem_cons_of_mem _ hmem)]
      · rw [if_neg hmem, if_neg (by simpa [hkey] using hmem)]
        rfl

/-- The keys of the accessors, each once, in the order in which they first come up. -/
structure Ranks (routes : List (Option MemberRoute)) (keys : List (String × Bool)) : Prop where
  covers : ∀ k, k ∈ keys ↔ Occurs routes k
  ordered : keys.Pairwise fun k l => ∃ m n, FirstAt routes k m ∧ FirstAt routes l n ∧ m < n
  found : ∀ k ∈ keys, ∃ n, FirstAt routes k n

theorem Ranks.skip {keys : List (String × Bool)} (h : Ranks routes keys) {x : Option MemberRoute}
    (hx : ∀ r k, x = some r → r.Accesses k → k ∈ keys) : Ranks (routes ++ [x]) keys where
  covers k := by
    rw [occurs_append, ← h.covers]
    exact ⟨.inl, fun hk => hk.elim id fun ⟨r, hr, hk⟩ => hx r k hr hk⟩
  ordered := h.ordered.imp fun ⟨m, n, hm, hn, hlt⟩ => ⟨m, n, hm.append x, hn.append x, hlt⟩
  found k hk := (h.found k hk).imp fun _ hn => hn.append x

theorem Ranks.enter {keys : List (String × Bool)} (h : Ranks routes keys) {r : MemberRoute}
    (hkind : r.kind ≠ .method) (hnew : r.key ∉ keys) : Ranks (routes ++ [some r]) (keys ++ [r.key]) := by
  have hfirst : FirstAt (routes ++ [some r]) r.key routes.length :=
    .last ⟨hkind, rfl⟩ fun hocc => hnew ((h.covers _).mpr hocc)
  refine ⟨fun k => ?_, List.pairwise_append.mpr ⟨?_, List.pairwise_singleton _ _, ?_⟩, fun k hk => ?_⟩
  · rw [occurs_append, ← h.covers, List.mem_append, List.mem_singleton]
    refine or_congr_right ⟨?_, ?_⟩
    · rintro rfl
      exact ⟨r, rfl, hkind, rfl⟩
    · rintro ⟨r', hr', -, hkey⟩
      cases hr'
      exact hkey.symm
  · exact h.ordered.imp fun ⟨m, n, hm, hn, hlt⟩ => ⟨m, n, hm.append _, hn.append _, hlt⟩
  · intro k hk l hl
    obtain ⟨m, hm⟩ := h.found k hk
    rw [List.mem_singleton.mp hl]
    exact ⟨m, routes.length, hm.append _, hfirst, hm.lt_length⟩
  · rcases List.mem_append.mp hk with hk | hk
    · exact (h.found k hk).imp fun _ hn => hn.append _
    · rw [List.mem_singleton.mp hk]
      exact ⟨_, hfirst⟩

theorem ranks_ofRoutes (routes : List (Option MemberRoute)) : Ranks routes ((ofRoutes routes).map key) := by
  induction routes using List.reverseRecOn with
  | nil => exact ⟨fun k => by simp [Occurs, ofRoutes], .nil, fun k hk => absurd hk List.not_mem_nil⟩
  | append_singleton routes x ih =>
    cases x with
    | none =>
      rw [ofRoutes_concat_none]
      exact ih.skip nofun
    | some r =>
      rw [ofRoutes_concat_some]
      by_cases hkind : r.kind = .method
      · rw [if_pos (beq_iff_eq.mpr hkind)]
        refine ih.skip fun r' k hr' hk => ?_
        cases hr'
        exact absurd hkind hk.1
      · rw [if_neg (fun h => hkind (beq_iff_eq.mp h)), keys_enter]
        by_cases hmem : r.key ∈ (ofRoutes routes).map key
        · rw [if_pos hmem]
          refine ih.skip fun r' k hr' hk => ?_
          cases hr'
          exact hk.2 ▸ hmem
        · rw [if_neg hmem]
          exact ih.enter hkind hmem

/-! ### The whole -/

/-- What the pairs of a list of routes are, by positions in the list. -/
structure Pairing (routes : List (Option MemberRoute)) (pairs : List AccessorPair) : Prop where
  once : (pairs.map key).Nodup
  /-- a key has a pair when some accessor has the key -/
  covers : ∀ k, k ∈ pairs.map key ↔ Occurs routes k
  ordered : (pairs.map key).Pairwise fun k l => ∃ m n, FirstAt routes k m ∧ FirstAt routes l n ∧ m < n
  getter : ∀ p ∈ pairs, ∀ n, p.getter = some n ↔ LastAt routes ⟨p.name, .getter, p.isStatic⟩ n
  setter : ∀ p ∈ pairs, ∀ n, p.setter = some n ↔ LastAt routes ⟨p.name, .setter, p.isStatic⟩ n
  /-- a side is missing when no accessor of its kind has the key -/
  no_getter : ∀ p ∈ pairs, p.getter = none ↔ ∀ n : Nat, routes[n]? ≠ some (some ⟨p.name, .getter, p.isStatic⟩)
  no_setter : ∀ p ∈ pairs, p.setter = none ↔ ∀ n : Nat, routes[n]? ≠ some (some ⟨p.name, .setter, p.isStatic⟩)
  sided : ∀ p ∈ pairs, p.getter.isSome = true ∨ p.setter.isSome = true

/-- The pair of its own name is the pair itself. -/
theorem Proper.sideOf_self {pairs : List AccessorPair} (h : Proper pairs) {p : AccessorPair} (hp : p ∈ pairs)
    (kind : MemberKind) : sideOf kind p.isStatic p.name pairs = p.side kind := by
  induction pairs with
  | nil => cases hp
  | cons q pairs ih =>
    rw [sideOf_cons]
    rcases List.mem_cons.mp hp with rfl | hp
    · rw [if_pos ⟨rfl, rfl⟩]
    · rw [if_neg fun ⟨hs, hn⟩ => List.rel_of_pairwise_cons h.once hp hs hn, ih h.tail hp]

/-- A side of a pair is the last position of its kind under the pair's key. -/
theorem side_ofRoutes {p : AccessorPair} (hp : p ∈ ofRoutes routes) {k : MemberKind} (hk : k ≠ .method) :
    p.side k = lastOf ⟨p.name, k, p.isStatic⟩ none routes.zipIdx := by
  obtain ⟨hproper, hsides⟩ := foldl_enter hk routes.zipIdx Proper.nil
  rw [← hproper.sideOf_self hp k]
  exact hsides p.isStatic p.name

theorem getElem?_routes {d : ClassDescriptor} {r : MemberRoute} (h : d.routes[n]? = some (some r)) :
    ∃ m, d.members[n]? = some m ∧ m.name = r.name ∧ m.flags.kind? = some r.kind ∧ m.flags.isStatic = r.isStatic := by
  rw [ClassDescriptor.routes, List.getElem?_map] at h
  obtain ⟨m, hm, hroute⟩ := Option.map_eq_some_iff.mp h
  obtain ⟨kind, hkind, hr⟩ := Option.map_eq_some_iff.mp hroute
  subst hr
  exact ⟨m, hm, rfl, hkind, rfl⟩

/-- **Accessors are paired exactly.**  Each key of an accessor has one pair, in the order of first accessors; a
pair's sides are the positions of the last getter and the last setter of its key in the whole list; and for the
routes of a class descriptor, that is where the member stands in the descriptor. -/
theorem routes_paired (routes : List (Option MemberRoute)) :
    Pairing routes (ofRoutes routes) ∧
      ∀ (d : ClassDescriptor), ∀ p ∈ ofRoutes d.routes, ∀ kind n, p.side kind = some n →
        ∃ m, d.members[n]? = some m ∧ m.name = p.name ∧ m.flags.kind? = some kind ∧
          m.flags.isStatic = p.isStatic := by
  have hranks := ranks_ofRoutes routes
  have hproper : Proper (ofRoutes routes) := (foldl_enter (k := .getter) nofun routes.zipIdx Proper.nil).1
  refine ⟨?_, fun d p hp kind n hside => ?_⟩
  · constructor
    case once =>
      refine List.pairwise_map.mpr (hproper.once.imp fun h hkey => ?_)
      obtain ⟨hname, hstatic⟩ := Prod.mk.inj hkey
      exact h hstatic hname
    case covers => exact hranks.covers
    case ordered => exact hranks.ordered
    case getter =>
      intro p hp n
      rw [← lastOf_iff, ← side_ofRoutes (k := .getter) hp nofun]
      rfl
    case setter =>
      intro p hp n
      rw [← lastOf_iff, ← side_ofRoutes (k := .setter) hp nofun]
      rfl
    case no_getter =>
      intro p hp
      rw [← lastOf_eq_none_iff, ← side_ofRoutes (k := .getter) hp nofun]
      rfl
    case no_setter =>
      intro p hp
      rw [← lastOf_eq_none_iff, ← side_ofRoutes (k := .setter) hp nofun]
      rfl
    case sided => exact hproper.sided
  · have hkind : kind ≠ .method := by
      rintro rfl
      cases hside
    rw [side_ofRoutes hp hkind, lastOf_iff] at hside
    exact getElem?_routes hside.1

/-- A class whose name `x` comes up six times. -/
def repeating : ClassDescriptor :=
  ⟨"P", [⟨"x", .getter⟩, ⟨"x", .function⟩, ⟨"P", .constructor⟩, ⟨"x", .union .setter .static⟩, ⟨"x", .getter⟩,
    ⟨"x", .union .getter .static⟩, ⟨"x", .union .setter .static⟩]⟩

/-- Later getters and setters count, under their places in the whole list. -/
theorem routes_paired_repeating :
    ofRoutes repeating.routes = [⟨"x", false, some 4, none⟩, ⟨"x", true, some 5, some 6⟩] ∧
      Pairing repeating.routes [⟨"x", false, some 4, none⟩, ⟨"x", true, some 5, some 6⟩] ∧
      ∃ m, repeating.members[6]? = some m ∧ m.name = "x" ∧ m.flags.kind? = some .setter ∧
        m.flags.isStatic = true := by
  have hpairs : ofRoutes repeating.routes = [⟨"x", false, some 4, none⟩, ⟨"x", true, some 5, some 6⟩] := by
    decide
  obtain ⟨hpairing, hmembers⟩ := routes_paired repeating.routes
  refine ⟨hpairs, hpairs ▸ hpairing, hmembers repeating ⟨"x", true, some 5, some 6⟩ ?_ .setter 6 rfl⟩
  rw [hpairs]
  exact List.mem_cons_of_mem _ List.mem_cons_self

end AccessorPair

end ScriptBridge
