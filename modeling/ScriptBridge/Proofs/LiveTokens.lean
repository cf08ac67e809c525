import Mathlib.Data.List.Perm.Subperm
import ScriptBridge.Proofs.Deaths
import ScriptBridge.Proofs.NatMapEntries

/-!
How many objects still have a death to be told of.

    tokens that a sweep finds  +  tokens that are live after it   ≤   tokens that were live before

Design.  Carriers are not counted: `AtMost` bounds every list of different nodes that carry tokens, so
taking a node away or putting one in its place is a matter of lists (`AtMost.closed`), and a sweep is a
row of such steps.
-/
namespace ScriptBridge.Script.Engine

open Data

variable {e e' : Engine} {nodes : NatMap Node} {found k : Nat}

/-- The tokens of the objects on the heap, one for each object that carries one. -/
def liveTokens (e : Engine) : List UInt64 := e.nodes.entries.filterMap fun n => Node.token? n.2

/-- However nodes that carry tokens are listed, with `found` more they are no more than `k`. -/
def AtMost (nodes : NatMap Node) (found k : Nat) : Prop :=
  ∀ l : List NodeId, l.Nodup → (∀ n ∈ l, ∃ t, NodeCarries nodes n t) → l.length + found ≤ k

/-- The nodes that carry tokens, in the order of the heap. -/
def carriers (nodes : NatMap Node) : List NodeId :=
  (nodes.entries.filter fun n => (Node.token? n.2).isSome).map Prod.fst

theorem mem_carriers {n : NodeId} : n ∈ carriers nodes ↔ ∃ t, NodeCarries nodes n t := by
  simp only [carriers, List.mem_map, List.mem_filter, NatMap.mem_entries, NodeCarries]
  constructor
  · rintro ⟨⟨m, node⟩, ⟨hnode, hsome⟩, rfl⟩
    obtain ⟨t, ht⟩ := Option.isSome_iff_exists.mp hsome
    exact ⟨t, node, hnode, ht⟩
  · rintro ⟨t, node, hnode, ht⟩
    exact ⟨(n, node), ⟨hnode, by rw [ht]; rfl⟩, rfl⟩

theorem nodup_carriers (nodes : NatMap Node) : (carriers nodes).Nodup :=
  (NatMap.nodup_entries nodes).sublist (List.filter_sublist.map Prod.fst)

theorem length_carriers (e : Engine) : (carriers e.nodes).length = e.liveTokens.length := by
  rw [carriers, List.length_map, liveTokens, List.length_filterMap_eq_countP, List.countP_eq_length_filter]

theorem atMost_liveTokens (e : Engine) : AtMost e.nodes 0 e.liveTokens.length := by
  intro l hl hcarry
  rw [← length_carriers]
  exact (List.subperm_of_subset hl fun n hn => mem_carriers.mpr (hcarry n hn)).length_le

theorem AtMost.liveTokens_le (h : AtMost e.nodes found k) : e.liveTokens.length + found ≤ k := by
  rw [← length_carriers]
  exact h _ (nodup_carriers _) fun n hn => mem_carriers.mp hn

theorem Harmless.liveTokens_le (h : Harmless e e') : e'.liveTokens.length ≤ e.liveTokens.length := by
  have hbound : AtMost e'.nodes 0 e.liveTokens.length := fun l hl hcarry =>
    atMost_liveTokens e l hl fun n hn => by
      obtain ⟨t, ht⟩ := hcarry n hn
      exact ⟨t, carries_made.mp (h.carries (carries_made.mpr ht))⟩
  exact hbound.liveTokens_le

theorem AtMost.closed (k : Nat) : Sweep.Closed fun nodes tokens => AtMost nodes tokens.length k where
  bury := by
    intro nodes tokens n node h hn l hl hcarry
    have kept : ∀ m ∈ l, m ≠ n ∧ ∃ t, NodeCarries nodes m t := by
      intro m hm
      obtain ⟨t, other, hget, ht⟩ := hcarry m hm
      rw [NatMap.get?_erase] at hget
      split at hget
      · cases hget
      · exact ⟨‹_›, t, other, hget, ht⟩
    rcases ht : Node.token? node with - | t
    · exact h l hl fun m hm => (kept m hm).2
    · -- with the node that goes, the list was one longer before
      have hlonger := h (n :: l) (List.nodup_cons.mpr ⟨fun hm => (kept n hm).1 rfl, hl⟩)
        (List.forall_mem_cons.mpr ⟨⟨t, node, hn, ht⟩, fun m hm => (kept m hm).2⟩)
      simp only [List.length_cons, Option.toList_some, List.cons_append, List.nil_append] at hlonger ⊢
      omega
  replace := by
    intro nodes tokens n old node h _ _ hnode l hl hcarry
    refine h l hl fun m hm => ?_
    obtain ⟨t, other, hget, ht⟩ := hcarry m hm
    rw [NatMap.get?_insert] at hget
    split at hget
    · cases hget
      rw [token?_of_host? hnode] at ht
      cases ht
    · exact ⟨t, other, hget, ht⟩

/-- **Each token that a sweep finds is live no more.** -/
theorem liveTokens_release (e : Engine) (held : List NodeId) :
    (e.release held).1.liveTokens.length + (e.release held).2.length ≤ e.liveTokens.length :=
  AtMost.liveTokens_le ((AtMost.closed _).finish _ _ (atMost_liveTokens e))

end ScriptBridge.Script.Engine
