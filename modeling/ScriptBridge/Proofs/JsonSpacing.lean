import ScriptBridge.Json.Printer
import ScriptBridge.Json.Source

/-!
Trees as text in any spacing.

The two ways of writing a tree differ in blanks alone.  A `Spacing` says which blanks stand before an item of a level,
before the bracket that closes it, and before the value of a member, and `laid` is the text of a tree with these
blanks.  The text without blanks is one case of it (`laid_compact`), the text on lines another (`laid_onLines`), so
what a reader makes of a text needs to be said once, for all spacings.
-/
namespace ScriptBridge.JsonTree

open Source

/-- Where a text has blanks, and how many. -/
structure Spacing where
  /-- before an item at a level of nesting, and before the bracket that goes back to the level -/
  line : Nat → Source
  /-- before the value of a member -/
  value : Source
  line_blank : ∀ level, ∀ p ∈ line level, isBlank p
  value_blank : ∀ p ∈ value, isBlank p

/-- No blanks. -/
def Spacing.compact : Spacing where
  line _ := []
  value := []
  line_blank := by simp
  value_blank := by simp

/-- Each item on a line of its own. -/
def Spacing.onLines : Spacing where
  line level := (newLine level).map some
  value := [some ' ']
  line_blank level p hp := by
    simp only [newLine, List.map_cons, List.map_replicate, List.mem_cons, List.mem_replicate] at hp
    rcases hp with rfl | ⟨-, rfl⟩ <;> rfl
  value_blank := by simp [isBlank]

/-- What stands between an item and the one before it. -/
def comma (first : Bool) : Source := if first then [] else [some ',']

mutual

/-- The text of a tree that stands at a level of nesting. -/
def laid (g : Spacing) (level : Nat) : JsonTree → Source
  | .null => ['n', 'u', 'l', 'l'].map some
  | .bool b => (boolChars b).map some
  | .number n => n.chars.map some
  | .text s => (quotedChars s.toList).map some
  | .list items => some '[' :: laidItems g level true items ++ [some ']']
  | .object members => some '\x7b' :: laidMembers g level true members ++ [some '\x7d']

/-- Items with the blanks before the closing bracket. -/
def laidItems (g : Spacing) (level : Nat) (first : Bool) : List JsonTree → Source
  | [] => if first then [] else g.line level
  | t :: rest => comma first ++ g.line (level + 1) ++ laid g (level + 1) t ++ laidItems g level false rest

/-- Members with the blanks before the closing bracket. -/
def laidMembers (g : Spacing) (level : Nat) (first : Bool) : List (String × JsonTree) → Source
  | [] => if first then [] else g.line level
  | (k, t) :: rest =>
    comma first ++ g.line (level + 1) ++ (quotedChars k.toList).map some ++ some ':' :: g.value
      ++ laid g (level + 1) t ++ laidMembers g level false rest

end

variable (g : Spacing) (level : Nat) (rest : Source)

theorem laid_list_append (items : List JsonTree) :
    laid g level (.list items) ++ rest = some '[' :: (laidItems g level true items ++ some ']' :: rest) := by
  simp [laid]

theorem laid_object_append (members : List (String × JsonTree)) :
    laid g level (.object members) ++ rest
      = some '\x7b' :: (laidMembers g level true members ++ some '\x7d' :: rest) := by
  simp [laid]

@[simp] theorem comma_first : comma true = [] := rfl

@[simp] theorem comma_later : comma false = [some ','] := rfl

@[simp] theorem line_compact : Spacing.compact.line level = [] := rfl

@[simp] theorem value_compact : Spacing.compact.value = [] := rfl

@[simp] theorem line_onLines : Spacing.onLines.line level = (newLine level).map some := rfl

@[simp] theorem value_onLines : Spacing.onLines.value = [some ' '] := rfl

/-! ### The text without blanks -/

mutual

theorem laid_compact (level : Nat) : ∀ t : JsonTree, laid .compact level t = t.chars.map some
  | .null | .bool _ | .number _ | .text _ => rfl
  | .list [] | .object [] => rfl
  | .list (t :: rest) => by
    simp [laid, laidItems, chars, itemChars, laid_compact (level + 1) t, laidItems_compact level rest]
  | .object ((k, t) :: rest) => by
    simp [laid, laidMembers, chars, memberChars, laid_compact (level + 1) t, laidMembers_compact level rest]

theorem laidItems_compact (level : Nat) :
    ∀ items : List JsonTree, laidItems .compact level false items = (moreItemChars items).map some
  | [] => rfl
  | t :: rest => by
    simp [laidItems, moreItemChars, laid_compact (level + 1) t, laidItems_compact level rest]

theorem laidMembers_compact (level : Nat) :
    ∀ members : List (String × JsonTree),
      laidMembers .compact level false members = (moreMemberChars members).map some
  | [] => rfl
  | (k, t) :: rest => by
    simp [laidMembers, moreMemberChars, laid_compact (level + 1) t, laidMembers_compact level rest]

end

theorem ofText_compact (t : JsonTree) : ofText t.compact = laid .compact 0 t := by
  rw [laid_compact, ofText, compact, String.toList_ofList]

/-! ### The text on lines -/

mutual

theorem laid_onLines (level : Nat) : ∀ t : JsonTree, laid .onLines level t = (lineChars level t).map some
  | .null | .bool _ | .number _ | .text _ => rfl
  | .list [] | .object [] => rfl
  | .list (t :: rest) => by
    simp [laid, laidItems, lineChars, laid_onLines (level + 1) t, laidItems_onLines level rest]
  | .object ((k, t) :: rest) => by
    simp [laid, laidMembers, lineChars, laid_onLines (level + 1) t, laidMembers_onLines level rest]

theorem laidItems_onLines (level : Nat) :
    ∀ items : List JsonTree,
      laidItems .onLines level false items = (moreItemLines (level + 1) items ++ newLine level).map some
  | [] => rfl
  | t :: rest => by
    simp [laidItems, moreItemLines, laid_onLines (level + 1) t, laidItems_onLines level rest]

theorem laidMembers_onLines (level : Nat) :
    ∀ members : List (String × JsonTree),
      laidMembers .onLines level false members = (moreMemberLines (level + 1) members ++ newLine level).map some
  | [] => rfl
  | (k, t) :: rest => by
    simp [laidMembers, moreMemberLines, laid_onLines (level + 1) t, laidMembers_onLines level rest]

end

theorem ofText_onLines (t : JsonTree) : ofText t.onLines = laid .onLines 0 t := by
  rw [laid_onLines, ofText, onLines, String.toList_ofList]

end ScriptBridge.JsonTree
