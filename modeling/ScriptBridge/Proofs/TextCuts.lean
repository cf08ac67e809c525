import Mathlib.Data.List.DropRight
import ScriptBridge.Text.Cut

/-!
Texts and their separators.

Where a text is cut at the last separator, the cut is the only one whose second half has no separator
(`cutLast?_eq_some_iff`).  Cut at every separator, its parts have none, and put together again they are the text; what
stands here besides is how a list of parts is put together when one more part comes.
-/
namespace ScriptBridge.Text

variable {sep c : Char} {text before after part : List Char} {parts : List (List Char)}

/-! ### The last separator -/

@[simp] theorem cutLast?_eq_none_iff : cutLast? sep text = none ↔ sep ∉ text := by
  induction text with
  | nil => simp [cutLast?]
  | cons c text ih =>
    rw [cutLast?, List.mem_cons, not_or, ← ih]
    rcases cutLast? sep text with - | ⟨before, after⟩
    · by_cases hc : c = sep
      · simp [hc]
      · simp [hc, Ne.symm hc]
    · simp

theorem cutLast?_append (h : sep ∉ after) : cutLast? sep (before ++ sep :: after) = some (before, after) := by
  induction before with
  | nil => simp [cutLast?, cutLast?_eq_none_iff.mpr h]
  | cons c before ih => simp [cutLast?, ih]

theorem cutLast?_eq_some_iff :
    cutLast? sep text = some (before, after) ↔ text = before ++ sep :: after ∧ sep ∉ after := by
  refine ⟨fun h => ?_, fun ⟨htext, hafter⟩ => htext ▸ cutLast?_append hafter⟩
  induction text generalizing before with
  | nil => cases h
  | cons c text ih =>
    rw [cutLast?] at h
    rcases hcut : cutLast? sep text with - | ⟨before', after'⟩ <;> simp only [hcut] at h
    · by_cases hc : c = sep
      · rw [if_pos (beq_iff_eq.mpr hc)] at h
        cases h
        exact ⟨by rw [hc, List.nil_append], cutLast?_eq_none_iff.mp hcut⟩
      · rw [if_neg (by simpa using hc)] at h
        cases h
    · cases h
      obtain ⟨htext, hafter⟩ := ih hcut
      exact ⟨by rw [htext, List.cons_append], hafter⟩

/-! ### The end of a text -/

theorem dropTrailing_eq_rdropWhile : dropTrailing c text = text.rdropWhile (· == c) := rfl

/-- Only `c`s are dropped. -/
theorem exists_dropTrailing_append (c : Char) (text : List Char) :
    ∃ n, text = dropTrailing c text ++ List.replicate n c := by
  refine ⟨(text.rtakeWhile (· == c)).length, ?_⟩
  have hsame : text.rtakeWhile (· == c) = List.replicate (text.rtakeWhile (· == c)).length c :=
    List.eq_replicate_of_mem fun d hd => by simpa using List.mem_rtakeWhile_imp hd
  rw [← hsame, dropTrailing_eq_rdropWhile, List.rdropWhile_append_rtakeWhile]

/-- All of them are. -/
theorem dropTrailing_getLast?_ne (c : Char) (text : List Char) : (dropTrailing c text).getLast? ≠ some c := by
  intro h
  have hne : dropTrailing c text ≠ [] := by
    rintro hnil
    rw [hnil] at h
    cases h
  rw [List.getLast?_eq_some_getLast hne] at h
  exact List.rdropWhile_last_not (· == c) text hne (by simpa [dropTrailing_eq_rdropWhile] using h)

theorem dropTrailing_eq_self (h : text.getLast? ≠ some c) : dropTrailing c text = text :=
  List.rdropWhile_eq_self_iff.mpr fun hne hlast =>
    h (by rw [List.getLast?_eq_some_getLast hne, beq_iff_eq.mp hlast])

/-! ### Every separator -/

theorem not_mem_of_mem_splitOn (h : part ∈ text.splitOn sep) : sep ∉ part := by
  induction text generalizing part with
  | nil =>
    rw [List.splitOn_nil, List.mem_singleton] at h
    simp [h]
  | cons c text ih =>
    rw [List.splitOn_cons_eq_if_modifyHead] at h
    split at h
    · rcases List.mem_cons.mp h with rfl | h
      · simp
      · exact ih h
    · rename_i hc
      rcases htext : text.splitOn sep with - | ⟨head, parts⟩ <;> rw [htext] at h ih
      · cases h
      · rcases List.mem_cons.mp h with rfl | h
        · have := ih List.mem_cons_self
          simpa [this] using Ne.symm (by simpa using hc)
        · exact ih (List.mem_cons_of_mem head h)

/-- Every part but the last has a separator after it. -/
theorem intercalate_concat_eq_flatMap :
    [sep].intercalate (parts ++ [part]) = parts.flatMap (· ++ [sep]) ++ part := by
  induction parts with
  | nil => simp
  | cons head parts ih =>
    rw [List.flatMap_cons, List.append_assoc, ← ih]
    cases parts <;> simp [List.intercalate_cons_cons]

/-- With a separator after each part, there is one more than between them. -/
theorem flatMap_append_sep (hne : parts ≠ []) :
    parts.flatMap (· ++ [sep]) = [sep].intercalate parts ++ [sep] := by
  rw [← List.dropLast_append_getLast hne, intercalate_concat_eq_flatMap]
  simp

/-- One more part comes after one more separator. -/
theorem intercalate_concat (hne : parts ≠ []) :
    [sep].intercalate (parts ++ [part]) = [sep].intercalate parts ++ sep :: part := by
  rw [intercalate_concat_eq_flatMap, flatMap_append_sep hne, List.append_assoc, List.singleton_append]

end ScriptBridge.Text
