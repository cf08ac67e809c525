import ScriptBridge.Module.Specifier
import ScriptBridge.Proofs.TextCuts

/-!
Relative specifiers as walks on a stack of segments.

The name of a module is text, and a relative specifier is resolved by editing that text in place.  What the editing
amounts to is a walk: the directory of the module that asks is a stack of segments, and the specifier's segments are
read in order, nothing and a dot standing still, two dots popping, anything else being pushed:

    normalize base name = lead base ++ join (follow dirs name)

The one thing the text cannot say is whether the walk began at the root.  Two dots that empty the stack take the leading
slash away too, and it is put back at the end, so while the segments are read the slash may or may not be there
(`Spells`).  The name that comes out has a directory of the same kind, so the description goes on along every chain of
relative imports (`relative_imports`).
-/
namespace ScriptBridge.Specifier

open Text

variable {base name : String} {dirs stack : List (List Char)} {seg path dir : List Char}

/-! ### Stacks -/

/-- A segment that stands for a directory or a file. -/
structure Proper (seg : List Char) : Prop where
  ne_nil : seg ≠ []
  no_slash : '/' ∉ seg
  ne_dot : seg ≠ ['.']
  ne_dots : seg ≠ ['.', '.']

instance : DecidablePred Proper := fun seg =>
  decidable_of_iff (seg ≠ [] ∧ '/' ∉ seg ∧ seg ≠ ['.'] ∧ seg ≠ ['.', '.'])
    ⟨fun ⟨h, h', h'', h'''⟩ => ⟨h, h', h'', h'''⟩, fun ⟨h, h', h'', h'''⟩ => ⟨h, h', h'', h'''⟩⟩

/-- The segments with slashes between them. -/
def join (stack : List (List Char)) : List Char := ['/'].intercalate stack

/-- One segment of a specifier, read on a stack. -/
def tread (stack : List (List Char)) (seg : List Char) : List (List Char) :=
  if seg = [] ∨ seg = ['.'] then stack
  else if seg = ['.', '.'] then stack.dropLast
  else stack ++ [seg]

/-- A specifier, read on a stack. -/
def follow (stack : List (List Char)) (name : String) : List (List Char) :=
  (name.toList.splitOn '/').foldl tread stack

/-- The directory of the module that a specifier leads to. -/
def enter (dirs : List (List Char)) (name : String) : List (List Char) := (follow dirs name).dropLast

/-! ### Names of modules -/

/-- The text before the last slash, which is nothing where there is no slash. -/
def Directory (text dir : List Char) : Prop :=
  (∃ file, '/' ∉ file ∧ text = dir ++ '/' :: file) ∨ ('/' ∉ text ∧ dir = [])

/-- A name with this directory: proper segments with slashes between them, and perhaps a slash in front. -/
structure Resides (base : String) (dirs : List (List Char)) : Prop where
  proper : ∀ seg ∈ dirs, Proper seg
  directory : Directory base.toList (join dirs) ∨ Directory base.toList ('/' :: join dirs)

def Relative (name : String) : Prop := name.toList.head? = some '.'

def Absolute (name : String) : Prop := name.toList.head? = some '/'

instance : DecidablePred Relative := fun name => inferInstanceAs (Decidable (name.toList.head? = some '.'))

instance : DecidablePred Absolute := fun name => inferInstanceAs (Decidable (name.toList.head? = some '/'))

/-- What the names found from a module begin with. -/
def lead (base : String) : List Char := if Absolute base then ['/'] else []

/-- Text without an empty segment and without dots for one. -/
def Clean (text : List Char) : Prop := text = [] ∨ ∀ seg ∈ text.splitOn '/', Proper seg

/-! ### The pieces of the code -/

theorem directory_of_not_mem (h : '/' ∉ path) : directory path = [] := by
  rw [directory, cutLast?_eq_none_iff.mpr h]

theorem directory_append (h : '/' ∉ seg) : directory (path ++ '/' :: seg) = path := by
  rw [directory, cutLast?_append h]

/-- The code finds the directory of a name. -/
theorem Directory.found {text : List Char} (h : Directory text dir) : directory text = dir := by
  rcases h with ⟨file, hfile, rfl⟩ | ⟨hno, rfl⟩
  · exact directory_append hfile
  · exact directory_of_not_mem hno

theorem Proper.getLast?_ne (h : Proper seg) (path : List Char) : (path ++ seg).getLast? ≠ some '/' := by
  rw [List.getLast?_append_of_ne_nil _ h.ne_nil]
  exact fun hlast => h.no_slash (List.mem_of_getLast? hlast)

/-! ### Joined stacks -/

@[simp] theorem join_nil : join [] = [] := rfl

@[simp] theorem join_singleton : join [seg] = seg := List.intercalate_singleton

theorem join_concat (hne : stack ≠ []) : join (stack ++ [seg]) = join stack ++ '/' :: seg := intercalate_concat hne

theorem join_head (hproper : ∀ s ∈ stack, Proper s) : (join stack).head? ≠ some '/' := by
  rcases stack with - | ⟨s, stack⟩
  · simp
  · have hs := hproper s List.mem_cons_self
    rcases s with - | ⟨c, s⟩
    · exact absurd rfl hs.ne_nil
    · have hc : c ≠ '/' := fun h => hs.no_slash (h ▸ List.mem_cons_self)
      cases stack <;> simpa [join, List.intercalate_cons_cons] using hc

theorem join_clean (hproper : ∀ s ∈ stack, Proper s) : Clean (join stack) := by
  by_cases hne : stack = []
  · exact .inl (by rw [hne, join_nil])
  · refine .inr fun s hs => hproper s ?_
    rwa [join, List.splitOn_intercalate '/' (fun s hs => (hproper s hs).no_slash) hne] at hs

/-! ### Text that spells a stack -/

/-- Text that spells a stack; of an absolute name a slash may stand in front. -/
def Spells (absolute : Prop) (path : List Char) (stack : List (List Char)) : Prop :=
  path = join stack ∨ absolute ∧ path = '/' :: join stack

namespace Spells

variable {absolute : Prop} {init : List (List Char)} {last : List Char}

theorem empty : Spells absolute [] [] := .inl rfl

/-- The last segment ends the text: it is all of it, or a slash stands between it and what spells the others. -/
theorem concat (h : Spells absolute path (init ++ [last])) :
    (init = [] ∧ path = last) ∨ ∃ before, path = before ++ '/' :: last ∧ Spells absolute before init := by
  rcases eq_or_ne init [] with rfl | hinit
  · rcases h with rfl | ⟨habs, rfl⟩
    · exact .inl ⟨rfl, join_singleton⟩
    · exact .inr ⟨[], by simp, empty⟩
  · right
    rw [Spells, join_concat hinit] at h
    rcases h with rfl | ⟨habs, rfl⟩
    · exact ⟨join init, rfl, .inl rfl⟩
    · exact ⟨'/' :: join init, rfl, .inr ⟨habs, rfl⟩⟩

/-- Text that spells a proper segment does not end in a slash. -/
theorem getLast?_ne (h : Spells absolute path (init ++ [last])) (hlast : Proper last) : path.getLast? ≠ some '/' := by
  rcases h.concat with ⟨-, rfl⟩ | ⟨before, rfl, -⟩
  · exact hlast.getLast?_ne []
  · have := hlast.getLast?_ne (before ++ ['/'])
    rwa [List.append_assoc, List.singleton_append] at this

/-- Two dots cut off the last segment. -/
theorem pop (h : Spells absolute path stack) (hproper : ∀ s ∈ stack, Proper s) :
    Spells absolute (directory (dropTrailing '/' path)) stack.dropLast := by
  rcases List.eq_nil_or_concat stack with rfl | ⟨init, last, rfl⟩
  · -- at the root the slashes go, and nothing is left to cut at
    rcases h with rfl | ⟨-, rfl⟩ <;> exact empty
  · rw [List.concat_eq_append] at *
    have hlast : Proper last := hproper last (by simp)
    rw [dropTrailing_eq_self (h.getLast?_ne hlast), List.dropLast_concat]
    rcases h.concat with ⟨rfl, rfl⟩ | ⟨before, rfl, hbefore⟩
    · rw [directory_of_not_mem hlast.no_slash]
      exact empty
    · rwa [directory_append hlast.no_slash]

/-- Another segment is written after a slash, unless nothing else stands before it. -/
theorem push (h : Spells absolute path stack) (hproper : ∀ s ∈ stack, Proper s) (seg : List Char) :
    Spells absolute (if path = [] ∨ path.getLast? = some '/' then path ++ seg else path ++ '/' :: seg)
      (stack ++ [seg]) := by
  rcases List.eq_nil_or_concat stack with rfl | ⟨init, last, rfl⟩
  · rcases h with rfl | ⟨habs, rfl⟩
    · exact .inl (by simp)
    · exact .inr ⟨habs, by simp⟩
  · rw [List.concat_eq_append] at *
    have hlast : Proper last := hproper last (by simp)
    have hne : path ≠ [] := by
      rintro rfl
      rcases h.concat with ⟨-, hnil⟩ | ⟨before, hnil, -⟩
      · exact hlast.ne_nil hnil.symm
      · simp at hnil
    rw [if_neg (not_or.mpr ⟨hne, h.getLast?_ne hlast⟩), Spells, join_concat (by simp)]
    rcases h with rfl | ⟨habs, rfl⟩
    · exact .inl rfl
    · exact .inr ⟨habs, rfl⟩

/-- **The code's step on the text is the step on the stack.** -/
theorem combine (h : Spells absolute path stack) (hproper : ∀ s ∈ stack, Proper s) (seg : List Char) :
    Spells absolute (combine path seg) (tread stack seg) := by
  unfold Specifier.combine tread
  simp only [Bool.or_eq_true, List.isEmpty_iff, beq_iff_eq]
  by_cases hstay : seg = [] ∨ seg = ['.']
  · rw [if_pos hstay, if_pos hstay]
    exact h
  · rw [if_neg hstay, if_neg hstay]
    by_cases hpop : seg = ['.', '.']
    · rw [if_pos hpop, if_pos hpop]
      exact h.pop hproper
    · rw [if_neg hpop, if_neg hpop]
      exact h.push hproper seg

end Spells

/-! ### A specifier -/

theorem tread_proper (hseg : '/' ∉ seg) (hproper : ∀ s ∈ stack, Proper s) : ∀ s ∈ tread stack seg, Proper s := by
  unfold tread
  split_ifs with hstay hpop
  · exact hproper
  · exact fun s hs => hproper s (List.dropLast_subset stack hs)
  · rw [not_or] at hstay
    intro s hs
    rcases List.mem_append.mp hs with hs | hs
    · exact hproper s hs
    · exact List.mem_singleton.mp hs ▸ ⟨hstay.1, hseg, hstay.2, hpop⟩

/-- Segment by segment, the text goes on spelling the stack. -/
theorem foldl_combine {absolute : Prop} {segs : List (List Char)} (hsegs : ∀ seg ∈ segs, '/' ∉ seg)
    (hproper : ∀ s ∈ stack, Proper s) (h : Spells absolute path stack) :
    Spells absolute (segs.foldl combine path) (segs.foldl tread stack) ∧ ∀ s ∈ segs.foldl tread stack, Proper s := by
  induction segs generalizing path stack with
  | nil => exact ⟨h, hproper⟩
  | cons seg segs ih =>
    rw [List.forall_mem_cons] at hsegs
    exact ih hsegs.2 (tread_proper hsegs.1 hproper) (h.combine hproper seg)

theorem follow_proper (hproper : ∀ s ∈ dirs, Proper s) (name : String) : ∀ s ∈ follow dirs name, Proper s :=
  (foldl_combine (fun _ => not_mem_of_mem_splitOn) hproper (.inl rfl : Spells True _ _)).2

/-- The directory of a name spells its segments. -/
theorem Resides.spells (h : Resides base dirs) :
    ∃ dir, Directory base.toList dir ∧ Spells (Absolute base) dir dirs := by
  rcases h.directory with hdir | hdir
  · exact ⟨_, hdir, .inl rfl⟩
  · refine ⟨_, hdir, .inr ⟨?_, rfl⟩⟩
    rcases hdir with ⟨file, -, htext⟩ | ⟨-, hnil⟩
    · rw [Absolute, htext]
      rfl
    · cases hnil

/-- The slash that two dots may have taken is put back. -/
theorem Spells.restored (h : Spells (Absolute base) path stack) (hproper : ∀ s ∈ stack, Proper s) :
    (if base.toList.head? == some '/' && path.head? != some '/' then '/' :: path else path) =
      lead base ++ join stack := by
  by_cases habs : Absolute base
  · rw [lead, if_pos habs]
    rcases h with rfl | ⟨-, rfl⟩
    · simp [show base.toList.head? = some '/' from habs, join_head hproper]
    · simp
  · rw [lead, if_neg habs]
    rcases h with rfl | ⟨habs', -⟩
    · simp [show base.toList.head? ≠ some '/' from habs]
    · exact absurd habs' habs

/-- **A relative specifier is followed on the stack of the directory.** -/
theorem normalize_eq (h : Resides base dirs) (hname : Relative name) :
    normalize base name = String.ofList (lead base ++ join (follow dirs name)) := by
  obtain ⟨dir, hdir, hspells⟩ := h.spells
  have hsegs : ∀ seg ∈ name.toList.splitOn '/', '/' ∉ seg := fun _ => not_mem_of_mem_splitOn
  obtain ⟨hspells, hproper⟩ := foldl_combine hsegs h.proper hspells
  unfold normalize normalizeChars
  rw [if_neg (by simpa [Relative] using hname), hdir.found]
  exact congrArg String.ofList (hspells.restored hproper)

/-! ### Chains of imports -/

theorem absolute_lead (hproper : ∀ s ∈ stack, Proper s) :
    Absolute (String.ofList (lead base ++ join stack)) ↔ Absolute base := by
  rw [Absolute, String.toList_ofList, lead]
  split_ifs with habs
  · simp [habs]
  · simp [habs, join_head hproper]

theorem spells_lead (base : String) (stack : List (List Char)) :
    Spells (Absolute base) (lead base ++ join stack) stack := by
  by_cases habs : Absolute base
  · exact .inr ⟨habs, by rw [lead, if_pos habs, List.singleton_append]⟩
  · exact .inl (by rw [lead, if_neg habs, List.nil_append])

/-- What a specifier leads to has a directory of the same kind. -/
theorem Resides.of_stack (base : String) (hproper : ∀ s ∈ stack, Proper s) :
    Resides (String.ofList (lead base ++ join stack)) stack.dropLast := by
  refine ⟨fun s hs => hproper s (List.dropLast_subset stack hs), ?_⟩
  rw [String.toList_ofList]
  rcases List.eq_nil_or_concat stack with rfl | ⟨init, last, rfl⟩
  · -- only the root, or nothing
    rw [join_nil, List.append_nil, lead, List.dropLast_nil]
    split_ifs
    · exact .inl (.inl ⟨[], by simp, rfl⟩)
    · exact .inl (.inr ⟨by simp, rfl⟩)
  · rw [List.concat_eq_append] at *
    have hlast : Proper last := hproper last (by simp)
    rw [List.dropLast_concat]
    rcases (spells_lead base (init ++ [last])).concat with ⟨rfl, htext⟩ | ⟨before, htext, hbefore⟩
    · exact .inl (.inr ⟨by rw [htext]; exact hlast.no_slash, rfl⟩)
    · rcases hbefore with rfl | ⟨-, rfl⟩
      · exact .inl (.inl ⟨last, hlast.no_slash, htext⟩)
      · exact .inr (.inl ⟨last, hlast.no_slash, htext⟩)

/-- One import leads from a module to a module, below the same root. -/
theorem Resides.normalize (h : Resides base dirs) (hname : Relative name) :
    Resides (normalize base name) (enter dirs name) ∧ (Absolute (normalize base name) ↔ Absolute base) := by
  have hproper := follow_proper h.proper name
  rw [normalize_eq h hname]
  exact ⟨.of_stack base hproper, absolute_lead hproper⟩

/-- A chain of imports leads from a module to a module, below the same root. -/
theorem Resides.foldl (h : Resides base dirs) {imports : List String} (himports : ∀ n ∈ imports, Relative n) :
    Resides (imports.foldl Specifier.normalize base) (imports.foldl enter dirs) ∧
      (Absolute (imports.foldl Specifier.normalize base) ↔ Absolute base) := by
  induction imports generalizing base dirs with
  | nil => exact ⟨h, Iff.rfl⟩
  | cons name imports ih =>
    rw [List.forall_mem_cons] at himports
    obtain ⟨hnext, habs⟩ := h.normalize himports.1
    obtain ⟨hlast, habs'⟩ := ih hnext himports.2
    exact ⟨hlast, habs'.trans habs⟩

/-- **Relative imports walk on a stack of segments.**  Along any chain of relative imports from a module with such a
directory, a further relative specifier is followed on the stack of the directory reached, below the root the chain
began at; what comes out has proper segments only, and has such a directory in its turn. -/
theorem relative_imports (base : String) (dirs : List (List Char)) (h : Resides base dirs) (imports : List String)
    (himports : ∀ n ∈ imports, Relative n) (name : String) (hname : Relative name) :
    let asking := imports.foldl Specifier.normalize base
    let dirs' := imports.foldl enter dirs
    Resides asking dirs' ∧ (Absolute asking ↔ Absolute base) ∧
      normalize asking name =
        String.ofList ((if Absolute base then ['/'] else []) ++ join (follow dirs' name)) ∧
      Clean (join (follow dirs' name)) ∧
      (Absolute (normalize asking name) ↔ Absolute base) ∧
      Resides (normalize asking name) (enter dirs' name) := by
  intro asking dirs'
  obtain ⟨hasking, habs⟩ := h.foldl himports
  obtain ⟨hfound, habs'⟩ := hasking.normalize hname
  refine ⟨hasking, habs, ?_, join_clean (follow_proper hasking.proper name), habs'.trans habs, hfound⟩
  have hlead : lead asking = if Absolute base then ['/'] else [] := if_congr habs rfl rfl
  rw [normalize_eq hasking hname, hlead]

/-- From `/app/lib/main.js`, by way of `/app/util/index.js`, up past the root and down again. -/
theorem relative_imports_past_root :
    Resides "/app/lib/main.js" ["app".toList, "lib".toList] ∧
      normalize (normalize "/app/lib/main.js" "../util/./index.js") "../../../x//y.js" = "/x/y.js" := by
  have hmain : Resides "/app/lib/main.js" ["app".toList, "lib".toList] :=
    ⟨by decide, .inr (.inl ⟨"main.js".toList, by decide, rfl⟩)⟩
  refine ⟨hmain, ?_⟩
  exact (relative_imports "/app/lib/main.js" _ hmain ["../util/./index.js"] (by decide) "../../../x//y.js"
    (by decide)).2.2.1.trans (by decide)

end ScriptBridge.Specifier
