import ScriptBridge.Bridge.Callback
import ScriptBridge.Proofs.TextCuts

/-!
What a line buffer hands out depends on the text alone.

Text is written in fragments, cut anywhere, and of what has been written the buffer keeps only what follows the last
line feed.  Still, since it was last flushed,

    text written  =  the parts that line feeds end, each with its line feed  ++  what waits

and the lines handed out are these parts in order, each without the carriage returns at its end (`lines_of_fragments`).
A text is parted at its line feeds in one way (`Parted.unique`), so neither the lines nor what waits depends on where
the fragments were cut.
-/
namespace ScriptBridge

open Text

namespace LineBuffer

variable {text text' rest rest' part : List Char} {parts parts' : List (List Char)} {line line' : String}

/-! ### Texts and their lines -/

/-- A text parted at its line feeds: the parts that they end, and the part after the last one. -/
structure Parted (text : List Char) (parts : List (List Char)) (rest : List Char) : Prop where
  text_eq : text = parts.flatMap (· ++ ['\n']) ++ rest
  no_feed : ∀ part ∈ parts, '\n' ∉ part
  rest_no_feed : '\n' ∉ rest

/-- A part as a line: all but the carriage returns at its end. -/
structure Trims (part : List Char) (line : String) : Prop where
  returns : ∃ n, part = line.toList ++ List.replicate n '\r'
  ends : line.toList.getLast? ≠ some '\r'

theorem Parted.splitOn_eq (h : Parted text parts rest) : text.splitOn '\n' = parts ++ [rest] := by
  rw [h.text_eq, ← intercalate_concat_eq_flatMap]
  refine List.splitOn_intercalate '\n' (fun part hpart => ?_) (by simp)
  rcases List.mem_append.mp hpart with hpart | hpart
  · exact h.no_feed part hpart
  · exact List.mem_singleton.mp hpart ▸ h.rest_no_feed

/-- **There is one way to part a text.** -/
theorem Parted.unique (h : Parted text parts rest) (h' : Parted text parts' rest') : parts = parts' ∧ rest = rest' := by
  have heq := h.splitOn_eq.symm.trans h'.splitOn_eq
  obtain ⟨hparts, hrest⟩ := List.append_inj' heq rfl
  exact ⟨hparts, List.singleton_inj.mp hrest⟩

theorem Parted.nil : Parted [] [] [] := ⟨rfl, by simp, by simp⟩

/-! ### One fragment -/

/-- A part as the buffer hands it out. -/
def trimmed (part : List Char) : String := String.ofList (dropTrailing '\r' part)

theorem trims_trimmed (part : List Char) : Trims part (trimmed part) := by
  refine ⟨?_, ?_⟩ <;> rw [trimmed, String.toList_ofList]
  · exact exists_dropTrailing_append '\r' part
  · exact dropTrailing_getLast?_ne '\r' part

theorem forall₂_trimmed (parts : List (List Char)) : List.Forall₂ Trims parts (parts.map trimmed) := by
  induction parts with
  | nil => exact .nil
  | cons part parts ih => exact .cons (trims_trimmed part) ih

/-- A fragment completes parts of what waited together with it, and leaves the rest waiting. -/
theorem write_parts (b : LineBuffer) (fragment : String) :
    ∃ parts, Parted (b.pending ++ fragment.toList) parts (b.write fragment).2.pending ∧
      (b.write fragment).1 = parts.map trimmed := by
  rcases hcut : cutLast? '\n' (b.pending ++ fragment.toList) with - | ⟨complete, rest⟩ <;> simp only [write, hcut]
  · exact ⟨[], ⟨rfl, by simp, cutLast?_eq_none_iff.mp hcut⟩, rfl⟩
  · obtain ⟨htext, hrest⟩ := cutLast?_eq_some_iff.mp hcut
    refine ⟨complete.splitOn '\n', ⟨?_, fun part => not_mem_of_mem_splitOn, hrest⟩, rfl⟩
    rw [htext, flatMap_append_sep (List.splitOn_ne_nil '\n' complete), List.intercalate_splitOn, List.append_assoc,
      List.singleton_append]

theorem flush_eq (b : LineBuffer) :
    b.flush = (if b.pending = [] then none else some (String.ofList b.pending), empty) := by
  rcases b with ⟨_ | ⟨c, pending⟩⟩ <;> rfl

/-! ### Any number of fragments -/

/-- What can be done with a buffer. -/
inductive Step where
  | write (fragment : String)
  | flush

/-- A buffer, with what has been written to it and what has been handed out since it was last flushed. -/
structure Tally where
  buffer : LineBuffer
  fragments : List String
  lines : List String

namespace Tally

def start : Tally := ⟨LineBuffer.empty, [], []⟩

def step (t : Tally) : Step → Tally
  | .write fragment =>
    ⟨(t.buffer.write fragment).2, t.fragments ++ [fragment], t.lines ++ (t.buffer.write fragment).1⟩
  | .flush => ⟨t.buffer.flush.2, [], []⟩

def run (steps : List Step) : Tally := steps.foldl step start

/-- The fragments, one after the other. -/
def written (t : Tally) : List Char := t.fragments.flatMap String.toList

/-- The text is what has been handed out, part by part, and what waits. -/
def Accounted (t : Tally) : Prop :=
  ∃ parts, Parted t.written parts t.buffer.pending ∧ t.lines = parts.map trimmed

theorem Accounted.step {t : Tally} (h : t.Accounted) (s : Step) : (t.step s).Accounted := by
  cases s with
  | flush =>
    refine ⟨[], ?_, rfl⟩
    rw [Tally.step, flush_eq]
    exact .nil
  | write fragment =>
    obtain ⟨parts, hparted, hlines⟩ := h
    obtain ⟨more, hmore, hnew⟩ := write_parts t.buffer fragment
    refine ⟨parts ++ more, ⟨?_, ?_, hmore.rest_no_feed⟩, ?_⟩
    · show (t.fragments ++ [fragment]).flatMap String.toList = _
      -- what waited belongs to the first of the parts completed now
      have hwritten : t.fragments.flatMap String.toList = _ := hparted.text_eq
      rw [List.flatMap_append, hwritten, List.flatMap_singleton, List.append_assoc, hmore.text_eq]
      simp [Tally.step]
    · rintro part hpart
      rcases List.mem_append.mp hpart with hpart | hpart
      · exact hparted.no_feed part hpart
      · exact hmore.no_feed part hpart
    · show t.lines ++ (t.buffer.write fragment).1 = _
      rw [hlines, hnew, List.map_append]

theorem run_accounted (steps : List Step) : (run steps).Accounted := by
  have hrun : ∀ t : Tally, t.Accounted → (steps.foldl step t).Accounted := by
    induction steps with
    | nil => exact fun t h => h
    | cons s steps ih => exact fun t h => ih _ (h.step s)
  exact hrun start ⟨[], .nil, rfl⟩

end Tally

/-- **The lines depend on the text alone.**  Whatever is written and flushed, the text since the buffer was last
flushed is parted at its line feeds: the lines handed out are the parts that line feeds end, in order and without the
carriage returns at their ends, what waits is the part after the last line feed, and flushing hands that out unchanged
if there is anything of it.  So another run with the same text since its last flush has handed out the same lines, and
has the same waiting. -/
theorem lines_of_fragments (steps : List Step) :
    let t := Tally.run steps
    (∃ parts, Parted t.written parts t.buffer.pending ∧ List.Forall₂ Trims parts t.lines) ∧
      t.buffer.flush = (if t.buffer.pending = [] then none else some (String.ofList t.buffer.pending), empty) ∧
      ∀ steps' : List Step, (Tally.run steps').written = t.written →
        (Tally.run steps').lines = t.lines ∧ (Tally.run steps').buffer = t.buffer := by
  intro t
  obtain ⟨parts, hparted, hlines⟩ := Tally.run_accounted steps
  refine ⟨⟨parts, hparted, hlines ▸ forall₂_trimmed parts⟩, flush_eq t.buffer, fun steps' hsame => ?_⟩
  obtain ⟨parts', hparted', hlines'⟩ := Tally.run_accounted steps'
  obtain ⟨rfl, hrest⟩ := (hsame ▸ hparted').unique hparted
  exact ⟨hlines'.trans hlines.symm, congrArg LineBuffer.mk hrest⟩

end LineBuffer

/-! ### Lines for the host -/

namespace Runner

variable {σ : Type}

/-- Lines reach a host that is not busy, one after the other. -/
theorem printAll_ok (host : Host σ) (level : PrintLevel) (lines : List String) {w : World σ} (hw : w.busy = false) :
    printAll host level lines w =
      .ok () { w with memory := lines.foldl (fun memory line => host.print memory level line) w.memory } := by
  induction lines generalizing w with
  | nil => rfl
  | cons line lines ih =>
    show printAll host level lines (if w.busy then w else { w with memory := host.print w.memory level line }) = _
    rw [if_neg (by simp [hw])]
    exact ih hw

/-- **What the log's buffer hands out reaches the host**, line by line. -/
theorem writeLog_ok (host : Host σ) (fragment : String) {w : World σ} (hw : w.busy = false) :
    writeLog host fragment w =
      .ok () { w with
        bridge := { w.bridge with log := (w.bridge.log.write fragment).2 }
        memory := (w.bridge.log.write fragment).1.foldl (fun memory line => host.print memory .log line)
          w.memory } :=
  printAll_ok host .log (w.bridge.log.write fragment).1
    (w := { w with bridge := { w.bridge with log := (w.bridge.log.write fragment).2 } }) hw

end Runner

end ScriptBridge
