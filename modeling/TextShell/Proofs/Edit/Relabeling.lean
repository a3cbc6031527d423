import Mathlib.Data.List.InsertIdx
import TextShell.Proofs.Edit.Script

/-!
# Edits and what the lines say

An edit looks at how many lines there are and at its number, and at no line and no text. So when
each line and each text is put into other words, always the same for the same, then every edit of a
script is made or fails as it was, and the lines are what they were in other words. The empty line
must stay the empty line, since an edit may add some.

* `Edit.relabel`: an edit with its text put into other words.
* `Edit.apply_relabel`: one edit.
* `Edit.steps_relabel`: every step of a script.
-/

namespace TextShell.Edit

variable {f : String → String}

/-- An edit with its text put into other words. -/
def relabel (f : String → String) : Edit → Edit
  | replace text => replace (f text)
  | append text => append (f text)
  | insertAt line text => insertAt line (f text)
  | deleteAt line => deleteAt line

/-- What comes of an edit, with the lines put into other words. -/
def Step.relabel (f : String → String) (step : Step) : Step :=
  { step with lines := step.lines.map f }

theorem gap_map (line : UInt64) (lines : List String) :
    gap line (lines.map f) = gap line lines := by
  unfold gap
  rw [List.length_map]

/-- An edit in other words fails as the edit does, and otherwise leaves the same in other words. -/
theorem apply_relabel (hempty : f "" = "") (edit : Edit) (lines : List String) :
    (edit.relabel f).apply (lines.map f) = (edit.apply lines).map (List.map f) := by
  cases edit with
  | replace text => rfl
  | append text =>
    have hlines : lines.map f ++ [f text] = (lines ++ [text]).map f := by
      rw [List.map_append, List.map_singleton]
    exact congrArg Except.ok hlines
  | insertAt line text =>
    -- whether there is room for the line is a matter of how many there are
    simp only [relabel, apply, gap_map]
    split
    next => rfl
    next =>
      have hblank : List.replicate (gap line lines) "" =
          (List.replicate (gap line lines) "").map f := by
        rw [List.map_replicate, hempty]
      have hlines : (lines.map f).take (line.toNat - 1) ++ List.replicate (gap line lines) "" ++
            f text :: (lines.map f).drop (line.toNat - 1) =
          (lines.take (line.toNat - 1) ++ List.replicate (gap line lines) "" ++
            text :: lines.drop (line.toNat - 1)).map f := by
        rw [List.map_append, List.map_append, List.map_cons, List.map_take, List.map_drop, ← hblank]
      exact congrArg Except.ok hlines
  | deleteAt line =>
    simp only [relabel, apply, List.length_map]
    split
    next => rfl
    next => exact congrArg Except.ok (List.eraseIdx_map f lines (line.toNat - 1))

theorem step_relabel (hempty : f "" = "") (edit : Edit) (lines : List String) :
    (edit.relabel f).step (lines.map f) = (edit.step lines).relabel f := by
  have hrelabel := apply_relabel hempty edit lines
  cases happly : edit.apply lines with
  | ok edited =>
    rw [happly] at hrelabel
    rw [step_of_ok happly, step_of_ok hrelabel]
    rfl
  | error failure =>
    rw [happly] at hrelabel
    rw [step_of_error happly, step_of_error hrelabel]
    rfl

theorem applyAll_relabel (hempty : f "" = "") (edits : List Edit) (lines : List String) :
    applyAll (edits.map (relabel f)) (lines.map f) = (applyAll edits lines).map f := by
  induction edits generalizing lines with
  | nil => rfl
  | cons edit edits ih =>
    have hfirst : ((edit.relabel f).step (lines.map f)).lines = (edit.step lines).lines.map f := by
      rw [step_relabel hempty]
      rfl
    rw [List.map_cons, applyAll_cons, applyAll_cons, hfirst]
    exact ih (edit.step lines).lines

/-- Put all lines and all texts of a script into other words, so that the empty line stays itself:
in each step the edit is made if it was made and otherwise fails for the same reason with the same
number, and the lines after it, like those at the end, are what they were in other words. -/
theorem steps_relabel (f : String → String) (hempty : f "" = "") (edits : List Edit)
    (lines : List String) :
    steps (edits.map (relabel f)) (lines.map f) =
        (steps edits lines).map (fun step => { step with lines := step.lines.map f }) ∧
      applyAll (edits.map (relabel f)) (lines.map f) = (applyAll edits lines).map f := by
  refine ⟨?_, applyAll_relabel hempty edits lines⟩
  induction edits generalizing lines with
  | nil => rfl
  | cons edit edits ih =>
    have hfirst := step_relabel hempty edit lines
    -- the others begin with the lines that the first one leaves
    have hothers := ih (edit.step lines).lines
    rw [List.map_cons, steps_cons, hfirst, steps_cons, List.map_cons]
    exact congrArg ((edit.step lines).relabel f :: ·) hothers

/-- Words that make two different lines and two different texts the same. An insertion beyond the
limit and a deletion behind the end still fail as they did. -/
theorem steps_relabel_merged :
    let f : String → String := fun text => if text = "" then "" else "x"
    let edits : List Edit := [.insertAt 4 "b", .deleteAt 9, .append "c", .insertAt 1048583 "d"]
    f "" = "" ∧
      steps (edits.map (relabel f)) ["x", ""] =
        [⟨none, ["x", "", "", "x"]⟩, ⟨some (.deleteOutOfRange "9"), ["x", "", "", "x"]⟩,
          ⟨none, ["x", "", "", "x", "x"]⟩,
          ⟨some (.insertOutOfRange "1048583"), ["x", "", "", "x", "x"]⟩] := by
  intro f edits
  have hempty : f "" = "" := by decide
  have hsteps := (steps_relabel f hempty edits ["a", ""]).1
  have hlines : ["a", ""].map f = ["x", ""] := by decide
  rw [hlines] at hsteps
  exact ⟨hempty, hsteps.trans (by decide)⟩

end TextShell.Edit
