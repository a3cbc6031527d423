import TextShell.Proofs.Edit.Positions
import Mathlib.Control.Monad.Basic

/-!
# Insertions and deletions that undo each other

An insertion and a deletion with the same number meet at one cut of the lines: the one puts a line
there, the other takes it out. So each undoes the other, but for the empty lines that an insertion
behind the end has added before its text. Adding a line at the end is the insertion at the last cut.

* `Edit.exists_cut_of_insertAt`, `Edit.exists_cut_of_deleteAt`: the cut at which an edit is made.
* `Edit.apply_insertAt_of_cut`, `Edit.apply_deleteAt_of_cut`: an edit at a given cut.
* `Edit.apply_undo`: an edit and the one that undoes it.
-/

namespace TextShell.Edit

variable {lines edited before after : List String} {number : UInt64} {text line : String}

/-! ### Edits at a cut -/

theorem ne_zero_of_cut (h : before.length + 1 = number.toNat) : number ≠ 0 := by
  rw [Ne, ← toNat_eq_zero_iff]
  omega

/-- A text is put at a cut. No empty lines are needed to reach it. -/
theorem apply_insertAt_of_cut (h : before.length + 1 = number.toNat) (text : String)
    (after : List String) :
    (insertAt number text).apply (before ++ after) = .ok (before ++ text :: after) := by
  have hindex : number.toNat - 1 = before.length := by omega
  have hgap : gap number (before ++ after) = 0 := by
    rw [gap, hindex, List.length_append]
    omega
  have hrange : ¬ (number = 0 ∨ maxPadding < gap number (before ++ after)) := by
    rw [hgap]
    exact not_or.mpr ⟨ne_zero_of_cut h, Nat.not_lt_zero _⟩
  rw [apply, if_neg hrange, hgap, hindex, List.take_left, List.drop_left, List.replicate_zero,
    List.append_nil]

/-- The line behind a cut is taken out. -/
theorem apply_deleteAt_of_cut (h : before.length + 1 = number.toNat) (line : String)
    (after : List String) :
    (deleteAt number).apply (before ++ line :: after) = .ok (before ++ after) := by
  have hindex : number.toNat - 1 = before.length := by omega
  have hrange : ¬ (number = 0 ∨ (before ++ line :: after).length < number.toNat) := by
    refine not_or.mpr ⟨ne_zero_of_cut h, ?_⟩
    rw [List.length_append, List.length_cons]
    omega
  rw [apply, if_neg hrange, hindex, List.eraseIdx_append_of_length_le (Nat.le_refl _), Nat.sub_self,
    List.eraseIdx_cons_zero]

/-- Lines that are filled up to an index, cut there. -/
theorem take_append_drop_filled (lines : List String) (index : Nat) :
    lines.take index ++ List.replicate (index - lines.length) "" ++ lines.drop index =
      lines ++ List.replicate (index - lines.length) "" := by
  rcases Nat.le_total index lines.length with hinside | hbehind
  · rw [Nat.sub_eq_zero_of_le hinside, List.replicate_zero, List.append_nil, List.append_nil,
      List.take_append_drop]
  · rw [List.take_of_length_le hbehind, List.drop_eq_nil_of_le hbehind, List.append_nil]

/-- An insertion that can be made is made at a cut of the lines, filled up to reach it. -/
theorem exists_cut_of_insertAt (h : (insertAt number text).apply lines = .ok edited) :
    ∃ before after, before.length + 1 = number.toNat ∧ edited = before ++ text :: after ∧
      before ++ after = lines ++ List.replicate (number.toNat - 1 - lines.length) "" := by
  rw [apply] at h
  split at h
  next => cases h
  next hrange =>
    have hpositive : number.toNat ≠ 0 := mt toNat_eq_zero_iff.mp (not_or.mp hrange).1
    refine ⟨lines.take (number.toNat - 1) ++ List.replicate (gap number lines) "",
      lines.drop (number.toNat - 1), ?_, (Except.ok.inj h).symm, take_append_drop_filled lines _⟩
    rw [List.length_append, List.length_take, List.length_replicate, gap]
    omega

/-- A deletion that can be made takes out the line behind a cut. -/
theorem exists_cut_of_deleteAt (h : (deleteAt number).apply lines = .ok edited) :
    ∃ before line after, before.length + 1 = number.toNat ∧ lines = before ++ line :: after ∧
      edited = before ++ after := by
  rw [apply] at h
  split at h
  next => cases h
  next hrange =>
    obtain ⟨hfirst, hlast⟩ := canDelete_iff.mpr hrange
    obtain ⟨before, line, after, hlines, hnumber, hedited⟩ := isDeleted_eraseIdx hfirst hlast
    exact ⟨before, line, after, hnumber, hlines, (Except.ok.inj h).symm.trans hedited⟩

/-! ### Undoing -/

/-- Insertions and deletions undo each other. Taking out the line that was put in leaves the lines
as they were, with the empty ones behind them that were needed to reach a number behind the end;
these are none if the number is that of a line or the next one. Putting in the line that was taken
out leaves the lines as they were. Adding a line at the end is putting it in with the next number. -/
theorem apply_undo (lines : List String) (number : UInt64) (text : String) :
    (∀ edited, (insertAt number text).apply lines = .ok edited →
      (deleteAt number).apply edited =
          .ok (lines ++ List.replicate (number.toNat - 1 - lines.length) "") ∧
        (number.toNat ≤ lines.length + 1 → (deleteAt number).apply edited = .ok lines)) ∧
    (∀ edited, (deleteAt number).apply lines = .ok edited →
      ∃ line, line? lines number.toNat = some line ∧
        (insertAt number line).apply edited = .ok lines) ∧
    (number.toNat = lines.length + 1 →
      (append text).apply lines = (insertAt number text).apply lines) := by
  refine ⟨fun edited h => ?_, fun edited h => ?_, fun hnext => ?_⟩
  · obtain ⟨before, after, hcut, rfl, hfilled⟩ := exists_cut_of_insertAt h
    have hundone := apply_deleteAt_of_cut hcut text after
    rw [hfilled] at hundone
    refine ⟨hundone, fun hinside => ?_⟩
    have hgap : number.toNat - 1 - lines.length = 0 := by omega
    rw [hundone, hgap, List.replicate_zero, List.append_nil]
  · obtain ⟨before, line, after, hcut, rfl, rfl⟩ := exists_cut_of_deleteAt h
    refine ⟨line, ?_, apply_insertAt_of_cut hcut line after⟩
    rw [line?, ← hcut, if_neg (Nat.succ_ne_zero _), Nat.add_sub_cancel,
      List.getElem?_append_right (Nat.le_refl _), Nat.sub_self, List.getElem?_cons_zero]
  · -- the cut behind the last line
    have hcut := apply_insertAt_of_cut hnext.symm text []
    rw [List.append_nil] at hcut
    rw [hcut, apply]

/-- A text is put in two lines behind the end and taken out again: the empty line before it stays.
The first line is taken out and put in again, and a text as the second line is one at the end. -/
theorem apply_undo_behind_end :
    (insertAt 3 "c").apply ["a"] = .ok ["a", "", "c"] ∧
    (deleteAt 3).apply ["a", "", "c"] = .ok ["a", ""] ∧
    (∃ line, line? ["a"] 1 = some line ∧ (insertAt 1 line).apply [] = .ok ["a"]) ∧
    (append "c").apply ["a"] = (insertAt 2 "c").apply ["a"] := by
  have hinsert : (insertAt 3 "c").apply ["a"] = .ok ["a", "", "c"] := by decide +kernel
  have hdelete : (deleteAt 1).apply ["a"] = .ok [] := by decide +kernel
  refine ⟨hinsert, ?_, ?_, ?_⟩
  · exact ((apply_undo ["a"] 3 "c").1 _ hinsert).1
  · exact (apply_undo ["a"] 1 "c").2.1 _ hdelete
  · exact (apply_undo ["a"] 2 "c").2.2 (by decide)

end TextShell.Edit
