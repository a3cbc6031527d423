import TextShell.Proofs.Text.Lines
import TextShell.Request.Reading

/-!
# Runs of edits

Edits made one after the other on the lines of a file, as they are written in the arguments of
updates. An edit that cannot be made leaves the lines as they are.

* `Reading.WrittenEdit.applyAll`: the lines after a run of edits.
* `Reading.WrittenEdit.rangeFailure?_of_apply`: what is wrong with an edit that cannot be made.
* `Reading.WrittenEdit.isLine_of_apply`: edits keep lines apart.
-/

namespace TextShell

namespace Edit

/-- The text that an edit brings in, if any. -/
def text? : Edit → Option String
  | replace text | append text | insertAt _ text => some text
  | deleteAt _ => none

/-- The failure of an edit whose line number is out of range. An edit without a number has none. -/
def rangeFailure? : Edit → Option Failure
  | replace _ | append _ => none
  | insertAt line _ => some (.insertOutOfRange line.toNat.repr)
  | deleteAt line => some (.deleteOutOfRange line.toNat.repr)

variable {edit : Edit} {lines edited : List String} {failure : Failure}

/-- An edit can fail on its line number only. -/
theorem rangeFailure?_of_apply (h : edit.apply lines = .error failure) :
    edit.rangeFailure? = some failure := by
  cases edit with
  | replace text | append text => cases h
  | insertAt line text | deleteAt line =>
    simp only [apply] at h
    split at h
    next =>
      obtain rfl := Except.error.inj h
      rfl
    next => cases h

/-- What an edit leaves is lines again, if its text is one: all others were there or are empty. -/
theorem isLine_of_apply (htext : ∀ text, edit.text? = some text → Text.IsLine text)
    (hlines : ∀ line ∈ lines, Text.IsLine line) (h : edit.apply lines = .ok edited) :
    ∀ line ∈ edited, Text.IsLine line := by
  intro line hmem
  cases edit with
  | replace text =>
    obtain rfl := Except.ok.inj h
    obtain rfl := List.mem_singleton.mp hmem
    exact htext line rfl
  | append text =>
    obtain rfl := Except.ok.inj h
    obtain hmem | hmem := List.mem_append.mp hmem
    · exact hlines line hmem
    · obtain rfl := List.mem_singleton.mp hmem
      exact htext line rfl
  | insertAt number text =>
    simp only [apply] at h
    split at h
    next => cases h
    next =>
      obtain rfl := Except.ok.inj h
      simp only [List.mem_append, List.mem_cons, List.mem_replicate] at hmem
      -- before the gap, in the gap, the text itself, behind it
      obtain (hmem | ⟨-, rfl⟩) | rfl | hmem := hmem
      · exact hlines line (List.mem_of_mem_take hmem)
      · exact Text.isLine_empty
      · exact htext line rfl
      · exact hlines line (List.mem_of_mem_drop hmem)
  | deleteAt number =>
    simp only [apply] at h
    split at h
    next => cases h
    next =>
      obtain rfl := Except.ok.inj h
      exact hlines line (List.mem_of_mem_eraseIdx hmem)

end Edit

namespace Reading.WrittenEdit

/-- The text that a written edit brings in, if any. -/
def text? : WrittenEdit → Option (List Char)
  | replace text | append text | insertAt _ text => some text
  | deleteAt _ => none

/-- The lines after an edit as it is written. -/
def apply (written : WrittenEdit) (lines : List String) : Except Failure (List String) :=
  match written.edit with
  | .error failure => .error failure
  | .ok edit => edit.apply lines

/-- The lines after an edit, or as they were if it cannot be made. -/
def next (written : WrittenEdit) (lines : List String) : List String :=
  match written.apply lines with
  | .error _ => lines
  | .ok edited => edited

/-- The lines after edits one after the other. -/
def applyAll (edits : List WrittenEdit) (lines : List String) : List String :=
  edits.foldl (fun lines written => written.next lines) lines

/-- Whether one of the edits can be made in its turn. -/
def anySucceeds : List WrittenEdit → List String → Bool
  | [], _ => false
  | written :: edits, lines => (written.apply lines).isOk || anySucceeds edits (written.next lines)

/-- How the number of a line is told: as it was written if it is too large. -/
def shownNumber (digits : List Char) : String :=
  match lineNumber? digits with
  | some line => line.toNat.repr
  | none => .ofList digits

/-- The failure of an edit whose line number is out of range. An edit without a number has none. -/
def rangeFailure? : WrittenEdit → Option Failure
  | replace _ | append _ => none
  | insertAt digits _ => some (.insertOutOfRange (shownNumber digits))
  | deleteAt digits => some (.deleteOutOfRange (shownNumber digits))

variable {written : WrittenEdit} {lines edited : List String} {failure : Failure}

theorem next_of_error (h : written.apply lines = .error failure) : written.next lines = lines := by
  rw [next, h]

theorem next_of_ok (h : written.apply lines = .ok edited) : written.next lines = edited := by
  rw [next, h]

@[simp]
theorem applyAll_nil (lines : List String) : applyAll [] lines = lines := rfl

@[simp]
theorem applyAll_cons (written : WrittenEdit) (edits : List WrittenEdit) (lines : List String) :
    applyAll (written :: edits) lines = applyAll edits (written.next lines) := rfl

/-- Edits none of which can be made change nothing. -/
theorem applyAll_eq_self {edits : List WrittenEdit} (h : anySucceeds edits lines = false) :
    applyAll edits lines = lines := by
  induction edits with
  | nil => rfl
  | cons written edits ih =>
    rw [anySucceeds, Bool.or_eq_false_iff] at h
    obtain ⟨hfirst, hothers⟩ := h
    cases happly : written.apply lines with
    | ok edited =>
      rw [happly] at hfirst
      cases hfirst
    | error failure =>
      rw [next_of_error happly] at hothers
      rw [applyAll_cons, next_of_error happly, ih hothers]

/-- A number that does not fit is out of range for what is written. -/
theorem rangeFailure?_of_edit_error (h : written.edit = .error failure) :
    written.rangeFailure? = some failure := by
  cases written with
  | replace text | append text => cases h
  | insertAt digits text | deleteAt digits =>
    simp only [edit] at h
    cases hnumber : lineNumber? digits with
    | none =>
      rw [hnumber] at h
      obtain rfl := Except.error.inj h
      simp [rangeFailure?, shownNumber, hnumber]
    | some line => simp [hnumber] at h

/-- Where the number fits, what is written and what it stands for have the same text and the same
failure. -/
theorem eq_of_edit_ok {edit : Edit} (h : written.edit = .ok edit) :
    written.text? = edit.text?.map String.toList ∧ written.rangeFailure? = edit.rangeFailure? := by
  cases written with
  | replace text | append text =>
    obtain rfl := Except.ok.inj h
    simp [text?, Edit.text?, rangeFailure?, Edit.rangeFailure?]
  | insertAt digits text | deleteAt digits =>
    simp only [WrittenEdit.edit] at h
    cases hnumber : lineNumber? digits with
    | none => simp [hnumber] at h
    | some line =>
      rw [hnumber] at h
      obtain rfl := Except.ok.inj h
      simp [text?, Edit.text?, rangeFailure?, Edit.rangeFailure?, shownNumber, hnumber]

/-- An edit that cannot be made fails on its line number: it does not fit, or it is out of range. -/
theorem rangeFailure?_of_apply (h : written.apply lines = .error failure) :
    written.rangeFailure? = some failure := by
  unfold apply at h
  cases hedit : written.edit with
  | error other =>
    rw [hedit] at h
    obtain rfl := Except.error.inj h
    exact rangeFailure?_of_edit_error hedit
  | ok edit =>
    rw [hedit] at h
    rw [(eq_of_edit_ok hedit).2, Edit.rangeFailure?_of_apply h]

/-- What an edit leaves is lines again, if the text that is written is one. -/
theorem isLine_of_apply (htext : ∀ text, written.text? = some text → Text.IsLine (.ofList text))
    (hlines : ∀ line ∈ lines, Text.IsLine line) (h : written.apply lines = .ok edited) :
    ∀ line ∈ edited, Text.IsLine line := by
  unfold apply at h
  cases hedit : written.edit with
  | error failure =>
    rw [hedit] at h
    cases h
  | ok edit =>
    rw [hedit] at h
    refine edit.isLine_of_apply (fun text hbrings => ?_) hlines h
    have hwritten : written.text? = some text.toList := by
      rw [(eq_of_edit_ok hedit).1, hbrings, Option.map_some]
    simpa using htext _ hwritten

end Reading.WrittenEdit

end TextShell
