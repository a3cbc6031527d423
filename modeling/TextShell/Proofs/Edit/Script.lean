import TextShell.Proofs.Edit.Run

/-!
# Scripts of edits

A script is edits that are made one after the other on the lines of a file. An edit that cannot be
made leaves the lines as they are, and the script goes on. Whatever an edit makes of the lines, it
puts its text and perhaps some empty lines in one place, leaves lines out and moves none, so a
script neither invents nor reorders lines, and it adds no more of them than its edits may.

* `Edit.exists_eq_of_apply`: the one shape that the lines have after any edit.
* `Edit.step`, `Edit.steps`, `Edit.applyAll`: what comes of one edit, of each edit of a script and
  of the whole script.
* `Edit.filter_applyAll_sublist`: old lines stay in their order.
* `Edit.applyAll_provenance`: where the lines after a script come from and how many there are.
-/

namespace TextShell.Edit

variable {edit : Edit} {edits : List Edit} {lines edited : List String} {line : String}

/-! ### One edit -/

/-- After an edit some of the lines are left, in their order, and in one place between them stand
empty lines and the text of the edit. -/
theorem exists_eq_of_apply (h : edit.apply lines = .ok edited) :
    ∃ before after count, edited = before ++ List.replicate count "" ++ edit.text?.toList ++ after ∧
      (before ++ after).Sublist lines ∧ count ≤ maxPadding := by
  cases edit with
  | replace text =>
    have hedited : [text] = edited := Except.ok.inj h
    -- no line is left
    refine ⟨[], [], 0, ?_, List.nil_sublist lines, Nat.zero_le _⟩
    rw [← hedited]
    rfl
  | append text =>
    have hedited : lines ++ [text] = edited := Except.ok.inj h
    refine ⟨lines, [], 0, ?_, ?_, Nat.zero_le _⟩
    · rw [← hedited]
      simp [text?]
    · simp
  | insertAt number text =>
    simp only [apply] at h
    split at h
    next => cases h
    next hrange =>
      have hedited := Except.ok.inj h
      have hgap : ¬ maxPadding < gap number lines := fun hlarge => hrange (.inr hlarge)
      refine ⟨lines.take (number.toNat - 1), lines.drop (number.toNat - 1), gap number lines, ?_,
        ?_, by omega⟩
      · rw [← hedited]
        simp [text?]
      · simp
  | deleteAt number =>
    simp only [apply] at h
    split at h
    next => cases h
    next =>
      have hedited := Except.ok.inj h
      rw [List.eraseIdx_eq_take_drop_succ] at hedited
      refine ⟨lines.take (number.toNat - 1), lines.drop (number.toNat - 1 + 1), 0, ?_, ?_,
        Nat.zero_le _⟩
      · rw [← hedited]
        simp [text?]
      · rw [← List.eraseIdx_eq_take_drop_succ]
        exact List.eraseIdx_sublist lines _

/-- What comes of an edit. -/
structure Step where
  /-- Why the edit could not be made, if so. -/
  failure? : Option Failure
  /-- The lines afterwards. -/
  lines : List String
  deriving DecidableEq, Repr

/-- Make an edit. One that cannot be made leaves the lines as they are. -/
def step (edit : Edit) (lines : List String) : Step :=
  match edit.apply lines with
  | .ok edited => { failure? := none, lines := edited }
  | .error failure => { failure? := some failure, lines }

theorem step_of_ok (h : edit.apply lines = .ok edited) :
    edit.step lines = { failure? := none, lines := edited } := by
  rw [step, h]

theorem step_of_error {failure : Failure} (h : edit.apply lines = .error failure) :
    edit.step lines = { failure? := some failure, lines } := by
  rw [step, h]

theorem mem_step (h : line ∈ (edit.step lines).lines) :
    line ∈ lines ∨ edit.text? = some line ∨ line = "" := by
  cases happly : edit.apply lines with
  | error failure =>
    rw [step_of_error happly] at h
    exact .inl h
  | ok edited =>
    rw [step_of_ok happly] at h
    obtain ⟨before, after, count, rfl, hold, -⟩ := exists_eq_of_apply happly
    simp only [List.mem_append, List.mem_replicate, Option.mem_toList] at h
    rcases h with ((hbefore | ⟨-, hempty⟩) | htext) | hafter
    · exact .inl (hold.subset (List.mem_append_left _ hbefore))
    · exact .inr (.inr hempty)
    · exact .inr (.inl htext)
    · exact .inl (hold.subset (List.mem_append_right _ hafter))

/-- Of lines that are neither empty nor the text of an edit, the edit leaves some in their order. -/
theorem filter_step_sublist {keep : String → Bool} (hempty : keep "" = false)
    (htext : ∀ text, edit.text? = some text → keep text = false) :
    ((edit.step lines).lines.filter keep).Sublist (lines.filter keep) := by
  cases happly : edit.apply lines with
  | error failure =>
    simp [step_of_error happly]
  | ok edited =>
    rw [step_of_ok happly]
    obtain ⟨before, after, count, rfl, hold, -⟩ := exists_eq_of_apply happly
    -- what the edit has put between them is not kept
    have hblank : (List.replicate count "").filter keep = [] := by
      rw [List.filter_replicate, hempty]
      rfl
    have hbrought : edit.text?.toList.filter keep = [] := by
      rw [List.filter_eq_nil_iff]
      intro text hmem
      rw [htext text (Option.mem_toList.mp hmem)]
      exact Bool.false_ne_true
    have hkept : (before ++ List.replicate count "" ++ edit.text?.toList ++ after).filter keep =
        (before ++ after).filter keep := by
      simp only [List.filter_append, hblank, hbrought, List.append_nil]
    rw [hkept]
    exact hold.filter keep

theorem length_step_le (edit : Edit) (lines : List String) :
    (edit.step lines).lines.length ≤
      lines.length + if (edit.step lines).failure? = none then maxPadding + 1 else 0 := by
  cases happly : edit.apply lines with
  | error failure =>
    rw [step_of_error happly]
    exact Nat.le_add_right _ _
  | ok edited =>
    rw [step_of_ok happly, if_pos rfl]
    obtain ⟨before, after, count, rfl, hold, hcount⟩ := exists_eq_of_apply happly
    have hlength := hold.length_le
    have htext : edit.text?.toList.length ≤ 1 := by
      cases edit.text? <;> simp
    simp only [List.length_append, List.length_replicate] at hlength ⊢
    omega

/-! ### Scripts -/

/-- What comes of each edit of a script. -/
def steps : List Edit → List String → List Step
  | [], _ => []
  | edit :: edits, lines => edit.step lines :: steps edits (edit.step lines).lines

/-- The lines after a script. -/
def applyAll (edits : List Edit) (lines : List String) : List String :=
  edits.foldl (fun lines edit => (edit.step lines).lines) lines

/-- How many edits of a script are made. -/
def madeCount (edits : List Edit) (lines : List String) : Nat :=
  (steps edits lines).countP fun step => step.failure? = none

@[simp]
theorem steps_cons (edit : Edit) (edits : List Edit) (lines : List String) :
    steps (edit :: edits) lines = edit.step lines :: steps edits (edit.step lines).lines := rfl

@[simp]
theorem applyAll_nil (lines : List String) : applyAll [] lines = lines := rfl

@[simp]
theorem applyAll_cons (edit : Edit) (edits : List Edit) (lines : List String) :
    applyAll (edit :: edits) lines = applyAll edits (edit.step lines).lines := rfl

theorem madeCount_cons (edit : Edit) (edits : List Edit) (lines : List String) :
    madeCount (edit :: edits) lines = madeCount edits (edit.step lines).lines +
      if (edit.step lines).failure? = none then 1 else 0 := by
  unfold madeCount
  rw [steps_cons, List.countP_cons]
  simp only [decide_eq_true_eq]

theorem mem_applyAll (h : line ∈ applyAll edits lines) :
    line ∈ lines ∨ (∃ edit ∈ edits, edit.text? = some line) ∨ line = "" := by
  -- where the lines come from is said of any lines, so that the other edits may begin with those
  -- that the first one leaves
  induction edits generalizing lines with
  | nil => exact .inl h
  | cons edit edits ih =>
    rcases ih h with hstep | ⟨other, hother, htext⟩ | hempty
    · -- what is there after the first edit comes from before it, or from the edit
      rcases mem_step hstep with hold | htext | hempty
      · exact .inl hold
      · exact .inr (.inl ⟨edit, List.mem_cons_self .., htext⟩)
      · exact .inr (.inr hempty)
    · exact .inr (.inl ⟨other, List.mem_cons_of_mem _ hother, htext⟩)
    · exact .inr (.inr hempty)

theorem filter_applyAll_sublist {keep : String → Bool} (hempty : keep "" = false)
    (htexts : ∀ edit ∈ edits, ∀ text, edit.text? = some text → keep text = false) :
    ((applyAll edits lines).filter keep).Sublist (lines.filter keep) := by
  induction edits generalizing lines with
  | nil => exact List.Sublist.refl _
  | cons edit edits ih =>
    have hfirst : ((edit.step lines).lines.filter keep).Sublist (lines.filter keep) :=
      filter_step_sublist hempty (htexts edit (List.mem_cons_self ..))
    have hothers : ((applyAll edits (edit.step lines).lines).filter keep).Sublist
        ((edit.step lines).lines.filter keep) := by
      refine ih ?_
      intro other hother
      exact htexts other (List.mem_cons_of_mem _ hother)
    rw [applyAll_cons]
    exact hothers.trans hfirst

theorem length_applyAll_le (edits : List Edit) (lines : List String) :
    (applyAll edits lines).length ≤ lines.length + madeCount edits lines * (maxPadding + 1) := by
  induction edits generalizing lines with
  | nil => exact Nat.le_add_right _ _
  | cons edit edits ih =>
    have hfirst := length_step_le edit lines
    have hothers := ih (edit.step lines).lines
    rw [applyAll_cons, madeCount_cons]
    split at hfirst
    next hmade =>
      rw [if_pos hmade, Nat.add_mul, Nat.one_mul]
      omega
    next hfailed =>
      rw [if_neg hfailed, Nat.add_zero]
      omega

/-- Each line after a script is a line from before, the text of one of its edits or empty. If no
line was empty and none was a text of the script, those that are left stand in their old order. And
every edit that is made adds one line, besides at most as many empty ones as an insertion may. -/
theorem applyAll_provenance (edits : List Edit) (lines : List String) :
    (∀ line ∈ applyAll edits lines,
      line ∈ lines ∨ (∃ edit ∈ edits, edit.text? = some line) ∨ line = "") ∧
    ("" ∉ lines → (∀ edit ∈ edits, ∀ text, edit.text? = some text → text ∉ lines) →
      ((applyAll edits lines).filter (· ∈ lines)).Sublist lines) ∧
    (applyAll edits lines).length ≤ lines.length + madeCount edits lines * (Nat.pow 2 20 + 1) := by
  refine ⟨fun line => mem_applyAll, ?_, length_applyAll_le edits lines⟩
  intro hempty htexts
  have hkept : ((applyAll edits lines).filter (· ∈ lines)).Sublist
      (lines.filter (· ∈ lines)) := by
    refine filter_applyAll_sublist (decide_eq_false hempty) ?_
    intro edit hedit text htext
    exact decide_eq_false (htexts edit hedit text htext)
  -- all of the old lines are old lines
  have hall : lines.filter (· ∈ lines) = lines := by
    rw [List.filter_eq_self]
    intro line hline
    exact decide_eq_true hline
  rwa [hall] at hkept

/-- A script that inserts behind the end, deletes, and tries to delete what is not there. -/
theorem applyAll_provenance_padded :
    let edits : List Edit := [.insertAt 5 "x", .deleteAt 2, .deleteAt 9, .append "y", .deleteAt 0]
    let lines := ["a", "b", "c", "a"]
    applyAll edits lines = ["a", "c", "a", "x", "y"] ∧ madeCount edits lines = 3 ∧
      ((applyAll edits lines).filter (· ∈ lines)).Sublist lines ∧
      (applyAll edits lines).length ≤ 4 + 3 * (Nat.pow 2 20 + 1) := by
  intro edits lines
  have hscript := applyAll_provenance edits lines
  have hcount : madeCount edits lines = 3 := by decide
  refine ⟨by decide, hcount, hscript.2.1 (by decide) (by decide), ?_⟩
  rw [← hcount]
  exact hscript.2.2

end TextShell.Edit
