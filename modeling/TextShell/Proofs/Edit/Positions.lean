import TextShell.Proofs.Edit.InPlace

/-!
# Edits by the numbers of the lines

What stands where after an edit, told by the numbers that lines have: the first line is number one.
An insertion can be made in front of any line, behind the last one, and further behind as long as
the gap is not too large; a deletion can be made where there is a line.

* `Edit.IsInserted`, `Edit.IsDeleted`: which line has which number after an insertion and a
  deletion.
* `Edit.isInserted_filled`, `Edit.isDeleted_eraseIdx`: the lines that these two edits leave.
* `Edit.apply_positions`: when an edit can be made, what it leaves, and that it can be made in
  place.
-/

namespace TextShell.Edit

variable {lines edited : List String} {number : Nat} {text : String}

/-- The line with a number, if there is one. -/
def line? (lines : List String) (number : Nat) : Option String :=
  if number = 0 then none else lines[number - 1]?

/-- A text has been made the line with a number. -/
structure IsInserted (lines : List String) (number : Nat) (text : String) (edited : List String) :
    Prop where
  /-- There is one more line, and there are enough to reach the number. -/
  length_eq : edited.length = max (lines.length + 1) number
  /-- The text has the number. -/
  line?_self : line? edited number = some text
  /-- The lines before it are where they were. -/
  line?_of_lt : ∀ other < number, other ≤ lines.length → line? edited other = line? lines other
  /-- Where there were no lines before it, there are empty ones. -/
  line?_of_gap : ∀ other < number, lines.length < other → line? edited other = some ""
  /-- The lines behind it have moved on by one. -/
  line?_of_gt : ∀ other, number < other → line? edited other = line? lines (other - 1)

/-- The line with a number has been taken out, and no other one. -/
def IsDeleted (lines : List String) (number : Nat) (edited : List String) : Prop :=
  ∃ before line after, lines = before ++ line :: after ∧ before.length + 1 = number ∧
    edited = before ++ after

/-- The line at an index once a text has been put at another one, behind lines that were filled up
to reach it. -/
theorem getElem?_filled (lines : List String) (index : Nat) (text : String) (i : Nat) :
    (lines.take index ++ List.replicate (index - lines.length) "" ++ text :: lines.drop index)[i]? =
      if i < index then if i < lines.length then lines[i]? else some ""
      else if i = index then some text else lines[i - 1]? := by
  have hreach : (lines.take index ++ List.replicate (index - lines.length) "").length = index := by
    rw [List.length_append, List.length_take, List.length_replicate]
    omega
  by_cases hbefore : i < index
  · rw [if_pos hbefore, List.getElem?_append_left (by omega)]
    split
    next hold =>
      have htaken : i < (lines.take index).length := by
        rw [List.length_take]
        omega
      rw [List.getElem?_append_left htaken, List.getElem?_take_of_lt hbefore]
    next hnew =>
      have htaken : (lines.take index).length = lines.length := by
        rw [List.length_take]
        omega
      rw [List.getElem?_append_right (by omega), htaken, List.getElem?_replicate_of_lt (by omega)]
  · rw [if_neg hbefore, List.getElem?_append_right (by omega), hreach]
    split
    next hself => rw [hself, Nat.sub_self, List.getElem?_cons_zero]
    next hbehind =>
      -- the text itself is the first of what follows
      obtain ⟨more, rfl⟩ : ∃ more, i = index + (more + 1) := ⟨i - index - 1, by omega⟩
      rw [Nat.add_sub_cancel_left, List.getElem?_cons_succ, List.getElem?_drop]
      rfl

/-- Lines that are filled up to a number, with a text in front of those that it moves on. -/
theorem isInserted_filled (lines : List String) (text : String) (hnumber : 1 ≤ number) :
    IsInserted lines number text
      (lines.take (number - 1) ++ List.replicate (number - 1 - lines.length) "" ++
        text :: lines.drop (number - 1)) where
  length_eq := by
    simp only [List.length_append, List.length_take, List.length_replicate, List.length_cons,
      List.length_drop]
    omega
  line?_self := by
    rw [line?, if_neg (by omega), getElem?_filled, if_neg (Nat.lt_irrefl _), if_pos rfl]
  line?_of_lt other hbefore hold := by
    by_cases hzero : other = 0
    · rw [line?, line?, if_pos hzero, if_pos hzero]
    · rw [line?, line?, if_neg hzero, if_neg hzero, getElem?_filled, if_pos (by omega),
        if_pos (by omega)]
  line?_of_gap other hbefore hnew := by
    rw [line?, if_neg (by omega), getElem?_filled, if_pos (by omega), if_neg (by omega)]
  line?_of_gt other hbehind := by
    rw [line?, line?, if_neg (by omega), if_neg (by omega), getElem?_filled, if_neg (by omega),
      if_neg (by omega)]

/-- Lines without the one that has a number. -/
theorem isDeleted_eraseIdx (hnumber : 1 ≤ number) (hlast : number ≤ lines.length) :
    IsDeleted lines number (lines.eraseIdx (number - 1)) := by
  have hindex : number - 1 < lines.length := by omega
  refine ⟨lines.take (number - 1), lines[number - 1], lines.drop (number - 1 + 1), ?_, ?_, ?_⟩
  · rw [← List.drop_eq_getElem_cons hindex, List.take_append_drop]
  · rw [List.length_take]
    omega
  · exact List.eraseIdx_eq_take_drop_succ lines (number - 1)

/-- When a text can be made the line with a number. -/
theorem canInsert_iff {number : UInt64} :
    1 ≤ number.toNat ∧ number.toNat - 1 - lines.length ≤ Nat.pow 2 20 ↔
      ¬ (number = 0 ∨ maxPadding < gap number lines) := by
  rw [Nat.one_le_iff_ne_zero, Ne, toNat_eq_zero_iff, not_or, Nat.not_lt]
  rfl

/-- When there is a line with a number. -/
theorem canDelete_iff {number : UInt64} :
    1 ≤ number.toNat ∧ number.toNat ≤ lines.length ↔
      ¬ (number = 0 ∨ lines.length < number.toNat) := by
  rw [Nat.one_le_iff_ne_zero, Ne, toNat_eq_zero_iff, not_or, Nat.not_lt]

/-- Every edit by the numbers of the lines. Putting one line in place of all and adding one at the
end can always be done. A text can be made the line with a number if no more than `maxPadding` empty
lines come to stand before it, and a line can be taken out if there is one with the number;
otherwise the failure names the number. All of this can be done in place: with room for the lines,
every step is possible whatever the number is, and the lines stay as they are when the edit cannot
be made. -/
theorem apply_positions (lines : List String) (number : UInt64) (text : String) :
    (replace text).apply lines = .ok [text] ∧
    (append text).apply lines = .ok (lines ++ [text]) ∧
    (if 1 ≤ number.toNat ∧ number.toNat - 1 - lines.length ≤ Nat.pow 2 20 then
      ∃ edited, (insertAt number text).apply lines = .ok edited ∧
        IsInserted lines number.toNat text edited
    else (insertAt number text).apply lines = .error (.insertOutOfRange number.toNat.repr)) ∧
    (if 1 ≤ number.toNat ∧ number.toNat ≤ lines.length then
      ∃ edited, (deleteAt number).apply lines = .ok edited ∧ IsDeleted lines number.toNat edited
    else (deleteAt number).apply lines = .error (.deleteOutOfRange number.toNat.repr)) ∧
    (∀ hasRoom, (∀ more, hasRoom more = true) → lines.length < UInt64.size → ∀ edit : Edit,
      edit.inPlace? hasRoom lines =
        some (match edit.apply lines with
          | .ok edited => { failure? := none, lines := edited }
          | .error failure => { failure? := some failure, lines })) := by
  refine ⟨rfl, rfl, ?_, ?_, fun _ hroom hlength edit => inPlace?_eq hroom hlength edit⟩
  · rw [apply]
    split
    next hrange =>
      rw [if_neg (canInsert_iff.mp hrange)]
      exact ⟨_, rfl, isInserted_filled lines text hrange.1⟩
    next hrange =>
      rw [if_pos (Decidable.not_not.mp (mt canInsert_iff.mpr hrange))]
  · rw [apply]
    split
    next hrange =>
      rw [if_neg (canDelete_iff.mp hrange)]
      exact ⟨_, rfl, isDeleted_eraseIdx hrange.1 hrange.2⟩
    next hrange =>
      rw [if_pos (Decidable.not_not.mp (mt canDelete_iff.mpr hrange))]

/-- A text behind two lines, as the fourth one, and lines that a deletion leaves alone. -/
theorem apply_positions_behind_end :
    (∀ more, (fun _ : UInt64 => true) more = true) ∧ ["a", "b"].length < UInt64.size ∧
    (∃ edited, (insertAt 4 "d").apply ["a", "b"] = .ok edited ∧
      IsInserted ["a", "b"] 4 "d" edited) ∧
    (deleteAt 4).apply ["a", "b"] = .error (.deleteOutOfRange "4") ∧
    (deleteAt 4).inPlace? (fun _ => true) ["a", "b"] =
      some { failure? := some (.deleteOutOfRange "4"), lines := ["a", "b"] } := by
  have hroom : ∀ more, (fun _ : UInt64 => true) more = true := fun _ => rfl
  have hlength : ["a", "b"].length < UInt64.size := by decide
  obtain ⟨-, -, hinsert, hdelete, hinPlace⟩ := apply_positions ["a", "b"] 4 "d"
  rw [if_pos (by decide)] at hinsert
  rw [if_neg (by decide)] at hdelete
  exact ⟨hroom, hlength, hinsert, hdelete, hinPlace _ hroom hlength (deleteAt 4)⟩

end TextShell.Edit
