import TextShell.Proofs.Edit.Undo

/-!
# Edits in another order

Two edits at different lines can be made in either order, if the number of the later line is
corrected by what the other edit does to the lines before it: each edit meets the lines at a cut of
its own, and the cuts stay where they are. Behind the end the two insertions add empty lines at
different moments. Made in the order of the lines, neither of them adds more than the insertion at
the later line would on its own, so what can be made with the later line first can be made the other
way round. The converse does not hold, since the text at the earlier line can be half of the way.

* `Edit.andThen`: one edit after another.
* `Edit.apply_insertAt_of_filled`: an insertion, told by lines that were filled up too far.
* `Edit.andThen_insertAt_insertAt`: two insertions.
* `Edit.apply_reordering`: two insertions, two deletions, and one of each.
-/

namespace TextShell.Edit

variable {edit other : Edit} {lines edited before after : List String}
  {number first last : UInt64} {text a b : String}

/-! ### Two edits -/

/-- The lines after two edits, the second of which is made on what the first one leaves, or why one
of them cannot be made. -/
def andThen (edit other : Edit) (lines : List String) : Except Failure (List String) := do
  other.apply (← edit.apply lines)

theorem andThen_of_ok {made : List String} (h : edit.apply lines = .ok made) :
    edit.andThen other lines = other.apply made := by
  unfold andThen
  rw [h]
  rfl

theorem exists_made_of_andThen (h : edit.andThen other lines = .ok edited) :
    ∃ made, edit.apply lines = .ok made ∧ other.apply made = .ok edited := by
  cases hmade : edit.apply lines with
  | ok made =>
    rw [andThen_of_ok hmade] at h
    exact ⟨made, rfl, h⟩
  | error failure =>
    unfold andThen at h
    rw [hmade] at h
    cases h

/-! ### Numbers and cuts -/

/-- The next number is one more, unless there is none. -/
theorem toNat_add_one (h : number.toNat < UInt64.size - 1) :
    (number + 1).toNat = number.toNat + 1 := by
  have hsize : number.toNat + 1 < UInt64.size := by omega
  rw [UInt64.toNat_add]
  exact Nat.mod_eq_of_lt hsize

/-- The number before is one less, unless there is none. -/
theorem toNat_sub_one (h : 1 ≤ number.toNat) : (number - 1).toNat = number.toNat - 1 :=
  UInt64.toNat_sub_of_le _ _ (UInt64.le_iff_toNat_le.mpr h)

/-- There is a cut in front of each line and one behind the last line. -/
theorem exists_cut {count : Nat} (hcount : 1 ≤ count) (h : count ≤ lines.length + 1) :
    ∃ before after, lines = before ++ after ∧ before.length + 1 = count := by
  refine ⟨lines.take (count - 1), lines.drop (count - 1), (List.take_append_drop _ _).symm, ?_⟩
  rw [List.length_take]
  omega

/-! ### Insertions -/

/-- An insertion that can be made adds no more empty lines than it may. -/
theorem padding_le_of_insertAt (h : (insertAt number text).apply lines = .ok edited) :
    number.toNat - 1 - lines.length ≤ maxPadding := by
  rw [apply] at h
  split at h
  next => cases h
  next hrange => exact Nat.not_lt.mp (not_or.mp hrange).2

/-- An insertion is made at its cut of the lines, filled up at least as far as to reach it. The empty
lines that it did not need are missing at the end. -/
theorem apply_insertAt_of_filled {count : Nat} (hcut : before.length + 1 = number.toNat)
    (hfilled : before ++ after = lines ++ List.replicate count "")
    (hreach : number.toNat - 1 - lines.length ≤ count)
    (hpadding : number.toNat - 1 - lines.length ≤ maxPadding) (text : String) :
    ∃ short extra, (insertAt number text).apply lines = .ok (before ++ text :: short) ∧
      after = short ++ List.replicate extra "" ∧
      extra + (number.toNat - 1 - lines.length) = count := by
  have hindex : number.toNat - 1 = before.length := by omega
  have hrange : ¬ (number = 0 ∨ maxPadding < gap number lines) :=
    not_or.mpr ⟨ne_zero_of_cut hcut, Nat.not_lt.mpr hpadding⟩
  rw [hindex] at hreach ⊢
  -- on either side of the cut stand lines, and then empty lines
  have hbefore : before =
      lines.take before.length ++ List.replicate (before.length - lines.length) "" := by
    have htake : (before ++ after).take before.length = before := List.take_left
    rw [hfilled, List.take_append, List.take_replicate, Nat.min_eq_left hreach] at htake
    exact htake.symm
  have hafter : after =
      lines.drop before.length ++
        List.replicate (count - (before.length - lines.length)) "" := by
    have hdrop : (before ++ after).drop before.length = after := List.drop_left
    rw [hfilled, List.drop_append, List.drop_replicate] at hdrop
    exact hdrop.symm
  refine ⟨lines.drop before.length, count - (before.length - lines.length), ?_, hafter, by omega⟩
  rw [apply, if_neg hrange, gap, hindex, ← hbefore]

/-- Two insertions that can be made with the later line first can be made the other way round, and
leave the same lines. -/
theorem andThen_insertAt_insertAt (hfirst : 1 ≤ first.toNat) (hle : first.toNat ≤ last.toNat)
    (hlast : last.toNat < UInt64.size - 1)
    (h : (insertAt last b).andThen (insertAt first a) lines = .ok edited) :
    (insertAt first a).andThen (insertAt (last + 1) b) lines = .ok edited := by
  have hnext := toNat_add_one hlast
  obtain ⟨made, hmade, hedited⟩ := exists_made_of_andThen h
  have hpadding := padding_le_of_insertAt hmade
  -- the cut at the later line, and the one at the earlier line in what stands before it
  obtain ⟨upper, after, hupper, rfl, hfilled⟩ := exists_cut_of_insertAt hmade
  have hinside : first.toNat ≤ upper.length + 1 := by omega
  obtain ⟨before, middle, rfl, hbefore⟩ := exists_cut hfirst hinside
  rw [List.length_append] at hupper
  rw [List.append_assoc, apply_insertAt_of_cut hbefore] at hedited
  obtain rfl := Except.ok.inj hedited
  -- now the other way round: the lines were filled up too far for the earlier line
  rw [List.append_assoc] at hfilled
  obtain ⟨short, extra, hinsert, hshort, hextra⟩ :=
    apply_insertAt_of_filled hbefore hfilled (by omega) (by omega) a
  have hcut : (before ++ a :: middle).length + 1 = (last + 1).toNat := by
    rw [List.length_append, List.length_cons]
    omega
  have hrefilled : (before ++ a :: middle) ++ after =
      (before ++ a :: short) ++ List.replicate extra "" := by
    rw [List.append_assoc, List.cons_append, hshort, List.append_assoc, List.cons_append]
  -- what is missing is just what the later line needs
  have hneeds : (last + 1).toNat - 1 - (before ++ a :: short).length = extra := by
    have hlengths := congrArg List.length hfilled
    rw [hshort] at hlengths
    simp only [List.length_append, List.length_cons, List.length_replicate] at hlengths ⊢
    omega
  obtain ⟨short', extra', hinsert', hafter, hextra'⟩ :=
    apply_insertAt_of_filled hcut hrefilled (by omega) (by omega) b
  have hnone : extra' = 0 := by omega
  rw [hnone, List.replicate_zero, List.append_nil] at hafter
  rw [andThen_of_ok hinsert, hinsert', hafter, List.append_assoc, List.cons_append]

/-! ### Deletions -/

/-- Two deletions can be made in either order, and leave the same lines. -/
theorem exists_andThen_deleteAt_deleteAt (hfirst : 1 ≤ first.toNat)
    (hlt : first.toNat < last.toNat) (hlast : last.toNat ≤ lines.length) :
    ∃ edited, (deleteAt last).andThen (deleteAt first) lines = .ok edited ∧
      (deleteAt first).andThen (deleteAt (last - 1)) lines = .ok edited := by
  have hsecond : 1 ≤ last.toNat := Nat.le_trans hfirst (Nat.le_of_lt hlt)
  have hprevious := toNat_sub_one hsecond
  -- the line with the later number, and the other one in what stands before it
  obtain ⟨upper, y, after, rfl, hupper, -⟩ := isDeleted_eraseIdx hsecond hlast
  have hinside : first.toNat ≤ upper.length := by omega
  obtain ⟨before, x, middle, rfl, hbefore, -⟩ := isDeleted_eraseIdx hfirst hinside
  refine ⟨before ++ (middle ++ after), ?_, ?_⟩
  · rw [andThen_of_ok (apply_deleteAt_of_cut hupper y after), List.append_assoc, List.cons_append,
      apply_deleteAt_of_cut hbefore]
  · have hcut : (before ++ middle).length + 1 = (last - 1).toNat := by
      simp only [List.length_append, List.length_cons] at hupper ⊢
      omega
    rw [List.append_assoc, List.cons_append,
      andThen_of_ok (apply_deleteAt_of_cut hbefore x _), ← List.append_assoc,
      apply_deleteAt_of_cut hcut, List.append_assoc]

/-- A deletion and an insertion that is not made behind it can be made in either order, and leave the
same lines. -/
theorem exists_andThen_deleteAt_insertAt (hfirst : 1 ≤ first.toNat)
    (hle : first.toNat ≤ last.toNat) (hlines : last.toNat ≤ lines.length)
    (hlast : last.toNat < UInt64.size - 1) (a : String) :
    ∃ edited, (deleteAt last).andThen (insertAt first a) lines = .ok edited ∧
      (insertAt first a).andThen (deleteAt (last + 1)) lines = .ok edited := by
  have hnext := toNat_add_one hlast
  obtain ⟨upper, y, after, rfl, hupper, -⟩ := isDeleted_eraseIdx (Nat.le_trans hfirst hle) hlines
  have hinside : first.toNat ≤ upper.length + 1 := by omega
  obtain ⟨before, middle, rfl, hbefore⟩ := exists_cut hfirst hinside
  refine ⟨before ++ a :: (middle ++ after), ?_, ?_⟩
  · rw [andThen_of_ok (apply_deleteAt_of_cut hupper y after), List.append_assoc,
      apply_insertAt_of_cut hbefore]
  · have hcut : (before ++ a :: middle).length + 1 = (last + 1).toNat := by
      simp only [List.length_append, List.length_cons] at hupper ⊢
      omega
    have hmoved : before ++ a :: (middle ++ y :: after) = (before ++ a :: middle) ++ y :: after := by
      rw [List.append_assoc, List.cons_append]
    rw [List.append_assoc, andThen_of_ok (apply_insertAt_of_cut hbefore a _), hmoved,
      apply_deleteAt_of_cut hcut, List.append_assoc, List.cons_append]

/-! ### In either order -/

/-- Two edits at lines with numbers, the one no later than the other, can be made in the order of the
lines instead of with the later line first, if the number of the later line is corrected. Two
insertions that can be made so can be made the other way round, also behind the end, where empty
lines are added. Two deletions of lines that are there, and a deletion behind an insertion or at its
line, can be made in both orders. All of them leave the same lines. A number that is to be corrected
upwards must not be the largest one, which is that of no line, as no memory holds so many. -/
theorem apply_reordering (lines : List String) (first last : UInt64) (a b : String)
    (hfirst : 1 ≤ first.toNat) (hle : first.toNat ≤ last.toNat) :
    (last.toNat < UInt64.size - 1 → ∀ edited,
      (insertAt last b).andThen (insertAt first a) lines = .ok edited →
        (insertAt first a).andThen (insertAt (last + 1) b) lines = .ok edited) ∧
    (first.toNat < last.toNat → last.toNat ≤ lines.length → ∃ edited,
      (deleteAt last).andThen (deleteAt first) lines = .ok edited ∧
        (deleteAt first).andThen (deleteAt (last - 1)) lines = .ok edited) ∧
    (last.toNat ≤ lines.length → last.toNat < UInt64.size - 1 → ∃ edited,
      (deleteAt last).andThen (insertAt first a) lines = .ok edited ∧
        (insertAt first a).andThen (deleteAt (last + 1)) lines = .ok edited) := by
  refine ⟨?_, ?_, ?_⟩
  · intro hlast edited h
    exact andThen_insertAt_insertAt hfirst hle hlast h
  · intro hlt hlines
    exact exists_andThen_deleteAt_deleteAt hfirst hlt hlines
  · intro hlines hlast
    exact exists_andThen_deleteAt_insertAt hfirst hle hlines hlast a

/-- Two texts behind the end, a pair of deletions, and a line that is taken out and replaced. -/
theorem apply_reordering_behind_end :
    (insertAt 3 "c").andThen (insertAt 6 "f") ["a"] = .ok ["a", "", "c", "", "", "f"] ∧
    (∃ edited, (deleteAt 3).andThen (deleteAt 1) ["a", "b", "c"] = .ok edited ∧
      (deleteAt 1).andThen (deleteAt 2) ["a", "b", "c"] = .ok edited) ∧
    (∃ edited, (deleteAt 2).andThen (insertAt 2 "x") ["a", "b", "c"] = .ok edited ∧
      (insertAt 2 "x").andThen (deleteAt 3) ["a", "b", "c"] = .ok edited) := by
  have hmade : (insertAt 5 "f").andThen (insertAt 3 "c") ["a"] =
      .ok ["a", "", "c", "", "", "f"] := by
    decide +kernel
  refine ⟨?_, ?_, ?_⟩
  · exact (apply_reordering ["a"] 3 5 "c" "f" (by decide) (by decide)).1 (by decide) _ hmade
  · exact (apply_reordering ["a", "b", "c"] 1 3 "" "" (by decide) (by decide)).2.1 (by decide)
      (by decide)
  · exact (apply_reordering ["a", "b", "c"] 2 2 "x" "" (by decide) (by decide)).2.2 (by decide)
      (by decide)

end TextShell.Edit
