import TextShell.Session.CommandTable
import TextShell.Text.Blank

/-!
# Blank lines

A blank character is its own upper case and no letter, so no part of a blank line names a verb. To
pass over blank lines therefore never hides a command.

* `Text.uppercaseChar_of_isBlank`: blank characters have no other upper case.
* `Verb.ofWord?_of_isBlank`: a word of blank characters names no verb.
-/

namespace TextShell

namespace Text

/-- A point inside a set lies in one of its ranges. -/
theorem CodePointSet.exists_range_of_inside {changes : List Nat} {point : Nat}
    (hpoint : point ≤ 0x10FFFF) (h : inside changes point = true) :
    ∃ range ∈ rangesFrom changes, range.1 ≤ point ∧ point ≤ range.2 := by
  fun_induction rangesFrom changes with
  | case1 => cases h
  | case2 first =>
    have hfirst : first ≤ point := by simpa [inside] using h
    exact ⟨_, List.mem_singleton_self _, hfirst, hpoint⟩
  | case3 first next changes ih =>
    simp only [inside] at h
    have hfirst : ¬ point < first := by
      intro hlt
      simp [hlt] at h
    by_cases hnext : point < next
    · have hbounds : first ≤ point ∧ point ≤ next - 1 := by omega
      exact ⟨_, List.mem_cons_self, hbounds⟩
    · obtain ⟨range, hrange, hbounds⟩ := ih (by simpa [hfirst, hnext] using h)
      exact ⟨range, List.mem_cons_of_mem _ hrange, hbounds⟩

/-- A blank character is its own upper case. -/
theorem uppercaseChar_of_isBlank {c : Char} (h : isBlank c = true) : uppercaseChar c = [c] := by
  have hpoints : ∀ range ∈ whiteSpace.ranges,
      ∀ point ∈ List.range' range.1 (range.2 + 1 - range.1), uppercasePoints point = [point] := by
    decide +kernel
  have hbound : c.toNat ≤ 0x10FFFF := by
    rcases c.valid with hlow | ⟨-, hhigh⟩
    · exact Nat.le_of_lt (Nat.lt_trans hlow (by decide))
    · exact Nat.le_of_lt_succ hhigh
  obtain ⟨range, hrange, hfirst, hlast⟩ := CodePointSet.exists_range_of_inside hbound h
  have hpoint : c.toNat ∈ List.range' range.1 (range.2 + 1 - range.1) := by
    rw [List.mem_range'_1]
    omega
  rw [uppercaseChar, hpoints range hrange c.toNat hpoint, List.map_singleton, Char.ofNat_toNat]

/-- A text of blank characters is its own upper case. -/
theorem uppercase_of_isBlank {text : List Char} (h : ∀ c ∈ text, isBlank c = true) :
    uppercase text = text := by
  induction text with
  | nil => rfl
  | cons c rest ih =>
    obtain ⟨hc, hrest⟩ := List.forall_mem_cons.mp h
    have ih := ih hrest
    rw [uppercase] at ih ⊢
    rw [List.flatMap_cons, uppercaseChar_of_isBlank hc, ih, List.singleton_append]

end Text

/-- A word of blank characters names no verb. -/
theorem Verb.ofWord?_of_isBlank {word : String} (h : ∀ c ∈ word.toList, Text.isBlank c = true) :
    ofWord? word = none := by
  -- every spelling has a character that is not blank
  have hspelling : ∀ verb ∈ all, verb.spelling.toList.any (fun c => !Text.isBlank c) = true := by
    decide
  rw [ofWord?, List.find?_eq_none]
  intro verb hverb heq
  rw [decide_eq_true_eq, Text.uppercase_of_isBlank h] at heq
  obtain ⟨c, hc, hnot⟩ := List.any_eq_true.mp (hspelling verb hverb)
  rw [← heq] at hc
  simp [h c hc] at hnot

end TextShell
