import Mathlib.Data.List.DropRight
import TextShell.Proofs.Path.Components

/-!
# File names

The last component of a path, which is what its text has behind the last slash if that is a name.
The text of such a path is that of the path above it, parts that lead nowhere, and the name.

* `Path.afterLastSlash`, `Path.fileName?`: the end of the text and the last component.
* `Path.EndsIn.fileName?_eq`: for a path with a name at its end they are that name.
* `Path.EndsIn.exists_idle`: the path above, continued by the name, lacks no more than slashes and
  dots of the path.
-/

namespace TextShell.Path

/-- The text of a path behind its last slash. -/
def afterLastSlash (path : String) : String := .ofList (path.toList.rtakeWhile (· ≠ '/'))

/-- The last component of a path, if that is a name: the root has none, and the double dot is
none. -/
def fileName? (path : String) : Option String := (components path).getLast?.filter (· ≠ "..")

theorem ne_slash_of_no_slash {text : List Char} (h : '/' ∉ text) :
    ∀ c ∈ text, decide (c ≠ '/') = true := by
  intro c hc
  rw [decide_eq_true_eq]
  rintro rfl
  exact h hc

theorem afterLastSlash_of_no_slash {path : String} (h : '/' ∉ path.toList) :
    afterLastSlash path = path := by
  have hrun := List.rtakeWhile_eq_self_iff.mpr (ne_slash_of_no_slash h)
  rw [afterLastSlash, hrun, String.ofList_toList]

theorem afterLastSlash_append (before : String) {after : String} (h : '/' ∉ after.toList) :
    afterLastSlash (before ++ "/" ++ after) = after := by
  have hrun : ∀ c ∈ after.toList.reverse, decide (c ≠ '/') = true := fun c hc =>
    ne_slash_of_no_slash h c (List.mem_reverse.mp hc)
  have hreverse : (before ++ "/" ++ after).toList.reverse =
      after.toList.reverse ++ '/' :: before.toList.reverse := by
    simp
  -- from the end, the run of other characters is cut at the last slash
  rw [afterLastSlash, List.rtakeWhile, hreverse, List.takeWhile_append_of_pos hrun]
  simp

/-- The last part of a path stands behind its last slash. -/
theorem getLast?_parts (path : String) : (parts path).getLast? = some (afterLastSlash path) := by
  by_cases hslash : '/' ∈ path.toList
  · obtain ⟨before, after, rfl, hafter⟩ := exists_last_slash hslash
    rw [parts_append_slash, parts_of_no_slash hafter, List.getLast?_concat,
      afterLastSlash_append before hafter]
  · rw [parts_of_no_slash hslash, List.getLast?_singleton, afterLastSlash_of_no_slash hslash]

section EndsIn

variable {path name : String} {above : List String}

theorem EndsIn.slash_not_mem_name (h : EndsIn path above name) : '/' ∉ name.toList := by
  obtain ⟨before, hparts, -⟩ := h.exists_parts
  have hmem : name ∈ parts path := by simp [hparts]
  exact slash_not_mem_of_mem_parts hmem

/-- The name at the end of a path is a path to that name. -/
theorem EndsIn.endsIn_name (h : EndsIn path above name) : EndsIn name [] name :=
  endsIn_of_no_slash h.slash_not_mem_name h.name_ne_empty h.ne_dot h.ne_up

theorem EndsIn.afterLastSlash_eq (h : EndsIn path above name) : afterLastSlash path = name := by
  obtain ⟨before, hparts, -⟩ := h.exists_parts
  have hlast := getLast?_parts path
  rw [hparts, List.getLast?_concat] at hlast
  exact (Option.some.inj hlast).symm

theorem EndsIn.fileName?_eq (h : EndsIn path above name) : fileName? path = some name := by
  rw [fileName?, h.components_eq, List.getLast?_concat]
  simp [h.ne_up]

end EndsIn

example : fileName? "a/.txt/./" = some ".txt" ∧ fileName? "a/.." = none ∧ fileName? "./" = none :=
  by decide +kernel

/-! ### What a path is made of -/

/-- A name continues a directory as it continues the directory with a slash behind it. -/
theorem join_eq_append (directory path : String) :
    join directory path = join directory "" ++ path := by
  unfold join
  split <;> simp

@[simp]
theorem ofParts_nil (first : String) : ofParts first [] = first := by
  simp [ofParts]

theorem ofParts_cons (first part : String) (others : List String) :
    ofParts first (part :: others) = first ++ "/" ++ ofParts part others := by
  rw [← String.toList_inj]
  simp [ofParts, List.intercalate_cons_cons]

/-- One more part stands behind one more slash. -/
theorem ofParts_append_singleton (first : String) (others : List String) (part : String) :
    ofParts first (others ++ [part]) = ofParts first others ++ "/" ++ part := by
  induction others generalizing first with
  | nil =>
    rw [List.nil_append, ofParts_cons, ofParts_nil, ofParts_nil]
  | cons other others ih =>
    rw [List.cons_append, ofParts_cons, ih, ofParts_cons]
    simp only [String.append_assoc]

/-- A path is the text of its parts. -/
theorem ofParts_of_parts {path first : String} {others : List String}
    (h : parts path = first :: others) : ofParts first others = path := by
  have hpieces : (parts path).map String.toList = path.toList.splitOn '/' := by
    simp [parts, Function.comp_def]
  rw [ofParts, ← h, hpieces, List.intercalate_splitOn, String.ofList_toList]

/-- A text that has only slashes and dots. -/
def IsIdleText (text : String) : Prop := ∀ c ∈ text.toList, c = '/' ∨ c = '.'

/-- A part that leads nowhere and the slash behind it add nothing else. -/
theorem IsIdleText.append {text part : String} (h : IsIdleText text) (hpart : isIdle part = true) :
    IsIdleText (text ++ part ++ "/") := by
  intro c hc
  rw [String.toList_append, String.toList_append, List.mem_append, List.mem_append] at hc
  obtain (hc | hc) | hc := hc
  · exact h c hc
  · obtain rfl | rfl : part = "" ∨ part = "." := by simpa [isIdle] using hpart
    · cases hc
    · exact .inr (List.mem_singleton.mp hc)
  · exact .inl (List.mem_singleton.mp hc)

/-- Behind a directory that does not end in a slash, one slash is put. -/
theorem join_of_endsInSlash_eq_false {directory : String} (path : String) (hne : directory ≠ "")
    (hslash : endsInSlash directory = false) : join directory path = directory ++ "/" ++ path := by
  rw [join, if_neg (by simp [hne, hslash])]

/-- A last part that is not empty has a slash put behind it. -/
theorem join_ofParts_append_singleton (first : String) (others : List String) {part : String}
    (path : String) (hslash : '/' ∉ part.toList) (hne : part ≠ "") :
    join (ofParts first (others ++ [part])) path =
      ofParts first (others ++ [part]) ++ "/" ++ path := by
  have hend : endsInSlash (ofParts first (others ++ [part])) = false := by
    rw [ofParts_append_singleton, endsInSlash_append _ hne, endsInSlash_of_no_slash hslash]
  have hnotEmpty : ofParts first (others ++ [part]) ≠ "" := by
    simp [ofParts_append_singleton, hne]
  exact join_of_endsInSlash_eq_false path hnotEmpty hend

/-- Behind the longest path from given parts that does not end in one that leads nowhere, or else
the root, a name has no more than such parts in front. -/
theorem exists_idle_of_ancestorsFrom {first : String} {reversed : List String} (name : String)
    (hslash : ∀ part ∈ first :: reversed, '/' ∉ part.toList) :
    ∃ idle, IsIdleText idle ∧ ofParts first (reversed.reverse ++ [name]) =
      join ((ancestorsFrom first reversed).headD "/") "" ++ idle ++ name := by
  have hnothing : IsIdleText "" := by simp [IsIdleText]
  induction reversed generalizing name with
  | nil =>
    refine ⟨"", hnothing, ?_⟩
    rw [List.reverse_nil, ofParts_append_singleton, ofParts_nil, ancestorsFrom, String.append_empty]
    split
    next hempty =>
      have hroot : join "/" "" = "/" := by decide +kernel
      rw [hempty, List.headD_nil, hroot, String.empty_append]
    next hne =>
      have hfirst := endsInSlash_of_no_slash (hslash first (List.mem_cons_self ..))
      rw [List.headD_cons, join_of_endsInSlash_eq_false _ hne hfirst, String.append_empty]
  | cons part reversed ih =>
    rw [ancestorsFrom]
    split
    next hidle =>
      -- the idle part is the last of those in front of the name
      obtain ⟨idle, hchars, htext⟩ := ih part (slash_not_mem_of_cons hslash)
      refine ⟨idle ++ part ++ "/", hchars.append hidle, ?_⟩
      rw [ofParts_append_singleton, List.reverse_cons, htext]
      simp only [String.append_assoc]
    next hidle =>
      have hpart : part ≠ "" := by
        rintro rfl
        simp [isIdle] at hidle
      -- the longest path has all of the parts, so nothing is in between
      refine ⟨"", hnothing, ?_⟩
      rw [List.headD_cons, List.reverse_cons, ofParts_append_singleton,
        join_ofParts_append_singleton _ _ _ (hslash part (by simp)) hpart]
      simp only [String.append_empty]

/-- A path with a name at its end is the one above it, parts that lead nowhere, and the name. -/
theorem EndsIn.exists_idle {path name : String} {above : List String} (h : EndsIn path above name) :
    ∃ parent idle, parent? path = some parent ∧ IsIdleText idle ∧
      path = Path.join parent "" ++ idle ++ name := by
  obtain ⟨before, hparts, -⟩ := h.exists_parts
  cases before with
  | nil =>
    -- such a path is its name
    have hpath := ofParts_of_parts hparts
    rw [ofParts_nil] at hpath
    have hparent := parent?_of_parts_singleton hparts h.isIdle_eq_false
    refine ⟨"", "", hparent, by simp [IsIdleText], ?_⟩
    rw [← hpath]
    simp [Path.join]
  | cons first middle =>
    rw [List.cons_append] at hparts
    obtain ⟨idle, hidle, htext⟩ := exists_idle_of_ancestorsFrom name (slash_not_mem_of_parts hparts)
    rw [List.reverse_reverse, ofParts_of_parts hparts] at htext
    exact ⟨_, idle, parent?_of_parts hparts h.isIdle_eq_false, hidle, htext⟩

end TextShell.Path
