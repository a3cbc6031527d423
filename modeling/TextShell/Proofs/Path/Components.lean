import TextShell.Proofs.Path.Names

/-!
# The components of a path

The names along a path that lead on: the dot stays where it is and is no component. The path above a
path has all its components but the last, whichever idle parts stand between them.

* `Path.components`: the components of a path.
* `Path.isAbsolute_iff_of_parts`: an absolute path has the empty part in front.
* `Path.ancestors_of_suffix`: the paths above one of those above a path are the ones left.
* `Path.EndsIn.exists_parent?`: what is above a path with a name at its end.
-/

namespace TextShell.Path

/-- The names along a path without the dots, which stay where they are. -/
def components (path : String) : List String := (names path).filter (· ≠ ".")

/-- Leaving out the empty parts and then the dots leaves out all that lead nowhere. -/
theorem filter_ne_dot_filter (parts : List String) :
    (parts.filter (· ≠ "")).filter (· ≠ ".") = parts.filter (!isIdle ·) := by
  rw [List.filter_filter]
  apply List.filter_congr
  intro part _
  simp [isIdle, Bool.and_comm]

theorem components_eq (path : String) :
    components path = (parts path).filter (!isIdle ·) :=
  filter_ne_dot_filter _

/-- The double dot is among the components if it is among the names. -/
theorem up_mem_components {path : String} : ".." ∈ components path ↔ ".." ∈ names path := by
  simp [components]

theorem EndsIn.name_ne_empty {path : String} {above : List String} {name : String}
    (h : EndsIn path above name) : name ≠ "" := by
  have hmem : name ∈ names path := by simp [h.names_eq]
  simpa [names] using (List.mem_filter.mp hmem).2

theorem EndsIn.isIdle_eq_false {path : String} {above : List String} {name : String}
    (h : EndsIn path above name) : isIdle name = false := by
  simp [isIdle, h.ne_dot, h.name_ne_empty]

theorem EndsIn.components_eq {path : String} {above : List String} {name : String}
    (h : EndsIn path above name) : components path = above.filter (· ≠ ".") ++ [name] := by
  unfold components
  rw [h.names_eq, List.filter_append]
  simp [h.ne_dot]

/-- A continued path has the components of the directory and then its own. -/
theorem components_join (directory path : String) :
    components (join directory path) = components directory ++ components path := by
  unfold components
  rw [names_join, List.filter_append]

/-! ### Absolute paths -/

/-- No part of a path has a slash. -/
theorem slash_not_mem_of_mem_parts {path part : String} (h : part ∈ parts path) :
    '/' ∉ part.toList := by
  obtain ⟨piece, hpiece, rfl⟩ := List.mem_map.mp h
  rw [String.toList_ofList]
  clear h
  generalize path.toList = text at hpiece
  -- each character either ends a piece or stands in front of the first of the others
  induction text generalizing piece with
  | nil =>
    rw [List.splitOn_nil, List.mem_singleton] at hpiece
    simp [hpiece]
  | cons char rest ih =>
    rw [List.splitOn_cons_eq_if_modifyHead] at hpiece
    split at hpiece
    next =>
      obtain rfl | hpiece := List.mem_cons.mp hpiece
      · simp
      · exact ih _ hpiece
    next hchar =>
      have hne : '/' ≠ char := by
        rintro rfl
        simp at hchar
      obtain ⟨first, others, hsplit⟩ := List.exists_cons_of_ne_nil (List.splitOn_ne_nil '/' rest)
      rw [hsplit] at hpiece ih
      rw [List.modifyHead_cons] at hpiece
      obtain rfl | hpiece := List.mem_cons.mp hpiece
      · simpa [hne] using ih first (List.mem_cons_self ..)
      · exact ih _ (List.mem_cons_of_mem _ hpiece)

theorem slash_not_mem_of_cons {first part : String} {others : List String}
    (h : ∀ other ∈ first :: part :: others, '/' ∉ other.toList) :
    ∀ other ∈ first :: others, '/' ∉ other.toList := fun other hother =>
  h other (List.cons_subset_cons first (List.subset_cons_self part others) hother)

/-- No part has a slash, also where the last of them are left off and the others are given the
other way round. -/
theorem slash_not_mem_of_parts {path first : String} {middle last : List String}
    (h : parts path = first :: (middle ++ last)) :
    ∀ part ∈ first :: middle.reverse, '/' ∉ part.toList := by
  intro part hpart
  have hmem : part ∈ parts path := by
    rw [h, ← List.cons_append]
    exact List.mem_append_left _ (by simpa using hpart)
  exact slash_not_mem_of_mem_parts hmem

/-- An absolute path has the empty part in front of others. -/
theorem isAbsolute_iff_of_parts {path first : String} {others : List String}
    (h : parts path = first :: others) : isAbsolute path = true ↔ first = "" ∧ others ≠ [] := by
  unfold parts at h
  cases htext : path.toList with
  | nil =>
    rw [htext, List.splitOn_nil, List.map_singleton] at h
    obtain ⟨-, rfl⟩ := List.cons.inj h
    simp [isAbsolute, htext]
  | cons char rest =>
    obtain ⟨piece, pieces, hsplit⟩ := List.exists_cons_of_ne_nil (List.splitOn_ne_nil '/' rest)
    rw [htext, List.splitOn_cons_eq_if_modifyHead, hsplit] at h
    -- the first part is empty exactly if the first character ends it
    split at h
    next hchar =>
      obtain rfl : char = '/' := by simpa using hchar
      obtain ⟨rfl, rfl⟩ := List.cons.inj h
      simp [isAbsolute, htext]
    next hchar =>
      obtain ⟨rfl, -⟩ := List.cons.inj h
      have hne : char ≠ '/' := by simpa using hchar
      simp [isAbsolute, htext, hne, ← String.toList_inj]

/-- A directory and what continues it are absolute together, unless the directory is the empty
text. -/
theorem isAbsolute_join_of_ne_empty {directory : String} (path : String) (h : directory ≠ "") :
    isAbsolute (join directory path) = isAbsolute directory := by
  obtain ⟨c, rest, htext⟩ := List.exists_cons_of_ne_nil (mt String.toList_eq_nil_iff.mp h)
  unfold join
  split <;> simp [isAbsolute, htext]

/-- What continues an absolute directory is absolute. -/
theorem isAbsolute_join {directory : String} (path : String) (h : isAbsolute directory = true) :
    isAbsolute (join directory path) = true := by
  have hne : directory ≠ "" := by
    rintro rfl
    exact absurd h (by decide)
  rw [isAbsolute_join_of_ne_empty path hne, h]

/-- In an absolute directory every path stands for an absolute one. -/
theorem isAbsolute_resolve {directory : String} (path : String)
    (h : isAbsolute directory = true) : isAbsolute (resolve directory path) = true := by
  unfold resolve
  split
  next habsolute => exact habsolute
  next => exact isAbsolute_join path h

/-- The text of a path has the parts that it is made from. -/
theorem parts_ofParts {first : String} {others : List String}
    (hslash : ∀ part ∈ first :: others, '/' ∉ part.toList) :
    parts (ofParts first others) = first :: others := by
  have hpieces : ∀ piece ∈ (first :: others).map String.toList, '/' ∉ piece := by
    intro piece hpiece
    obtain ⟨part, hpart, rfl⟩ := List.mem_map.mp hpiece
    exact hslash part hpart
  have hsplit := List.splitOn_intercalate '/' hpieces (by simp)
  unfold parts ofParts
  rw [String.toList_ofList, hsplit, List.map_map]
  simp

/-! ### The path above -/

/-- A path whose last part is a name ends in that name. -/
theorem endsIn_of_parts {path name : String} {before : List String}
    (h : parts path = before ++ [name]) (hidle : isIdle name = false) (hup : name ≠ "..") :
    EndsIn path (before.filter (· ≠ "")) name := by
  obtain ⟨hempty, hdot⟩ : name ≠ "" ∧ name ≠ "." := by simpa [isIdle] using hidle
  refine ⟨by simp [names, h, hempty], hdot, hup, ?_⟩
  rw [← Bool.not_eq_true]
  intro hslash
  -- with a slash at the end, the last part would be empty
  obtain ⟨start, rfl⟩ := exists_eq_append_slash hslash
  have hparts := parts_append_slash start ""
  rw [String.append_empty, h] at hparts
  have hlast := congrArg List.getLast? hparts
  simp [parts, hempty] at hlast

/-- The last part of a path with a name at its end is that name. -/
theorem EndsIn.exists_parts {path : String} {above : List String} {name : String}
    (h : EndsIn path above name) :
    ∃ before, parts path = before ++ [name] ∧ above = before.filter (· ≠ "") := by
  have hlast : ∃ before last, parts path = before ++ [last] ∧ last ≠ "" := by
    by_cases hslash : '/' ∈ path.toList
    · obtain ⟨before, last, rfl, hlast⟩ := exists_last_slash hslash
      refine ⟨parts before, last, ?_, ?_⟩
      · rw [parts_append_slash, parts_of_no_slash hlast]
      · -- no slash is at the end, so the last part is not empty
        rintro rfl
        have hnone := h.no_slash
        simp [endsInSlash] at hnone
    · exact ⟨[], path, by rw [parts_of_no_slash hslash, List.nil_append], h.ne_empty⟩
  obtain ⟨before, last, hparts, hne⟩ := hlast
  have hnames := h.names_eq
  rw [names, hparts, List.filter_append, List.filter_cons_of_pos (by simpa using hne),
    List.filter_nil] at hnames
  obtain ⟨habove, hname⟩ := List.append_inj' hnames rfl
  obtain rfl := List.singleton_inj.mp hname
  exact ⟨before, hparts, habove.symm⟩

section Ancestors

variable {first path : String} {reversed above : List String}

/-- A path has the parts that it is made from, also where the last part is given first. -/
theorem parts_ofParts_reverse {part : String}
    (hslash : ∀ other ∈ first :: part :: reversed, '/' ∉ other.toList) :
    parts (ofParts first (part :: reversed).reverse) = first :: (reversed.reverse ++ [part]) := by
  rw [← List.reverse_cons]
  apply parts_ofParts
  intro other hother
  exact hslash other (by simpa [or_comm] using hother)

/-- The paths above one of the paths from given parts are those that come after it. -/
theorem ancestors_of_suffix_ancestorsFrom
    (hslash : ∀ part ∈ first :: reversed, '/' ∉ part.toList)
    (h : path :: above <:+ ancestorsFrom first reversed) : ancestors path = path :: above := by
  induction reversed with
  | nil =>
    rw [ancestorsFrom] at h
    split at h
    next => simp at h
    next hne =>
      obtain ⟨rfl, rfl⟩ : path = first ∧ above = [] := by
        simpa [List.suffix_cons_iff] using h
      have hparts := parts_of_no_slash (hslash path (by simp))
      rw [ancestors, hparts]
      dsimp only
      rw [List.reverse_nil, ancestorsFrom, if_neg hne]
  | cons part reversed ih =>
    rw [ancestorsFrom] at h
    split at h
    next => exact ih (slash_not_mem_of_cons hslash) h
    next hidle =>
      obtain heq | hsuffix := List.suffix_cons_iff.mp h
      · obtain ⟨rfl, rfl⟩ := List.cons.inj heq
        rw [ancestors, parts_ofParts_reverse hslash]
        dsimp only
        rw [List.reverse_append, List.reverse_reverse, List.reverse_singleton,
          List.singleton_append, ancestorsFrom, if_neg hidle]
      · exact ih (slash_not_mem_of_cons hslash) hsuffix

/-- The paths above one of those above a path are those that come after it. -/
theorem ancestors_of_suffix {other : String} (h : path :: above <:+ ancestors other) :
    ancestors path = path :: above := by
  unfold ancestors at h
  split at h
  next => simp at h
  next first others hparts =>
    rw [← List.append_nil others] at hparts
    exact ancestors_of_suffix_ancestorsFrom (slash_not_mem_of_parts hparts) h

/-- The longest path that does not end in a part that leads nowhere, or else the root, has the parts
that lead on for its components, and it is absolute if the first part is empty. -/
theorem components_headD_ancestorsFrom
    (hslash : ∀ part ∈ first :: reversed, '/' ∉ part.toList) :
    isAbsolute ((ancestorsFrom first reversed).headD "/") = decide (first = "") ∧
      components ((ancestorsFrom first reversed).headD "/") =
        (first :: reversed.reverse).filter (!isIdle ·) := by
  induction reversed with
  | nil =>
    rw [ancestorsFrom]
    split
    next hempty =>
      subst hempty
      decide +kernel
    next hne =>
      have hparts := parts_of_no_slash (hslash first (by simp))
      rw [List.headD_cons, components_eq, hparts, Bool.eq_iff_iff, isAbsolute_iff_of_parts hparts]
      simp [hne]
  | cons part reversed ih =>
    rw [ancestorsFrom]
    split
    next hidle =>
      -- an idle part at the end is left off
      obtain ⟨habsolute, hcomponents⟩ := ih (slash_not_mem_of_cons hslash)
      refine ⟨habsolute, ?_⟩
      have hdrop : [part].filter (!isIdle ·) = [] := by simp [hidle]
      rw [hcomponents, List.reverse_cons, ← List.cons_append, List.filter_append, hdrop,
        List.append_nil]
    next =>
      have hparts := parts_ofParts_reverse hslash
      rw [List.headD_cons, components_eq, hparts, Bool.eq_iff_iff, isAbsolute_iff_of_parts hparts]
      simp

end Ancestors

/-- A single name lies in the working directory. -/
theorem parent?_of_parts_singleton {path name : String} (h : parts path = [name])
    (hidle : isIdle name = false) : parent? path = some "" := by
  have hempty : name ≠ "" := by
    rintro rfl
    simp [isIdle] at hidle
  have habsolute : isAbsolute path = false := by
    rw [← Bool.not_eq_true, isAbsolute_iff_of_parts h]
    simp
  rw [parent?, ancestors, h]
  dsimp only
  rw [List.reverse_nil, ancestorsFrom, if_neg hempty, habsolute]
  rfl

/-- What is above a name is the longest path from the parts before it, or else the root. -/
theorem parent?_of_parts {path first name : String} {middle : List String}
    (h : parts path = first :: (middle ++ [name])) (hidle : isIdle name = false) :
    parent? path = some ((ancestorsFrom first middle.reverse).headD "/") := by
  -- the first of the paths that are left is the path itself
  have hancestors : ∃ itself,
      ancestors path = itself :: ancestorsFrom first middle.reverse := by
    rw [ancestors, h]
    dsimp only
    rw [List.reverse_append, List.reverse_singleton, List.singleton_append, ancestorsFrom,
      if_neg (by simp [hidle])]
    exact ⟨_, rfl⟩
  obtain ⟨itself, hancestors⟩ := hancestors
  rw [parent?, hancestors]
  cases hrest : ancestorsFrom first middle.reverse with
  | nil =>
    -- nothing is left above the root only
    have hpath : isAbsolute path = decide (first = "") := by
      rw [Bool.eq_iff_iff, isAbsolute_iff_of_parts h]
      simp
    obtain ⟨habsolute, -⟩ := components_headD_ancestorsFrom (slash_not_mem_of_parts h)
    rw [hrest, ← hpath] at habsolute
    rw [← habsolute]
    rfl
  | cons parent rest => rfl

/-- The path above one with a name at its end: it starts where that starts, and its components are
those before the name. -/
theorem EndsIn.exists_parent? {path : String} {above : List String} {name : String}
    (h : EndsIn path above name) :
    ∃ parent, parent? path = some parent ∧ isAbsolute parent = isAbsolute path ∧
      components parent = above.filter (· ≠ ".") := by
  obtain ⟨before, hparts, rfl⟩ := h.exists_parts
  cases before with
  | nil =>
    rw [List.nil_append] at hparts
    have habsolute : isAbsolute path = false := by
      rw [← Bool.not_eq_true, isAbsolute_iff_of_parts hparts]
      simp
    refine ⟨"", parent?_of_parts_singleton hparts h.isIdle_eq_false, ?_, ?_⟩
    · rw [habsolute]
      decide
    · decide
  | cons first middle =>
    rw [List.cons_append] at hparts
    have hpath : isAbsolute path = decide (first = "") := by
      rw [Bool.eq_iff_iff, isAbsolute_iff_of_parts hparts]
      simp
    obtain ⟨habsolute, hcomponents⟩ :=
      components_headD_ancestorsFrom (slash_not_mem_of_parts hparts)
    refine ⟨_, parent?_of_parts hparts h.isIdle_eq_false, habsolute.trans hpath.symm, ?_⟩
    rw [hcomponents, List.reverse_reverse, filter_ne_dot_filter]

/-- The path above a path is the root, the empty path, or the first of those from which it is made. -/
theorem ancestors_of_parent? {path parent : String} (h : parent? path = some parent) :
    parent = "/" ∨ parent = "" ∨ ∃ above, ancestors parent = parent :: above := by
  unfold parent? at h
  split at h
  next => cases h
  next =>
    obtain rfl := Option.some.inj h
    split
    · exact .inl rfl
    · exact .inr (.inl rfl)
  next itself found above hancestors =>
    obtain rfl := Option.some.inj h
    have hsuffix : found :: above <:+ ancestors path := by
      rw [hancestors]
      exact List.suffix_cons ..
    exact .inr (.inr ⟨above, ancestors_of_suffix hsuffix⟩)

end TextShell.Path
