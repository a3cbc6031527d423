import TextShell.Proofs.FileSystem.Walk
import TextShell.Proofs.Path.FileName

/-!
# Paths that lead alike

Paths whose texts differ and that lead to the same place whatever the files are. Dots between the
names of a path make no difference to it, whether it leads somewhere or fails, and so a path with a
name at its end leads where the name in the path above it does. Only a text that is too long to be
followed may be a detour of one that is not.

* `FileSystem.walk_filter`: dots before the last name make no difference.
* `FileSystem.LeadsAs`: a path leads where another does.
* `FileSystem.leadsAs_join_parent?`: a path leads where its last name in the path above does.
-/

namespace TextShell.FileSystem

variable {fs : FileSystem} {purpose : Purpose} {links : Nat} {here : Location} {names : List String}
  {last path other : String} {slash : Bool}

/-! ### Dots between names -/

/-- Whether a directory is asked for does not depend on dots before the last name. -/
theorem asksForDirectory_filter (slash : Bool) (names : List String) (last : String) :
    asksForDirectory slash (names ++ [last]) =
      asksForDirectory slash (names.filter (· ≠ ".") ++ [last]) := by
  induction names with
  | nil => rfl
  | cons name rest ih =>
    by_cases hdot : name = "."
    · have hrest : (rest ++ [last]).isEmpty = false := by simp
      rw [List.filter_cons_of_neg (by simp [hdot]), ← ih, List.cons_append, asksForDirectory, hrest]
      simp [hdot]
    · rw [List.filter_cons_of_pos (by simpa using hdot), List.cons_append, List.cons_append]
      simp [asksForDirectory, hdot]

/-- Following names does not depend on dots before the last one, if what comes after a link does
not. -/
theorem descend_filter {follow : Location → List String → Bool → Except FileFault Spot}
    (hfollow : ∀ here names slash, follow here (names ++ [last]) slash =
      follow here (names.filter (· ≠ ".") ++ [last]) slash)
    (slash : Bool) (here : Location) (names : List String) :
    fs.descend purpose follow slash here (names ++ [last]) =
      fs.descend purpose follow slash here (names.filter (· ≠ ".") ++ [last]) := by
  induction names generalizing here with
  | nil => rfl
  | cons name rest ih =>
    by_cases hdot : name = "."
    · -- the dot is passed over
      rw [List.filter_cons_of_neg (by simp [hdot]), ← ih, List.cons_append, descend, if_pos hdot]
    · rw [List.filter_cons_of_pos (by simpa using hdot), List.cons_append, List.cons_append]
      -- with or without the dots, this name is not the last one
      have hrest : rest ++ [last] ≠ [] := by simp
      have hother : rest.filter (· ≠ ".") ++ [last] ≠ [] := by simp
      have hlink (start : Location) (target : String) :
          follow start (Path.names target ++ (rest ++ [last])) slash =
            follow start (Path.names target ++ (rest.filter (· ≠ ".") ++ [last])) slash := by
        rw [← List.append_assoc, ← List.append_assoc, hfollow,
          hfollow _ (Path.names target ++ rest.filter (· ≠ "."))]
        simp only [List.filter_append, List.filter_filter, Bool.and_self]
      have hslash := asksForDirectory_filter slash rest last
      simp only [descend, hdot, hrest, hother, hslash, false_and, and_false, if_false, ih, hlink]

/-- Dots before the last name make no difference to where names lead. -/
theorem walk_filter (fs : FileSystem) (purpose : Purpose) (links : Nat) (here : Location)
    (names : List String) (last : String) (slash : Bool) :
    fs.walk purpose links here (names ++ [last]) slash =
      fs.walk purpose links here (names.filter (· ≠ ".") ++ [last]) slash := by
  induction links generalizing here names slash with
  | zero => exact descend_filter (fun _ _ _ => rfl) slash here names
  | succ links ih => exact descend_filter ih slash here names

/-! ### Paths that lead alike -/

/-- A path leads where another does, whatever the files are and whatever it is followed for. -/
structure LeadsAs (path other : String) : Prop where
  /-- The names along both come to the same spot or fail alike. -/
  walk_eq (fs : FileSystem) (purpose : Purpose) (links : Nat) :
    fs.walk purpose links (fs.pathStart path) (Path.names path) (Path.endsInSlash path) =
      fs.walk purpose links (fs.pathStart other) (Path.names other) (Path.endsInSlash other)
  /-- Both have the same location or fail to have one alike. -/
  location_eq (fs : FileSystem) : fs.locate .location path = fs.locate .location other
  /-- Nothing but the length of its text keeps the one from being followed as the other is. -/
  locate_eq (fs : FileSystem) (purpose : Purpose) :
    fs.locate purpose path = fs.locate purpose other ∨
      pathLimit ≤ path.utf8ByteSize ∧ fs.locate purpose path = .error .nameTooLong

theorem locate_of_zero (h : '\x00' ∈ path.toList) :
    fs.locate purpose path = .error .zeroCharacter := if_pos h

/-- Paths with the same names, dots aside, and the same start lead alike, if the text of the second
is no longer than that of the first. -/
theorem LeadsAs.of_endsIn {name : String} {above around : List String}
    (h : Path.EndsIn path above name) (hother : Path.EndsIn other around name)
    (habsolute : Path.isAbsolute path = Path.isAbsolute other)
    (hnames : above.filter (· ≠ ".") = around.filter (· ≠ "."))
    (hzero : '\x00' ∈ path.toList ↔ '\x00' ∈ other.toList)
    (hsize : other.utf8ByteSize ≤ path.utf8ByteSize) : LeadsAs path other := by
  have hwalk (fs : FileSystem) (purpose : Purpose) (links : Nat) :
      fs.walk purpose links (fs.pathStart path) (Path.names path) (Path.endsInSlash path) =
        fs.walk purpose links (fs.pathStart other) (Path.names other) (Path.endsInSlash other) := by
    rw [h.names_eq, h.no_slash, hother.names_eq, hother.no_slash, pathStart, pathStart, habsolute,
      walk_filter, hnames, ← walk_filter]
  -- where the one text can be followed, so can the other, as it is no longer
  have hlocate (fs : FileSystem) (purpose : Purpose) (hmem : '\x00' ∉ path.toList)
      (hshort : ¬ (purpose ≠ .location ∧ pathLimit ≤ path.utf8ByteSize)) :
      fs.locate purpose path = fs.locate purpose other := by
    have hfollowable : IsFollowable purpose path := ⟨hmem, h.ne_empty, hshort⟩
    have hfollowed : IsFollowable purpose other :=
      ⟨mt hzero.mpr hmem, hother.ne_empty, fun hlong => hshort ⟨hlong.1, hlong.2.trans hsize⟩⟩
    rw [hfollowable.locate_eq, hfollowed.locate_eq, hwalk]
  by_cases hmem : '\x00' ∈ path.toList
  · have hbad (fs : FileSystem) (purpose : Purpose) :
        fs.locate purpose path = fs.locate purpose other := by
      rw [locate_of_zero hmem, locate_of_zero (hzero.mp hmem)]
    exact ⟨hwalk, fun fs => hbad fs .location, fun fs purpose => .inl (hbad fs purpose)⟩
  · refine ⟨hwalk, fun fs => hlocate fs .location hmem (by simp), fun fs purpose => ?_⟩
    by_cases hlong : purpose ≠ .location ∧ pathLimit ≤ path.utf8ByteSize
    · exact .inr ⟨hlong.2, by rw [locate, if_neg hmem, if_neg h.ne_empty, if_pos hlong]⟩
    · exact .inl (hlocate fs purpose hmem hlong)

/-- A path with a name at its end leads where that name in the path above it does. -/
theorem exists_leadsAs_join_parent? {name : String} {above : List String}
    (h : Path.EndsIn path above name) :
    ∃ parent, Path.parent? path = some parent ∧ LeadsAs path (Path.join parent name) := by
  obtain ⟨parent, hparent, habsolute, hcomponents⟩ := h.exists_parent?
  obtain ⟨found, idle, hfound, hidle, hpath⟩ := h.exists_idle
  obtain rfl : found = parent := Option.some.inj (hfound.symm.trans hparent)
  have hjoin := Path.join_eq_append found name
  refine ⟨found, hparent, .of_endsIn h (h.endsIn_name.join found) ?_ ?_ ?_ ?_⟩
  · by_cases hempty : found = ""
    · -- below the working directory there is the name only, and it has no slash
      have hname : Path.isAbsolute name = false := by
        rw [Path.isAbsolute, decide_eq_false_iff_not]
        exact fun hhead => h.slash_not_mem_name (List.mem_of_head? hhead)
      subst hempty
      rw [← habsolute, Path.join, if_pos (.inl rfl), String.empty_append, hname]
      rfl
    · rw [Path.isAbsolute_join_of_ne_empty name hempty, habsolute]
  · rw [← hcomponents, List.append_nil, Path.components]
  · have hnone : '\x00' ∉ idle.toList := fun hmem => by
      obtain hslash | hdot := hidle _ hmem
      · cases hslash
      · cases hdot
    rw [hjoin, hpath]
    simp [hnone]
  · rw [hjoin, hpath]
    simp only [String.utf8ByteSize_append]
    omega

end TextShell.FileSystem
