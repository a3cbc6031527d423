import TextShell.Proofs.FileSystem.Repetition
import TextShell.Proofs.Path.Components

/-!
# New directories

A directory that is made holds nothing yet. When the directories along a path that never goes up are
ensured, either all of them were there and nothing changes, or the path leads into a new directory:
the longest one was missing, and whatever was made on the way to it is on the path. With double dots
this is not so, as the path may go on from a new directory to old ones.

* `FileSystem.WellFormed.makeDirectories`: a tree stays a tree.
* `FileSystem.EntersEmpty`: names lead into a directory that holds nothing.
* `FileSystem.eq_or_entersEmpty_of_makeDirectories`: nothing changes or a new directory is entered.
* `FileSystem.isDirectory_of_parent?`: the path above a path leads to a directory once it is made.
* `FileSystem.exists_reaches_of_makeDirectories`: the path itself then comes to a missing entry.
-/

namespace TextShell.FileSystem

variable {fs made : FileSystem} {path name : String} {above : List String} {purpose : Purpose}
  {spot : Spot}

/-! ### Trees -/

theorem WellFormed.makeDirectory (hfs : fs.WellFormed) (h : fs.makeDirectory path = .ok made) :
    made.WellFormed := by
  obtain ⟨directory, name, hlocate, rfl⟩ := makeDirectory_eq_ok_iff.mp h
  obtain ⟨-, hwalks⟩ := locate_eq_ok_iff.mp hlocate
  have hdirectory := hwalks.lookup_of_vacant hfs (hfs.lookup_pathStart path)
  exact hfs.put hdirectory (by simp [(missing_of_vacant hlocate).2]) _

/-- A tree stays a tree when directories are made, also when this fails half way. -/
theorem WellFormed.makeAncestors (hfs : fs.WellFormed) (paths : List String) :
    (fs.makeAncestors paths).1.WellFormed :=
  makeAncestors_induction (motive := WellFormed) (fun hfs hmake => hfs.makeDirectory hmake) hfs
    paths

/-! ### Empty directories -/

/-- Names lead into a directory that holds nothing. -/
def EntersEmpty (fs : FileSystem) (start : Location) (names : List String) : Prop :=
  ∃ left there, Enters fs linkLimit start names left there ∧
    ∀ name, fs.lookup (name :: there) = none

/-- A path that leads anywhere from an empty directory comes to a missing entry. -/
theorem EntersEmpty.exists_reaches (hends : Path.EndsIn path above name)
    (hempty : fs.EntersEmpty (fs.pathStart path) (above.filter (· ≠ ".")))
    (hpurpose : purpose ≠ .location) (h : fs.locate purpose path = .ok spot) :
    ∃ directory, fs.Reaches path directory name ∧ fs.lookup (name :: directory) = none := by
  obtain ⟨_, _, hreaches, -⟩ := exists_reaches_of_locate hends hpurpose h
  obtain ⟨left, there, henters, hnone⟩ := hempty
  exact ⟨there, ⟨hreaches.isFollowable, hreaches.isEntryName, above, left, hends,
    enters_filter_iff.mp henters⟩, hnone name⟩

/-- No directory is where a path comes to from an empty directory. -/
theorem EntersEmpty.isDirectory_eq_false (hends : Path.EndsIn path above name)
    (hempty : fs.EntersEmpty (fs.pathStart path) (above.filter (· ≠ "."))) :
    fs.isDirectory path = false := by
  rw [← Bool.not_eq_true]
  intro hdirectory
  obtain ⟨place, hlocate, -⟩ := isDirectory_iff.mp hdirectory
  obtain ⟨directory, hreaches, hmissing⟩ := hempty.exists_reaches hends (by decide) hlocate
  rw [hreaches.locate_of_missing (by decide) hmissing] at hlocate
  cases hlocate

/-- A directory that is made is empty. -/
theorem entersEmpty_of_makeDirectory (hfs : fs.WellFormed) (hends : Path.EndsIn path above name)
    (h : fs.makeDirectory path = .ok made) :
    made.EntersEmpty (made.pathStart path) (Path.components path) := by
  obtain ⟨place, last, hlocate, rfl⟩ := makeDirectory_eq_ok_iff.mp h
  obtain ⟨directory, _, hreaches, hlast⟩ := exists_reaches_of_locate hends (by decide) hlocate
  have hname := hreaches.isEntryName
  obtain ⟨⟨rfl, rfl⟩, hmissing⟩ :
      (place = directory ∧ last = name) ∧ fs.lookup (name :: directory) = none := by
    simpa only [Spot.vacant.injEq, reduceCtorEq, false_and, or_false] using
      hlast.spot_eq_of_entry hname
  have hplace : last :: place ≠ [] := by simp
  -- the way to the vacant spot is as it was, and it goes on into the new directory
  have hafter : (fs.put (last :: place) .directory).Reaches path place last :=
    hreaches.congr (isDeadEnd_of_missing hname hmissing)
      (fun _ hlocation => lookup_put_of_ne _ hplace hlocation) rfl
  obtain ⟨before, left, hbefore, henters⟩ := hafter.approach
  have hinto : Enters (fs.put (last :: place) .directory) left place [last] left (last :: place) :=
    .enter hname (lookup_put_self _ hplace) .arrive
  refine ⟨left, last :: place, ?_, fun other => ?_⟩
  · rw [Path.components, enters_filter_iff, hbefore.names_eq]
    exact henters.append hinto
  · rw [lookup_put_of_ne _ hplace (by simp), Option.eq_none_iff_forall_ne_some]
    -- there was no directory for an entry to lie in
    intro entry hentry
    rw [hfs.lookup_directory hentry] at hmissing
    cases hmissing

theorem eq_or_entersEmpty_of_ensureDirectory (hfs : fs.WellFormed)
    (hends : Path.EndsIn path above name) (h : fs.ensureDirectory path = .ok made) :
    made = fs ∧ fs.isDirectory path = true ∨
      made.EntersEmpty (made.pathStart path) (Path.components path) := by
  obtain hmake | ⟨-, hdirectory, rfl⟩ := makeDirectory_of_ensureDirectory h
  · exact .inr (entersEmpty_of_makeDirectory hfs hends hmake)
  · exact .inl ⟨rfl, hdirectory⟩

/-! ### Directories along a path -/

/-- If making the directories above a path changes nothing or lets the names before its last one
lead into an empty directory, then making the path as well does so with all of its names. -/
theorem eq_or_entersEmpty_of_makeAncestors_cons {paths : List String} (hfs : fs.WellFormed)
    (hends : Path.EndsIn path above name)
    (habove : ∀ {made}, fs.makeAncestors paths = (made, .ok ()) →
      made = fs ∨ made.EntersEmpty (made.pathStart path) (above.filter (· ≠ ".")))
    (h : fs.makeAncestors (path :: paths) = (made, .ok ())) :
    made = fs ∨ made.EntersEmpty (made.pathStart path) (Path.components path) := by
  rw [makeAncestors] at h
  split at h
  next hensure =>
    obtain ⟨rfl, -⟩ := Prod.mk.inj h
    obtain ⟨heq, -⟩ | hempty := eq_or_entersEmpty_of_ensureDirectory hfs hends hensure
    · exact .inl heq
    · exact .inr hempty
  next fault hfault =>
    split at h
    next =>
      split at h
      next => cases (Prod.mk.inj h).2
      next between hbetween =>
        split at h
        next hensure =>
          obtain ⟨rfl, -⟩ := Prod.mk.inj h
          have hwellFormed : between.WellFormed := by
            have hfirst := hfs.makeAncestors paths
            rwa [hbetween] at hfirst
          obtain rfl | hbefore := habove hbetween
          · -- with nothing new above it, the directory would still be missing
            rw [hfault] at hensure
            cases hensure
          · obtain ⟨-, hdirectory⟩ | hempty :=
              eq_or_entersEmpty_of_ensureDirectory hwellFormed hends hensure
            · -- a directory cannot have been in the new one above it
              rw [hbefore.isDirectory_eq_false hends] at hdirectory
              cases hdirectory
            · exact .inr hempty
        next => cases (Prod.mk.inj h).2
    next => cases (Prod.mk.inj h).2

/-- The working directory is there. -/
theorem WellFormed.isDirectory_dot (hfs : fs.WellFormed) : fs.isDirectory "." = true := by
  have hfollowable : IsFollowable .target "." := ⟨by decide, by decide, by decide⟩
  have hlocate : fs.locate .target "." = .ok (.found fs.workingDirectory) :=
    locate_eq_ok_iff.mpr ⟨hfollowable, .stay .arrive⟩
  exact isDirectory_iff.mpr ⟨_, hlocate, hfs.workingDirectory_isDirectory⟩

/-- The root is there. -/
theorem isDirectory_root (fs : FileSystem) : fs.isDirectory "/" = true := by
  have hfollowable : IsFollowable .target "/" := ⟨by decide, by decide, by decide⟩
  have hlocate : fs.locate .target "/" = .ok (.found []) :=
    locate_eq_ok_iff.mpr ⟨hfollowable, .arrive⟩
  exact isDirectory_iff.mpr ⟨_, hlocate, rfl⟩

/-- Where a path with given parts starts. -/
theorem pathStart_of_parts {first : String} {others : List String}
    (h : Path.parts path = first :: others) (hne : first ≠ "" ∨ others ≠ []) :
    fs.pathStart path = if first = "" then [] else fs.workingDirectory := by
  have habsolute : Path.isAbsolute path = true ↔ first = "" := by
    rw [Path.isAbsolute_iff_of_parts h, and_iff_left_iff_imp]
    exact fun hempty => hne.resolve_left (not_not_intro hempty)
  simp only [pathStart, habsolute]

/-- When the directories from given parts are ensured, with no double dot among the parts, nothing
changes or the parts lead into an empty directory. -/
theorem eq_or_entersEmpty_of_makeAncestors {first : String} {reversed : List String}
    (hfs : fs.WellFormed) (hslash : ∀ part ∈ first :: reversed, '/' ∉ part.toList)
    (hup : ".." ∉ first :: reversed)
    (h : fs.makeAncestors (Path.ancestorsFrom first reversed) = (made, .ok ())) :
    made = fs ∨ made.EntersEmpty (if first = "" then [] else made.workingDirectory)
      ((first :: reversed.reverse).filter (!Path.isIdle ·)) := by
  induction reversed generalizing made with
  | nil =>
    rw [Path.ancestorsFrom] at h
    split at h
    next => exact .inl (Prod.mk.inj h).1.symm
    next hne =>
      by_cases hdot : first = "."
      · -- the working directory is there
        subst hdot
        rw [makeAncestors, ensureDirectory_of_isDirectory hfs.isDirectory_dot] at h
        exact .inl (Prod.mk.inj h).1.symm
      have hparts : Path.parts first = [] ++ [first] :=
        Path.parts_of_no_slash (hslash first (by simp))
      have hends := Path.endsIn_of_parts hparts (by simp [Path.isIdle, hne, hdot])
        (by simpa [eq_comm] using hup)
      have hnone {made : FileSystem} (habove : fs.makeAncestors [] = (made, .ok ())) : made = fs :=
        (Prod.mk.inj habove).1.symm
      have hnew := eq_or_entersEmpty_of_makeAncestors_cons hfs hends (fun h => .inl (hnone h)) h
      rw [pathStart_of_parts hparts (.inl hne), Path.components_eq, hparts] at hnew
      exact hnew
  | cons part reversed ih =>
    have hsubset := List.cons_subset_cons first (List.subset_cons_self part reversed)
    have hothers {made : FileSystem} := @ih made (Path.slash_not_mem_of_cons hslash)
      fun hmem => hup (hsubset hmem)
    rw [Path.ancestorsFrom] at h
    split at h
    next hidle =>
      have hdrop : [part].filter (!Path.isIdle ·) = [] := by simp [hidle]
      rw [List.reverse_cons, ← List.cons_append, List.filter_append, hdrop, List.append_nil]
      exact hothers h
    next hidle =>
      have hparts := Path.parts_ofParts_reverse hslash
      have hne : part ≠ ".." := by
        rintro rfl
        exact hup (by simp)
      have hends : Path.EndsIn (Path.ofParts first (part :: reversed).reverse)
          ((first :: reversed.reverse).filter (· ≠ "")) part :=
        Path.endsIn_of_parts hparts (by simpa using hidle) hne
      have hstart (fs : FileSystem) : fs.pathStart (Path.ofParts first (part :: reversed).reverse) =
          if first = "" then [] else fs.workingDirectory :=
        pathStart_of_parts hparts (.inr (by simp))
      have hnew := eq_or_entersEmpty_of_makeAncestors_cons hfs hends
        (fun habove => by
          rw [hstart, Path.filter_ne_dot_filter]
          exact hothers habove) h
      rw [hstart, Path.components_eq, hparts] at hnew
      rw [List.reverse_cons]
      exact hnew

/-- When the directories along a path that never goes up are ensured, nothing changes or the path
leads into an empty directory. -/
theorem eq_or_entersEmpty_of_makeDirectories (hfs : fs.WellFormed)
    (hup : ".." ∉ Path.components path) (h : fs.makeDirectories path = (made, .ok ())) :
    made = fs ∨ made.EntersEmpty (made.pathStart path) (Path.components path) := by
  have hne : Path.parts path ≠ [] := by simp [Path.parts]
  obtain ⟨first, others, hparts⟩ := List.exists_cons_of_ne_nil hne
  have hslash : ∀ part ∈ first :: others.reverse, '/' ∉ part.toList := by
    have hcut : Path.parts path = first :: (others ++ []) := by rw [hparts, List.append_nil]
    exact Path.slash_not_mem_of_parts hcut
  have hno : ".." ∉ first :: others.reverse := by
    intro hmem
    refine hup ?_
    rw [Path.components_eq, List.mem_filter, hparts]
    exact ⟨by simpa using hmem, by decide⟩
  rw [makeDirectories, Path.ancestors, hparts] at h
  by_cases hempty : first ≠ "" ∨ others ≠ []
  · have hnew := eq_or_entersEmpty_of_makeAncestors hfs hslash hno h
    rw [List.reverse_reverse, ← hparts, ← Path.components_eq,
      ← pathStart_of_parts hparts hempty] at hnew
    exact hnew
  · -- the empty path has nothing above it
    obtain ⟨rfl, rfl⟩ : first = "" ∧ others = [] := by simpa using hempty
    exact .inl (Prod.mk.inj h).1.symm

/-! ### The path above a path -/

/-- The path above a path leads to a directory once it is made. The empty path stands for the
working directory. -/
theorem isDirectory_of_parent? {parent : String} (hfs : fs.WellFormed)
    (hparent : Path.parent? path = some parent)
    (h : fs.makeDirectories parent = (made, .ok ())) :
    made.isDirectory (if parent = "" then "." else parent) = true := by
  have hmade : made.WellFormed := by
    have hafter := hfs.makeAncestors (Path.ancestors parent)
    rwa [← makeDirectories, h] at hafter
  split
  next => exact hmade.isDirectory_dot
  next hne =>
    obtain rfl | rfl | ⟨above, habove⟩ := Path.ancestors_of_parent? hparent
    · exact isDirectory_root made
    · exact absurd rfl hne
    · rw [makeDirectories, habove] at h
      exact isDirectory_of_makeAncestors h

/-- Once the directories above it are made, a path that never goes up and named no entry before
comes to a missing one, if it leads anywhere. -/
theorem exists_reaches_of_makeDirectories (hfs : fs.WellFormed) (hends : Path.EndsIn path above name)
    (hup : ".." ∉ Path.names path) (hnone : ∀ location, fs.locate .entry path ≠ .ok (.found location))
    (hmake : fs.makeDirectories ((Path.parent? path).getD "") = (made, .ok ()))
    (hpurpose : purpose ≠ .location) (h : made.locate purpose path = .ok spot) :
    ∃ directory, made.Reaches path directory name ∧ made.lookup (name :: directory) = none := by
  obtain ⟨parent, hparent, habsolute, hcomponents⟩ := hends.exists_parent?
  rw [hparent, Option.getD_some] at hmake
  have hno : ".." ∉ Path.components parent := by
    rw [hcomponents]
    rw [hends.names_eq] at hup
    exact fun hmem => hup (List.mem_append_left _ (List.mem_filter.mp hmem).1)
  obtain rfl | hempty := eq_or_entersEmpty_of_makeDirectories hfs hno hmake
  · -- nothing has changed, and nothing was there
    obtain ⟨directory, _, hreaches, -⟩ := exists_reaches_of_locate hends hpurpose h
    refine ⟨directory, hreaches, ?_⟩
    rw [Option.eq_none_iff_forall_ne_some]
    exact fun entry hentry => hnone _ (hreaches.locate_entry hentry)
  · -- the path starts where the one above it does, and goes on to its last name
    rw [pathStart, habsolute, ← pathStart, hcomponents] at hempty
    exact hempty.exists_reaches hends hpurpose h

end TextShell.FileSystem
