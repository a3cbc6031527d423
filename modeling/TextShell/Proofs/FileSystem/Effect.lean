import TextShell.FileSystem.Operations
import TextShell.Proofs.FileSystem.LastName

/-!
# Effects of operations

What each operation on files changes, one statement for each: an operation that succeeds changes
one place, and one that fails changes nothing. Making directories may stop half way, and then no
more than directories have been added.

* `FileSystem.readFile_eq_ok_iff`: what is read.
* `FileSystem.writeFile_eq_ok_iff`, `FileSystem.copyFile_eq_ok_iff`,
  `FileSystem.removeFile_eq_ok_iff`: the one place that is changed.
* `FileSystem.addsDirectories_of_makeDirectories`: directories and the missing ones above them.
-/

namespace TextShell.FileSystem

variable {fs after : FileSystem} {path : String} {place : Location} {content : ByteArray}

/-! ### Single changes -/

theorem ne_nil_of_missing (h : fs.lookup place = none) : place ≠ [] := by
  rintro rfl
  simp at h

theorem entries_of_missing (h : fs.lookup place = none) : fs.entries[place]? = none := by
  cases place with
  | nil => simp at h
  | cons name directory => exact h

@[simp]
theorem put_put (fs : FileSystem) (place : Location) (first second : Entry) :
    (fs.put place first).put place second = fs.put place second := by
  refine ext_entries (fun location => ?_) rfl
  by_cases heq : place = location
  · simp [put, heq]
  · simp [put, Std.ExtTreeMap.getElem?_insert, heq]

/-- What was put where nothing was leaves no trace when it is removed. -/
theorem remove_put_of_missing (entry : Entry) (h : fs.lookup place = none) :
    (fs.put place entry).remove place = fs := by
  have hmissing := entries_of_missing h
  refine ext_entries (fun location => ?_) rfl
  by_cases heq : place = location
  · subst heq
    simpa [put, remove, Std.ExtTreeMap.getElem?_erase] using hmissing.symm
  · simp [put, remove, Std.ExtTreeMap.getElem?_erase, Std.ExtTreeMap.getElem?_insert, heq]

@[simp]
theorem lookup_put_self (entry : Entry) (h : place ≠ []) :
    (fs.put place entry).lookup place = some entry := by
  rw [lookup_put fs entry place h, if_pos rfl]

theorem lookup_put_of_ne {location : Location} (entry : Entry) (h : place ≠ [])
    (hne : location ≠ place) : (fs.put place entry).lookup location = fs.lookup location := by
  rw [lookup_put fs entry location h, if_neg hne]

/-- A tree stays a tree when an entry is put into a directory, unless a directory gives way to it. -/
theorem WellFormed.put {name : String} {directory : Location} (hfs : fs.WellFormed)
    (hdirectory : fs.lookup directory = some .directory)
    (hplace : fs.lookup (name :: directory) ≠ some .directory) (entry : Entry) :
    (fs.put (name :: directory) entry).WellFormed := by
  have hne : name :: directory ≠ [] := by simp
  -- a directory is not at the place, so it is kept
  have hkeep {location : Location} (h : fs.lookup location = some .directory) :
      (fs.put (name :: directory) entry).lookup location = some .directory := by
    rw [lookup_put_of_ne _ hne, h]
    rintro rfl
    exact hplace h
  constructor
  · intro other above hmem
    apply hkeep
    obtain heq | hmem := Std.ExtTreeMap.mem_insert.mp hmem
    · obtain ⟨rfl, rfl⟩ := List.cons.inj (Std.LawfulEqCmp.eq_of_compare heq)
      exact hdirectory
    · exact hfs.directory_above hmem
  · intro hmem
    obtain heq | hmem := Std.ExtTreeMap.mem_insert.mp hmem
    · exact hne (Std.LawfulEqCmp.eq_of_compare heq)
    · exact hfs.root_not_mem hmem
  · exact hkeep hfs.workingDirectory_isDirectory

/-- A tree stays a tree when a file takes the place of what is no directory. -/
theorem WellFormed.put_file {old : Entry} (hfs : fs.WellFormed)
    (hplace : fs.lookup place = some old) (hold : old ≠ .directory) (content : ByteArray) :
    (fs.put place (.file content)).WellFormed := by
  have hnot : fs.lookup place ≠ some .directory := by simpa [hplace] using hold
  cases place with
  | nil => exact absurd rfl hnot
  | cons name directory => exact hfs.put (hfs.lookup_directory hplace) hnot _

/-! ### Reading -/

/-- What is read is the content of the file that the path leads to. -/
theorem readFile_eq_ok_iff :
    fs.readFile path = .ok content ↔
      ∃ place, fs.locate .target path = .ok (.found place) ∧
        fs.lookup place = some (.file content) := by
  unfold readFile
  cases fs.locate .target path with
  | error fault => simp
  | ok spot =>
    cases spot with
    | vacant directory name => simp
    | found location =>
      simp only [Except.ok.injEq, Spot.found.injEq, exists_eq_left']
      cases fs.lookup location with
      | none => simp
      | some entry => cases entry <;> simp

/-- There is a file exactly where a content can be read. -/
theorem isFile_iff : fs.isFile path = true ↔ ∃ content, fs.readFile path = .ok content := by
  simp only [readFile_eq_ok_iff, isFile, target?]
  cases fs.locate .target path with
  | error fault => simp
  | ok spot =>
    cases spot with
    | vacant directory name => simp
    | found location =>
      simp only [Except.ok.injEq, Spot.found.injEq, exists_eq_left']
      cases fs.lookup location with
      | none => simp
      | some entry => cases entry <;> simp [Entry.isFile]

/-! ### Writing, copying and removing -/

/-- The location of the file that is written when a path is opened for it: that of the file there,
or the vacant spot that the path leads to. -/
def openPlace? (fs : FileSystem) (path : String) : Option Location :=
  match fs.locate .creation path with
  | .error _ => none
  | .ok (.vacant directory name) => some (name :: directory)
  | .ok (.found location) => if (fs.lookup location).any Entry.isFile then some location else none

/-- Opening a file empties it or makes it, and changes nothing else. -/
theorem openEmpty_eq_ok_iff {opened : FileSystem} :
    fs.openEmpty path = .ok (opened, place) ↔
      fs.openPlace? path = some place ∧ opened = fs.put place (.file .empty) := by
  unfold openEmpty openPlace?
  cases fs.locate .creation path with
  | error fault => simp
  | ok spot =>
    cases spot with
    | vacant directory name => simp +contextual [eq_comm, and_comm]
    | found location =>
      dsimp only
      cases fs.lookup location with
      | none => simp
      | some entry =>
        cases entry with
        | file content => simp +contextual [Entry.isFile, eq_comm, and_comm]
        | directory | link => simp [Entry.isFile]

/-- Opening a file fails when there is no place for it. -/
theorem exists_fault_of_openPlace? (h : fs.openPlace? path = none) :
    ∃ fault, fs.openEmpty path = .error fault := by
  cases hopen : fs.openEmpty path with
  | error fault => exact ⟨fault, rfl⟩
  | ok opened => simp [(openEmpty_eq_ok_iff.mp hopen).1] at h

/-- A file is opened by a path that leads somewhere. -/
theorem exists_locate_of_openPlace? (h : fs.openPlace? path = some place) :
    ∃ spot, fs.locate .creation path = .ok spot := by
  unfold openPlace? at h
  cases hlocate : fs.locate .creation path with
  | error fault => simp [hlocate] at h
  | ok spot => exact ⟨spot, rfl⟩

/-- A file is opened where nothing is or where a file is. -/
theorem lookup_openPlace? (h : fs.openPlace? path = some place) :
    fs.lookup place = none ∨ ∃ content, fs.lookup place = some (.file content) := by
  unfold openPlace? at h
  split at h
  next => cases h
  next directory name hlocate =>
    obtain rfl := Option.some.inj h
    exact .inl (missing_of_vacant hlocate).2
  next location _ =>
    split at h
    next hfile =>
      obtain rfl := Option.some.inj h
      obtain ⟨entry, hlookup, hentry⟩ := (Option.any_eq_true _ _).mp hfile
      cases entry with
      | file content => exact .inr ⟨content, hlookup⟩
      | directory | link => cases hentry
    next => cases h

/-- Writing a file puts its content in one place. -/
theorem writeFile_eq_ok_iff :
    fs.writeFile path content = .ok after ↔
      ∃ place, fs.openPlace? path = some place ∧ after = fs.put place (.file content) := by
  unfold writeFile
  cases hplace : fs.openPlace? path with
  | none =>
    obtain ⟨fault, hfault⟩ := exists_fault_of_openPlace? hplace
    simp [hfault]
  | some place => simp [openEmpty_eq_ok_iff.mpr ⟨hplace, rfl⟩, eq_comm]

/-- Copying a file puts in the place of the destination what the source holds once the destination
is emptied. -/
theorem copyFile_eq_ok_iff {source destination : String} :
    fs.copyFile source destination = .ok after ↔
      ∃ origin place content, fs.locate .target source = .ok (.found origin) ∧
        fs.openPlace? destination = some place ∧
        (fs.put place (.file .empty)).lookup origin = some (.file content) ∧
        after = fs.put place (.file content) := by
  unfold copyFile
  cases fs.locate .target source with
  | error fault => simp
  | ok spot =>
    cases spot with
    | vacant directory name => simp
    | found origin =>
      cases hplace : fs.openPlace? destination with
      | none =>
        obtain ⟨fault, hfault⟩ := exists_fault_of_openPlace? hplace
        simp [hfault]
      | some place =>
        rw [openEmpty_eq_ok_iff.mpr ⟨hplace, rfl⟩]
        -- emptied first and then filled, the place has changed once
        simp only [Except.ok.injEq, Spot.found.injEq, Option.some.injEq, exists_and_left,
          exists_eq_left']
        cases (fs.put place (.file .empty)).lookup origin with
        | none => simp
        | some entry =>
          cases entry with
          | file content => simp [put_put, eq_comm]
          | directory | link => simp

/-- Copying a file puts a content in the place of the destination. -/
theorem put_of_copyFile {source destination : String}
    (h : fs.copyFile source destination = .ok after) :
    ∃ place content, fs.openPlace? destination = some place ∧
      after = fs.put place (.file content) := by
  obtain ⟨_, place, content, -, hplace, -, hafter⟩ := copyFile_eq_ok_iff.mp h
  exact ⟨place, content, hplace, hafter⟩

/-- Removing a file clears the place of the entry that the path names. -/
theorem removeFile_eq_ok_iff :
    fs.removeFile path = .ok after ↔
      ∃ place, fs.locate .entry path = .ok (.found place) ∧
        fs.lookup place ≠ some .directory ∧ after = fs.remove place := by
  unfold removeFile
  cases fs.locate .entry path with
  | error fault => simp
  | ok spot =>
    cases spot with
    | vacant directory name => simp
    | found location =>
      by_cases hdirectory : fs.lookup location = some .directory
      · simp [hdirectory]
      · simp only [hdirectory, if_false, Except.ok.injEq, Spot.found.injEq, exists_eq_left',
          ne_eq, not_false_eq_true, true_and]
        exact eq_comm

/-! ### Making directories -/

/-- All that was there is there, and what has come is directories. -/
structure AddsDirectories (fs after : FileSystem) : Prop where
  /-- Relative paths start where they did. -/
  workingDirectory_eq : after.workingDirectory = fs.workingDirectory
  /-- What was there is there. -/
  kept {location : Location} {entry : Entry} :
    fs.lookup location = some entry → after.lookup location = some entry
  /-- What was not there is a directory. -/
  added {location : Location} {entry : Entry} :
    fs.lookup location = none → after.lookup location = some entry → entry = .directory

namespace AddsDirectories

@[refl]
theorem refl (fs : FileSystem) : fs.AddsDirectories fs where
  workingDirectory_eq := rfl
  kept := id
  added hnone hsome := by simp [hnone] at hsome

theorem trans {fs made after : FileSystem} (hfirst : fs.AddsDirectories made)
    (hsecond : made.AddsDirectories after) : fs.AddsDirectories after where
  workingDirectory_eq := hsecond.workingDirectory_eq.trans hfirst.workingDirectory_eq
  kept h := hsecond.kept (hfirst.kept h)
  added {location entry} hnone hsome := by
    cases hmade : made.lookup location with
    | none => exact hsecond.added hmade hsome
    | some old =>
      -- what came first is a directory, and it is kept
      obtain rfl := hfirst.added hnone hmade
      exact (Option.some.inj ((hsecond.kept hmade).symm.trans hsome)).symm

/-- A directory put where nothing was is one that is added. -/
theorem put (h : fs.lookup place = none) : fs.AddsDirectories (fs.put place .directory) where
  workingDirectory_eq := rfl
  kept {location entry} hsome := by
    rw [lookup_put_of_ne _ (ne_nil_of_missing h), hsome]
    rintro rfl
    simp [h] at hsome
  added {location entry} hnone hsome := by
    rw [lookup_put _ _ _ (ne_nil_of_missing h)] at hsome
    split at hsome
    next => exact (Option.some.inj hsome).symm
    next => simp [hnone] at hsome

end AddsDirectories

/-- Making a directory fills a vacant spot. -/
theorem makeDirectory_eq_ok_iff :
    fs.makeDirectory path = .ok after ↔
      ∃ directory name, fs.locate .entry path = .ok (.vacant directory name) ∧
        after = fs.put (name :: directory) .directory := by
  unfold makeDirectory
  cases fs.locate .entry path with
  | error fault => simp
  | ok spot =>
    cases spot with
    | found location => simp
    | vacant directory name =>
      simp only [Except.ok.injEq, Spot.vacant.injEq]
      constructor
      · rintro rfl
        exact ⟨directory, name, ⟨rfl, rfl⟩, rfl⟩
      · rintro ⟨_, _, ⟨rfl, rfl⟩, rfl⟩
        rfl

/-- A directory that is ensured is made or was there. -/
theorem makeDirectory_of_ensureDirectory (h : fs.ensureDirectory path = .ok after) :
    fs.makeDirectory path = .ok after ∨
      fs.makeDirectory path = .error .occupied ∧ fs.isDirectory path = true ∧ after = fs := by
  unfold ensureDirectory at h
  split at h
  next hmake =>
    obtain rfl := Except.ok.inj h
    exact .inl hmake
  next hmake =>
    split at h
    next hthere =>
      obtain ⟨rfl, hdirectory⟩ := hthere
      exact .inr ⟨hmake, hdirectory, (Except.ok.inj h).symm⟩
    next => cases h

/-- What holds of the files and is kept by making one directory holds when directories have been
made from the last one up, also when this fails on the way back down. -/
theorem makeAncestors_induction {motive : FileSystem → Prop}
    (hmake : ∀ {fs made path}, motive fs → fs.makeDirectory path = .ok made → motive made)
    (hfs : motive fs) (paths : List String) : motive (fs.makeAncestors paths).1 := by
  have hensure {fs made : FileSystem} {path : String} (hfs : motive fs)
      (h : fs.ensureDirectory path = .ok made) : motive made := by
    obtain h | ⟨-, -, rfl⟩ := makeDirectory_of_ensureDirectory h
    · exact hmake hfs h
    · exact hfs
  induction paths with
  | nil => exact hfs
  | cons path above ih =>
    rw [makeAncestors]
    split
    next made h => exact hensure hfs h
    next fault _ =>
      by_cases hmissing : fault = .noEntry
      · rw [if_pos hmissing]
        generalize fs.makeAncestors above = result at ih
        obtain ⟨made, _ | _⟩ := result
        · exact ih
        · dsimp only
          split
          next done h => exact hensure ih h
          next => exact ih
      · rw [if_neg hmissing]
        exact hfs

theorem addsDirectories_makeDirectory (h : fs.makeDirectory path = .ok after) :
    fs.AddsDirectories after := by
  obtain ⟨directory, name, hlocate, rfl⟩ := makeDirectory_eq_ok_iff.mp h
  exact .put (missing_of_vacant hlocate).2

/-- Making directories from the last one up adds no more than directories, also when it fails on
the way back down. -/
theorem addsDirectories_makeAncestors (fs : FileSystem) (paths : List String) :
    fs.AddsDirectories (fs.makeAncestors paths).1 :=
  makeAncestors_induction (motive := fs.AddsDirectories)
    (fun hfs hmake => hfs.trans (addsDirectories_makeDirectory hmake)) (.refl fs) paths

/-- Making a directory and those above it adds no more than directories, also when it fails. -/
theorem addsDirectories_of_makeDirectories {made : FileSystem} {result : Except FileFault Unit}
    (h : fs.makeDirectories path = (made, result)) : fs.AddsDirectories made := by
  have hmade := addsDirectories_makeAncestors fs (Path.ancestors path)
  rwa [← makeDirectories, h] at hmade

end TextShell.FileSystem
