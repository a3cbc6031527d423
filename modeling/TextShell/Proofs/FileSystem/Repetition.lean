import TextShell.Proofs.FileSystem.KeptWays
import TextShell.Proofs.FileSystem.Replacement

/-!
# Operations done again

An operation that has succeeded meets other files when it is done again: the directories that it
made are there, a vacant spot is filled, a link has given way to a file, an entry is gone. Even so
it comes to the same place and leaves the same there, so doing it again changes nothing.

* `FileSystem.makeDirectories_again`, `FileSystem.writeFile_again`, `FileSystem.copyFile_again`,
  `FileSystem.replaceFile_again`: the operation succeeds and changes nothing.
* `FileSystem.removeFile_again`: what was removed is missing.
-/

namespace TextShell.FileSystem

variable {fs made after : FileSystem} {path : String} {place : Location} {content : ByteArray}

/-! ### Directories -/

/-- A path leads to a directory exactly if it leads to a place that holds one. -/
theorem isDirectory_iff :
    fs.isDirectory path = true ↔
      ∃ place, fs.locate .target path = .ok (.found place) ∧ fs.lookup place = some .directory := by
  unfold isDirectory target?
  cases fs.locate .target path with
  | error fault => simp
  | ok spot => cases spot <;> simp

/-- A path to a directory stays one. -/
theorem KeepsWays.isDirectory (hways : fs.KeepsWays after) (h : fs.isDirectory path = true) :
    after.isDirectory path = true := by
  obtain ⟨place, hlocate, hlookup⟩ := isDirectory_iff.mp h
  have hafter : after.locate .target path = .ok (.found place) :=
    hways.locate_eq_found hlocate (by simp [hlookup])
  exact isDirectory_iff.mpr ⟨place, hafter, hways.kept hlookup rfl⟩

/-- There is nothing to make where a directory is. -/
theorem ensureDirectory_of_isDirectory (h : fs.isDirectory path = true) :
    fs.ensureDirectory path = .ok fs := by
  obtain ⟨place, hlocate, -⟩ := isDirectory_iff.mp h
  obtain ⟨hfollowable, hwalks⟩ := locate_eq_ok_iff.mp hlocate
  -- the directory, or a link to it, is in the way of making one
  obtain ⟨entry, hentry⟩ := hwalks.exists_entry
  have hfound : fs.locate .entry path = .ok (.found entry) :=
    locate_eq_ok_iff.mpr ⟨hfollowable.congr (by decide), hentry⟩
  have hmake : fs.makeDirectory path = .error .occupied := by
    unfold makeDirectory
    rw [hfound]
  unfold ensureDirectory
  rw [hmake]
  dsimp only
  rw [if_pos ⟨rfl, h⟩]

/-- What is made is a directory. -/
theorem isDirectory_of_makeDirectory (h : fs.makeDirectory path = .ok made) :
    made.isDirectory path = true := by
  obtain ⟨directory, name, hlocate, rfl⟩ := makeDirectory_eq_ok_iff.mp h
  have hmissing := (missing_of_vacant hlocate).2
  have hlookup : (fs.put (name :: directory) .directory).lookup (name :: directory) =
      some .directory :=
    lookup_put_self _ (by simp)
  -- the same path, followed to what it leads to, led to the same vacant spot
  obtain ⟨hfollowable, hwalks⟩ := locate_eq_ok_iff.mp hlocate
  have htarget : fs.locate .target path = .ok (.vacant directory name) :=
    locate_eq_ok_iff.mpr ⟨hfollowable.congr (by decide), hwalks.target_of_vacant⟩
  have hways : fs.KeepsWays (fs.put (name :: directory) .directory) := .put (.inl hmissing) _
  exact isDirectory_iff.mpr ⟨_, hways.locate_eq_filled htarget (by decide) (.inl hlookup), hlookup⟩

/-- What is ensured is a directory. -/
theorem isDirectory_of_ensureDirectory (h : fs.ensureDirectory path = .ok made) :
    made.isDirectory path = true := by
  obtain hmake | ⟨-, hdirectory, rfl⟩ := makeDirectory_of_ensureDirectory h
  · exact isDirectory_of_makeDirectory hmake
  · exact hdirectory

/-- The last directory that was asked for is there when making it and those above it has
succeeded. -/
theorem isDirectory_of_makeAncestors {above : List String}
    (h : fs.makeAncestors (path :: above) = (made, .ok ())) : made.isDirectory path = true := by
  rw [makeAncestors] at h
  split at h
  next hensure =>
    obtain rfl := (Prod.mk.inj h).1
    exact isDirectory_of_ensureDirectory hensure
  next fault _ =>
    by_cases hmissing : fault = .noEntry
    · rw [if_pos hmissing] at h
      -- the directory is made after those above it
      split at h
      next => cases (Prod.mk.inj h).2
      next =>
        split at h
        next hensure =>
          obtain rfl := (Prod.mk.inj h).1
          exact isDirectory_of_ensureDirectory hensure
        next => cases (Prod.mk.inj h).2
    · rw [if_neg hmissing] at h
      cases (Prod.mk.inj h).2

/-- Directories that were made need not be made again, also after files have come. -/
theorem makeDirectories_again (h : fs.makeDirectories path = (made, .ok ()))
    (hways : made.KeepsWays after) : after.makeDirectories path = (after, .ok ()) := by
  unfold makeDirectories at h ⊢
  cases hancestors : Path.ancestors path with
  | nil => rfl
  | cons last above =>
    rw [hancestors] at h
    have hdirectory := hways.isDirectory (isDirectory_of_makeAncestors h)
    rw [makeAncestors, ensureDirectory_of_isDirectory hdirectory]

/-! ### Writing and copying -/

/-- A file in the place that was opened bars no way. -/
theorem keepsWays_of_openPlace? (h : fs.openPlace? path = some place) (content : ByteArray) :
    fs.KeepsWays (fs.put place (.file content)) :=
  .put (lookup_openPlace? h) _

theorem ne_nil_of_openPlace? (h : fs.openPlace? path = some place) : place ≠ [] := by
  rintro rfl
  have hplace := lookup_openPlace? h
  simp at hplace

/-- A file that has been written is opened in the same place. -/
theorem openPlace?_again (h : fs.openPlace? path = some place) (content : ByteArray) :
    (fs.put place (.file content)).openPlace? path = some place := by
  have hways := keepsWays_of_openPlace? h content
  have hlookup : (fs.put place (.file content)).lookup place = some (.file content) :=
    lookup_put_self _ (ne_nil_of_openPlace? h)
  -- whether the place was vacant or a file, it is found now
  have hfound : (fs.put place (.file content)).locate .creation path = .ok (.found place) := by
    unfold openPlace? at h
    split at h
    next => cases h
    next directory name hlocate =>
      obtain rfl := Option.some.inj h
      exact hways.locate_eq_filled hlocate (by decide) (.inr ⟨rfl, content, hlookup⟩)
    next location hlocate =>
      split at h
      next =>
        obtain rfl := Option.some.inj h
        exact hways.locate_eq_found hlocate fun _ _ => ⟨content, hlookup⟩
      next => cases h
  unfold openPlace?
  rw [hfound]
  dsimp only
  rw [hlookup]
  rfl

/-- Writing a file keeps the ways. -/
theorem keepsWays_of_writeFile (h : fs.writeFile path content = .ok after) :
    fs.KeepsWays after := by
  obtain ⟨place, hplace, rfl⟩ := writeFile_eq_ok_iff.mp h
  exact keepsWays_of_openPlace? hplace content

/-- A file that was written holds its content already. -/
theorem writeFile_again (h : fs.writeFile path content = .ok after) :
    after.writeFile path content = .ok after := by
  obtain ⟨place, hplace, rfl⟩ := writeFile_eq_ok_iff.mp h
  exact writeFile_eq_ok_iff.mpr ⟨place, openPlace?_again hplace content, (put_put ..).symm⟩

/-- The file that was copied is still there, and the copy is the same. This holds also where a file
was copied onto itself and so has been emptied. -/
theorem copyFile_again {source destination : String}
    (h : fs.copyFile source destination = .ok after) :
    after.isFile source = true ∧ after.copyFile source destination = .ok after := by
  obtain ⟨origin, place, content, horigin, hplace, hcontent, rfl⟩ := copyFile_eq_ok_iff.mp h
  have hways := keepsWays_of_openPlace? hplace content
  have hroot := ne_nil_of_openPlace? hplace
  -- what was at the origin is there, and if it is the destination then what was put there
  have hlookup : (fs.put place (.file content)).lookup origin = some (.file content) := by
    by_cases heq : origin = place
    · rw [heq, lookup_put_self _ hroot]
    · rw [lookup_put_of_ne _ hroot heq] at hcontent ⊢
      exact hcontent
  have hsource : (fs.put place (.file content)).locate .target source = .ok (.found origin) :=
    hways.locate_eq_found horigin fun _ _ => ⟨content, hlookup⟩
  constructor
  · exact isFile_iff.mpr ⟨content, readFile_eq_ok_iff.mpr ⟨origin, hsource, hlookup⟩⟩
  · refine copyFile_eq_ok_iff.mpr ⟨origin, place, content, hsource,
      openPlace?_again hplace content, ?_, (put_put ..).symm⟩
    rw [put_put, hcontent]

/-! ### Removing -/

/-- What was removed is missing. -/
theorem removeFile_again (hfs : fs.WellFormed) (h : fs.removeFile path = .ok after) :
    after.removeFile path = .error .noEntry := by
  obtain ⟨place, hlocate, hplace, rfl⟩ := removeFile_eq_ok_iff.mp h
  unfold removeFile
  obtain hfault | ⟨above, last, hvacant⟩ := locate_of_removed hfs hlocate hplace
  · rw [hfault]
  · rw [hvacant]

/-! ### Replacing -/

/-- A file that was replaced is there with its new content, and replacing it again changes
nothing. -/
theorem replaceFile_again {above : List String} {name : String} (hfs : fs.WellFormed)
    (hends : Path.EndsIn path above name) (hname : Path.IsTextName name)
    (hfile : fs.isFile path = true) (h : fs.replaceFile path content = (after, .ok ())) :
    after.readFile path = .ok content ∧ after.replaceFile path content = (after, .ok ()) := by
  obtain ⟨directory, hreplace, -, hafter, ⟨made, temporary⟩, hagain⟩ :=
    exists_place_of_makeTemporary hfs hends hname hfile (exists_makeTemporary_of_replaceFile h)
      content
  rw [hreplace] at h
  obtain rfl := (Prod.mk.inj h).1
  -- what may have been a link is a file now, in the same place
  have hnew : (fs.put (name :: directory) (.file content)).lookup (name :: directory) =
      some (.file content) :=
    lookup_put_self _ (by simp)
  constructor
  · exact readFile_eq_ok_iff.mpr ⟨_, hafter.locate_of_file (by decide) hnew, hnew⟩
  · rw [replaceFile_eq content hafter hnew (by simp) hagain, put_put]

end TextShell.FileSystem
