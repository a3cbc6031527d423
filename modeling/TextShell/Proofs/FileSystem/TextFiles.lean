import TextShell.Proofs.FileSystem.Replacement

/-!
# Changes to text files

In a tree without symbolic links, what is opened, removed or replaced by a path has the last name of
the path as its own. With paths that end in `.txt`, every change is therefore one to text files.

* `FileSystem.ChangesTextFiles`: what such changes leave alone, a relation that is closed under
  doing one change after another.
* `FileSystem.IsLinkFree.exists_reaches`: without links a path leads to its last name.
* `FileSystem.changesTextFiles_of_writeFile` and its like: every operation is such a change.
-/

namespace TextShell.FileSystem

/-- No entry is a symbolic link. -/
def IsLinkFree (fs : FileSystem) : Prop :=
  ∀ location target, fs.lookup location ≠ some (.link target)

theorem isLinkFree_empty : empty.IsLinkFree := by
  intro location target
  cases location <;> simp [empty]

theorem IsLinkFree.put {fs : FileSystem} {place : Location} {entry : Entry} (h : fs.IsLinkFree)
    (hplace : place ≠ []) (hentry : entry.isLink = false) : (fs.put place entry).IsLinkFree := by
  intro location target hlink
  rw [lookup_put _ _ _ hplace] at hlink
  split at hlink
  next =>
    obtain rfl := Option.some.inj hlink
    cases hentry
  next => exact h location target hlink

/-- A change that touches no file but those with the ending `.txt`. It may add directories and
remove links. -/
structure ChangesTextFiles (fs after : FileSystem) : Prop where
  /-- Any other file is there with the same content, and no other has come. -/
  other_files {name : String} {above : Location} {content : ByteArray} :
    ¬ Path.IsTextName name →
      (after.lookup (name :: above) = some (.file content) ↔
        fs.lookup (name :: above) = some (.file content))
  /-- Every directory is still there. -/
  directories {location : Location} :
    fs.lookup location = some .directory → after.lookup location = some .directory
  /-- No link has come. -/
  links {location : Location} {target : String} :
    after.lookup location = some (.link target) → fs.lookup location = some (.link target)

variable {fs made after : FileSystem} {path name : String} {above : List String}
  {directory place : Location} {content : ByteArray}

namespace ChangesTextFiles

@[refl]
theorem refl (fs : FileSystem) : fs.ChangesTextFiles fs where
  other_files _ := .rfl
  directories := id
  links := id

theorem trans (hfirst : fs.ChangesTextFiles made) (hsecond : made.ChangesTextFiles after) :
    fs.ChangesTextFiles after where
  other_files hname := (hsecond.other_files hname).trans (hfirst.other_files hname)
  directories h := hsecond.directories (hfirst.directories h)
  links h := hfirst.links (hsecond.links h)

/-- A tree without links stays one. -/
theorem isLinkFree (h : fs.ChangesTextFiles after) (hfree : fs.IsLinkFree) : after.IsLinkFree :=
  fun location target hlink => hfree location target (h.links hlink)

/-- A text file is put where no directory is. -/
theorem put (hname : Path.IsTextName name) (hplace : fs.lookup (name :: directory) ≠ some .directory)
    (content : ByteArray) :
    fs.ChangesTextFiles (fs.put (name :: directory) (.file content)) where
  other_files {other above _} hother := by
    -- places with different names are different
    have hne : other :: above ≠ name :: directory := by
      rintro heq
      obtain ⟨rfl, -⟩ := List.cons.inj heq
      exact hother hname
    rw [lookup_put_of_ne _ (by simp) hne]
  directories {location} h := by
    rw [lookup_put_of_ne _ (by simp), h]
    rintro rfl
    exact hplace h
  links {location target} h := by
    rw [lookup_put _ _ _ (by simp)] at h
    split at h
    next => cases h
    next => exact h

/-- What is removed under the name of a text file is no directory. -/
theorem remove (hname : Path.IsTextName name)
    (hplace : fs.lookup (name :: directory) ≠ some .directory) :
    fs.ChangesTextFiles (fs.remove (name :: directory)) where
  other_files {other above _} hother := by
    rw [lookup_remove _ _ (by simp), if_neg]
    rintro heq
    obtain ⟨rfl, -⟩ := List.cons.inj heq
    exact hother hname
  directories {location} h := by
    rw [lookup_remove _ _ (by simp), if_neg, h]
    rintro rfl
    exact hplace h
  links {location target} h := by
    rw [lookup_remove _ _ (by simp)] at h
    split at h
    next => cases h
    next => exact h

end ChangesTextFiles

/-- Adding directories touches no file at all. -/
theorem AddsDirectories.changesTextFiles (h : fs.AddsDirectories after) :
    fs.ChangesTextFiles after := by
  -- what is afterwards no directory was there before
  have hkept {location : Location} {entry : Entry} (hentry : entry ≠ .directory)
      (hafter : after.lookup location = some entry) : fs.lookup location = some entry := by
    cases hbefore : fs.lookup location with
    | none => exact absurd (h.added hbefore hafter) hentry
    | some old => rw [← h.kept hbefore, hafter]
  exact
    { other_files := fun _ => ⟨hkept (by simp), h.kept⟩
      directories := h.kept
      links := hkept (by simp) }

/-! ### Trees without links -/

/-- Without links a path leads to its last name in some directory. -/
theorem IsLinkFree.exists_reaches {purpose : Purpose} {spot : Spot} (hfree : fs.IsLinkFree)
    (hends : Path.EndsIn path above name) (hpurpose : purpose ≠ .location)
    (h : fs.locate purpose path = .ok spot) :
    ∃ directory, fs.Reaches path directory name ∧
      (spot = .vacant directory name ∨ spot = .found (name :: directory)) := by
  obtain ⟨directory, left, hreaches, hlast⟩ := exists_reaches_of_locate hends hpurpose h
  refine ⟨directory, hreaches, ?_⟩
  -- every rule but those for links stays with the name
  cases hlast with
  | stay => exact absurd rfl hreaches.isEntryName.ne_dot
  | up => exact absurd rfl hreaches.isEntryName.ne_up
  | vacant => exact .inl rfl
  | enter _ _ _ hwalks =>
    cases hwalks
    exact .inr rfl
  | file => exact .inr rfl
  | link _ hlink | follow _ hlink => exact absurd hlink (hfree _ _)

/-- Without links the file that is opened has the last name of the path. -/
theorem IsLinkFree.exists_eq_openPlace? (hfree : fs.IsLinkFree)
    (hends : Path.EndsIn path above name) (h : fs.openPlace? path = some place) :
    ∃ directory, place = name :: directory := by
  unfold openPlace? at h
  split at h
  next => cases h
  next found other hlocate =>
    obtain rfl := Option.some.inj h
    obtain ⟨directory, -, hspot⟩ := hfree.exists_reaches hends (by decide) hlocate
    obtain ⟨rfl, rfl⟩ : found = directory ∧ other = name := by simpa using hspot
    exact ⟨found, rfl⟩
  next location hlocate =>
    split at h
    next =>
      obtain rfl := Option.some.inj h
      obtain ⟨directory, -, hspot⟩ := hfree.exists_reaches hends (by decide) hlocate
      exact ⟨directory, by simpa using hspot⟩
    next => cases h

/-- Without links, once a temporary file is made, the file that a path leads to is replaced. -/
theorem IsLinkFree.exists_replaceFile_eq {result : FileSystem × Location} (hfree : fs.IsLinkFree)
    (hends : Path.EndsIn path above name) (hfile : fs.isFile path = true)
    (hmake : fs.makeTemporary ((Path.parent? path).getD ".") = .ok result)
    (content : ByteArray) :
    ∃ directory old, fs.locate .target path = .ok (.found (name :: directory)) ∧
      fs.lookup (name :: directory) = some (.file old) ∧
      fs.replaceFile path content = (fs.put (name :: directory) (.file content), .ok ()) := by
  obtain ⟨old, hread⟩ := isFile_iff.mp hfile
  obtain ⟨place, hlocate, hlookup⟩ := readFile_eq_ok_iff.mp hread
  obtain ⟨directory, hreaches, hspot⟩ := hfree.exists_reaches hends (by decide) hlocate
  obtain rfl : place = name :: directory := by simpa using hspot
  exact ⟨directory, old, hlocate, hlookup, replaceFile_eq content hreaches hlookup (by simp) hmake⟩

/-! ### Operations -/

/-- What is opened is no directory. -/
theorem not_directory_of_openPlace? (h : fs.openPlace? path = some place) :
    fs.lookup place ≠ some .directory := by
  obtain hnone | ⟨content, hfile⟩ := lookup_openPlace? h
  · simp [hnone]
  · simp [hfile]

theorem changesTextFiles_of_openPlace? (hfree : fs.IsLinkFree)
    (hends : Path.EndsIn path above name) (hname : Path.IsTextName name)
    (h : fs.openPlace? path = some place) (content : ByteArray) :
    fs.ChangesTextFiles (fs.put place (.file content)) := by
  obtain ⟨directory, rfl⟩ := hfree.exists_eq_openPlace? hends h
  exact .put hname (not_directory_of_openPlace? h) content

theorem changesTextFiles_of_writeFile (hfree : fs.IsLinkFree)
    (hends : Path.EndsIn path above name) (hname : Path.IsTextName name)
    (h : fs.writeFile path content = .ok after) : fs.ChangesTextFiles after := by
  obtain ⟨place, hplace, rfl⟩ := writeFile_eq_ok_iff.mp h
  exact changesTextFiles_of_openPlace? hfree hends hname hplace content

theorem changesTextFiles_of_copyFile {source : String} (hfree : fs.IsLinkFree)
    (hends : Path.EndsIn path above name) (hname : Path.IsTextName name)
    (h : fs.copyFile source path = .ok after) : fs.ChangesTextFiles after := by
  obtain ⟨place, content, hplace, rfl⟩ := put_of_copyFile h
  exact changesTextFiles_of_openPlace? hfree hends hname hplace content

/-- Removing needs no tree without links, since a link in the last place is not followed. -/
theorem changesTextFiles_of_removeFile (hends : Path.EndsIn path above name)
    (hname : Path.IsTextName name) (h : fs.removeFile path = .ok after) :
    fs.ChangesTextFiles after := by
  obtain ⟨place, hlocate, hplace, rfl⟩ := removeFile_eq_ok_iff.mp h
  obtain ⟨directory, left, hreaches, hlast⟩ := exists_reaches_of_locate hends (by decide) hlocate
  obtain ⟨hspot, -⟩ | ⟨hspot, -⟩ := hlast.spot_eq_of_entry hreaches.isEntryName
  · cases hspot
  · obtain rfl := Spot.found.inj hspot
    exact .remove hname hplace

/-- Replacing a file that is there touches no other, whether it succeeds or not: the temporary file
is gone again. -/
theorem changesTextFiles_of_replaceFile {result : Except FileFault Unit} (hfree : fs.IsLinkFree)
    (hends : Path.EndsIn path above name) (hname : Path.IsTextName name)
    (hfile : fs.isFile path = true) (h : fs.replaceFile path content = (after, result)) :
    fs.ChangesTextFiles after := by
  cases result with
  | error fault =>
    rw [replaceFile_eq_of_error h]
  | ok =>
    obtain ⟨_, hmake⟩ := exists_makeTemporary_of_replaceFile h
    obtain ⟨directory, old, -, hlookup, hreplace⟩ :=
      hfree.exists_replaceFile_eq hends hfile hmake content
    rw [hreplace] at h
    obtain rfl := (Prod.mk.inj h).1
    exact .put hname (by simp [hlookup]) content

end TextShell.FileSystem
