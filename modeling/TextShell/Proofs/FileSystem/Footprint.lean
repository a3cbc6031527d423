import TextShell.FileCommand
import TextShell.Proofs.FileSystem.StraightPaths

/-!
# What operations look at

In a tree without links an operation on straight paths looks at the entries on the way to their
locations, and at the temporary files beside these. In another tree that holds the same there, it
comes to the same: it fails with the same fault or changes the same place in the same way.

* `FileSystem.IsNear`: the places that may be looked at for a location.
* `FileSystem.SameAround`: two trees without links that hold the same at all these places.
* `FileSystem.SameChange`: two results are the same fault or the same change of one place.
* `FileSystem.SameAround.copyFile` and its like: one statement for each operation.
-/

namespace TextShell.FileSystem

/-! ### Changes of one place -/

/-- The file system with something else at a location, or nothing. -/
def alter (fs : FileSystem) (place : Location) : Option Entry → FileSystem
  | none => fs.remove place
  | some entry => fs.put place entry

theorem lookup_alter (fs : FileSystem) {place : Location} (entry : Option Entry)
    (location : Location) (h : place ≠ []) :
    (fs.alter place entry).lookup location = if location = place then entry
      else fs.lookup location := by
  cases entry with
  | none => exact lookup_remove fs location h
  | some entry => exact lookup_put fs entry location h

theorem entries_alter (fs : FileSystem) (place : Location) (entry : Option Entry)
    (location : Location) :
    (fs.alter place entry).entries[location]? = if location = place then entry
      else fs.entries[location]? := by
  by_cases heq : location = place
  · cases entry <;> simp [alter, put, remove, heq]
  · cases entry <;> simp [alter, put, remove, Std.ExtTreeMap.getElem?_insert,
      Std.ExtTreeMap.getElem?_erase, heq, Ne.symm heq]

/-- What two trees hold in common they still do after the same change. -/
theorem lookup_alter_congr {fs other : FileSystem} {location : Location}
    (h : other.lookup location = fs.lookup location) (place : Location) (entry : Option Entry) :
    (other.alter place entry).lookup location = (fs.alter place entry).lookup location := by
  cases location with
  | nil => rfl
  | cons name above =>
    rw [lookup_cons, lookup_cons] at h ⊢
    rw [entries_alter, entries_alter, h]

@[simp]
theorem workingDirectory_alter (fs : FileSystem) (place : Location) (entry : Option Entry) :
    (fs.alter place entry).workingDirectory = fs.workingDirectory := by
  cases entry <;> rfl

/-- Changes of different places can be made in either order. -/
theorem alter_comm (fs : FileSystem) {place second : Location} (h : place ≠ second)
    (entry last : Option Entry) :
    (fs.alter place entry).alter second last = (fs.alter second last).alter place entry := by
  refine ext_entries (fun location => ?_) (by simp)
  simp only [entries_alter]
  -- no location is both places, so at most one of the changes is seen there
  by_cases hplace : location = place
  · have hsecond : location ≠ second := fun heq => h (hplace.symm.trans heq)
    rw [if_pos hplace, if_pos hplace, if_neg hsecond]
  · rw [if_neg hplace, if_neg hplace]

/-- A tree without links stays one when something else than a link is put somewhere. -/
theorem IsLinkFree.alter {fs : FileSystem} {place : Location} {entry : Option Entry}
    (hfree : fs.IsLinkFree) (hplace : place ≠ []) (hentry : ∀ target, entry ≠ some (.link target)) :
    (fs.alter place entry).IsLinkFree := by
  intro location target hlink
  rw [lookup_alter fs entry location hplace] at hlink
  split at hlink
  next => exact hentry target hlink
  next => exact hfree location target hlink

/-- On two trees the same is done: both fail with the same fault, or one place is changed in the
same way in both. Nothing is made a link. -/
inductive SameChange (fs other : FileSystem) (place : Location) :
    Except FileFault FileSystem → Except FileFault FileSystem → Prop where
  /-- The same fault. -/
  | fault (fault : FileFault) : SameChange fs other place (.error fault) (.error fault)
  /-- The same change. -/
  | done {entry : Option Entry} : (∀ target, entry ≠ some (.link target)) →
      SameChange fs other place (.ok (fs.alter place entry)) (.ok (other.alter place entry))

theorem SameChange.file {fs other : FileSystem} {place : Location} (content : ByteArray) :
    SameChange fs other place (.ok (fs.put place (.file content)))
      (.ok (other.put place (.file content))) := by
  have hentry : ∀ target, some (Entry.file content) ≠ some (.link target) := by simp
  exact .done hentry

/-! ### Places that are looked at -/

/-- A place is on the way to a location, or that of a temporary file beside it. -/
def IsNear (location place : Location) : Prop :=
  place <:+ location ∨ ∃ number, place = temporaryName number :: location.tail

/-- Neither tree has links, and both hold the same at every place near the location of a path. -/
structure SameAround (fs other : FileSystem) (path : String) : Prop where
  /-- The first tree has no links. -/
  isLinkFree : fs.IsLinkFree
  /-- Neither has the second. -/
  isLinkFree_other : other.IsLinkFree
  /-- The path goes straight down. -/
  isStraight : Path.IsStraight path
  /-- What is near the location of the path is the same. -/
  lookup_eq {place : Location} :
    IsNear (Path.location path) place → other.lookup place = fs.lookup place

namespace SameAround

variable {fs other : FileSystem} {path source : String} {content : ByteArray}

theorem locate_eq (h : fs.SameAround other path) (purpose : Purpose) :
    other.locate purpose path = fs.locate purpose path :=
  locate_congr h.isLinkFree h.isStraight fun _ hway => h.lookup_eq (.inl hway)

/-- Where the path leads the same is found. -/
theorem lookup_found (h : fs.SameAround other path) {purpose : Purpose} {place : Location}
    (hlocate : fs.locate purpose path = .ok (.found place)) :
    place = Path.location path ∧ other.lookup place = fs.lookup place := by
  have hplace : place = Path.location path := location_of_locate h.isLinkFree h.isStraight hlocate
  have hnear : IsNear (Path.location path) place := .inl (hplace ▸ List.suffix_rfl)
  exact ⟨hplace, h.lookup_eq hnear⟩

theorem refl (hfree : fs.IsLinkFree) (hpath : Path.IsStraight path) : fs.SameAround fs path where
  isLinkFree := hfree
  isLinkFree_other := hfree
  isStraight := hpath
  lookup_eq _ := rfl

/-- A change of a place that is not near leaves all as it was around a path. -/
theorem of_alter {place : Location} {entry : Option Entry} (hfree : fs.IsLinkFree)
    (hpath : Path.IsStraight path) (hplace : place ≠ [])
    (hfar : ¬ IsNear (Path.location path) place)
    (hentry : ∀ target, entry ≠ some (.link target)) :
    fs.SameAround (fs.alter place entry) path where
  isLinkFree := hfree
  isLinkFree_other := hfree.alter hplace hentry
  isStraight := hpath
  lookup_eq {location} hnear := by
    rw [lookup_alter fs entry location hplace, if_neg]
    rintro rfl
    exact hfar hnear

/-! ### Reading -/

theorem readFile_eq (h : fs.SameAround other path) : other.readFile path = fs.readFile path := by
  unfold readFile
  rw [h.locate_eq]
  cases hlocate : fs.locate .target path with
  | error fault => rfl
  | ok spot =>
    cases spot with
    | vacant directory name => rfl
    | found place =>
      dsimp only
      rw [(h.lookup_found hlocate).2]

theorem readText_eq (h : fs.SameAround other path) : other.readText path = fs.readText path := by
  unfold readText
  rw [h.readFile_eq]

theorem isFile_eq (h : fs.SameAround other path) : other.isFile path = fs.isFile path := by
  rw [Bool.eq_iff_iff, isFile_iff, isFile_iff, h.readFile_eq]

theorem isSamePlace_eq (hsource : fs.SameAround other source) (h : fs.SameAround other path) :
    other.isSamePlace source path = fs.isSamePlace source path := by
  unfold isSamePlace canonicalize
  rw [hsource.locate_eq, h.locate_eq]

/-! ### Single changes -/

/-- A file is opened in the same way: not at all, with the same fault, or in the same place. -/
theorem openEmpty (h : fs.SameAround other path) :
    (∃ fault, fs.openEmpty path = .error fault ∧ other.openEmpty path = .error fault) ∨
      fs.openEmpty path =
        .ok (fs.put (Path.location path) (.file .empty), Path.location path) ∧
      other.openEmpty path =
        .ok (other.put (Path.location path) (.file .empty), Path.location path) := by
  unfold FileSystem.openEmpty
  rw [h.locate_eq]
  cases hlocate : fs.locate .creation path with
  | error fault => exact .inl ⟨fault, rfl, rfl⟩
  | ok spot =>
    have hlocation := location_of_locate h.isLinkFree h.isStraight hlocate
    cases spot with
    | vacant directory name =>
      rw [← hlocation]
      exact .inr ⟨rfl, rfl⟩
    | found place =>
      -- what is found decides, and it is the same
      dsimp only
      rw [(h.lookup_found hlocate).2, ← hlocation]
      cases fs.lookup place with
      | none => exact .inl ⟨_, rfl, rfl⟩
      | some entry =>
        cases entry with
        | file => exact .inr ⟨rfl, rfl⟩
        | directory | link => exact .inl ⟨_, rfl, rfl⟩

theorem copyFile (hsource : fs.SameAround other source) (h : fs.SameAround other path) :
    SameChange fs other (Path.location path) (fs.copyFile source path)
      (other.copyFile source path) := by
  unfold FileSystem.copyFile
  rw [hsource.locate_eq]
  cases hlocate : fs.locate .target source with
  | error fault => exact .fault fault
  | ok spot =>
    cases spot with
    | vacant directory name => exact .fault .noEntry
    | found origin =>
      dsimp only
      obtain ⟨fault, hfault, hother⟩ | ⟨hopen, hother⟩ := h.openEmpty
      · rw [hfault, hother]
        exact .fault fault
      · rw [hopen, hother]
        dsimp only
        -- the source is the same in both trees, also if it is the place that was emptied
        have horigin : (other.put (Path.location path) (.file .empty)).lookup origin =
            (fs.put (Path.location path) (.file .empty)).lookup origin :=
          lookup_alter_congr (hsource.lookup_found hlocate).2 _ (some _)
        rw [horigin]
        cases (fs.put (Path.location path) (.file .empty)).lookup origin with
        | none => exact .fault .isDirectory
        | some entry =>
          cases entry with
          | directory | link => exact .fault .isDirectory
          | file content =>
            dsimp only
            rw [put_put, put_put]
            exact .file content

theorem removeFile (h : fs.SameAround other path) :
    SameChange fs other (Path.location path) (fs.removeFile path) (other.removeFile path) := by
  unfold FileSystem.removeFile
  rw [h.locate_eq]
  cases hlocate : fs.locate .entry path with
  | error fault => exact .fault fault
  | ok spot =>
    cases spot with
    | vacant directory name => exact .fault .noEntry
    | found place =>
      obtain ⟨rfl, hlookup⟩ := h.lookup_found hlocate
      -- only a directory stays, and it is one in both trees
      dsimp only
      rw [hlookup]
      split
      · exact .fault .isDirectory
      · have hentry : ∀ target, (none : Option Entry) ≠ some (.link target) := by simp
        exact .done hentry

/-! ### Replacing -/

/-- Beside the location of a path the same temporary file is made, or none with the same fault. -/
theorem makeNumbered {parent name : String} (h : fs.SameAround other path)
    (hparent : Path.IsStraight parent)
    (hlocation : Path.location path = name :: Path.location parent)
    (attempts number : Nat) :
    (other.makeNumbered parent attempts number).map Prod.snd =
      (fs.makeNumbered parent attempts number).map Prod.snd := by
  -- each attempt looks at one more name beside the location
  induction attempts generalizing number with
  | zero => rfl
  | succ attempts ih =>
    obtain ⟨hstraight, htemporary⟩ := hparent.join (endsIn_temporaryName number)
    have hlocate : other.locate .entry (Path.join parent (temporaryName number)) =
        fs.locate .entry (Path.join parent (temporaryName number)) := by
      apply locate_congr h.isLinkFree hstraight
      intro place hplace
      rw [htemporary] at hplace
      apply h.lookup_eq
      rw [hlocation]
      -- the temporary file itself is beside the location, everything above it is on the way there
      obtain rfl | habove := List.suffix_cons_iff.mp hplace
      · exact .inr ⟨number, rfl⟩
      · exact .inl (habove.trans (List.suffix_cons ..))
    rw [FileSystem.makeNumbered, FileSystem.makeNumbered, hlocate]
    cases fs.locate .entry (Path.join parent (temporaryName number)) with
    | error fault => rfl
    | ok spot =>
      cases spot with
      | found place => exact ih (number + 1)
      | vacant directory name => rfl

theorem makeTemporary {parent name : String} (h : fs.SameAround other path)
    (hparent : Path.IsStraight parent)
    (hlocation : Path.location path = name :: Path.location parent) :
    (other.makeTemporary parent).map Prod.snd = (fs.makeTemporary parent).map Prod.snd := by
  have hresolve (directory : String) : Path.resolve directory parent = parent := by
    rw [Path.resolve, if_pos hparent.isAbsolute]
  unfold FileSystem.makeTemporary
  rw [hresolve, hresolve]
  exact h.makeNumbered hparent hlocation _ _

/-- A file is replaced in both trees, or in neither with the same fault. -/
theorem replaceFile {above : List String} {name : String} (h : fs.SameAround other path)
    (hends : Path.EndsIn path above name) (hfile : fs.isFile path = true) (content : ByteArray) :
    (∃ fault, fs.replaceFile path content = (fs, .error fault) ∧
        other.replaceFile path content = (other, .error fault)) ∨
      fs.replaceFile path content = (fs.put (Path.location path) (.file content), .ok ()) ∧
        other.replaceFile path content =
          (other.put (Path.location path) (.file content), .ok ()) := by
  obtain ⟨parent, hparent, hstraight, hlocation⟩ := h.isStraight.exists_parent? hends
  have hgetD : (Path.parent? path).getD "." = parent := by rw [hparent, Option.getD_some]
  have hmade := h.makeTemporary hstraight hlocation
  cases hmake : fs.makeTemporary parent with
  | error fault =>
    -- without a temporary file nothing is done
    have hother : other.makeTemporary parent = .error fault := by
      cases hother : other.makeTemporary parent with
      | error fault => simpa [hmake, hother, Except.map] using hmade
      | ok => simp [hmake, hother, Except.map] at hmade
    rw [← hgetD] at hmake hother
    exact .inl ⟨fault, replaceFile_of_error hmake content, replaceFile_of_error hother content⟩
  | ok made =>
    obtain ⟨result, hother⟩ : ∃ result, other.makeTemporary parent = .ok result := by
      cases hother : other.makeTemporary parent with
      | error fault => simp [hmake, hother, Except.map] at hmade
      | ok result => exact ⟨result, rfl⟩
    have hfileOther : other.isFile path = true := by rw [h.isFile_eq, hfile]
    rw [← hgetD] at hmake hother
    have hreplace := h.isLinkFree.replaceFile_eq h.isStraight hends hfile hmake content
    have hreplaceOther :=
      h.isLinkFree_other.replaceFile_eq h.isStraight hends hfileOther hother content
    exact .inr ⟨hreplace, hreplaceOther⟩

end SameAround

end TextShell.FileSystem
