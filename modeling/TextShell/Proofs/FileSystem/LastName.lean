import TextShell.Proofs.FileSystem.Approach

/-!
# The last name of a path

A path whose last name is looked up comes to a directory first. What it leads to is then a matter
of the one entry with that name.

* `FileSystem.exists_reaches_of_locate`: a path that leads somewhere comes to its last name.
* `FileSystem.Reaches.congr`: it still does when no more than a dead end changes.
* `FileSystem.exists_place_of_isFile`: a path that leads to a file names an entry, and the file
  takes the place of that entry when it is replaced.
-/

namespace TextShell.FileSystem

/-- A path comes to its last name in a directory. -/
structure Reaches (fs : FileSystem) (path : String) (directory : Location) (name : String) :
    Prop where
  /-- The path can be followed. -/
  isFollowable : IsFollowable .target path
  /-- The name can stand in the directory. -/
  isEntryName : IsEntryName name
  /-- The names before it lead into the directory. -/
  approach : ∃ above left, Path.EndsIn path above name ∧
    Enters fs linkLimit (fs.pathStart path) above left directory

/-- Whether a path can be followed is the same for every purpose but asking for a location. -/
theorem IsFollowable.congr {purpose other : Purpose} {path : String}
    (h : IsFollowable purpose path) (hpurpose : purpose ≠ .location) :
    IsFollowable other path where
  no_zero := h.no_zero
  ne_empty := h.ne_empty
  short := fun hother => h.short ⟨hpurpose, hother.2⟩

section

variable {fs after : FileSystem} {purpose : Purpose} {path name : String} {above : List String}
  {directory : Location} {entry : Entry} {spot : Spot} {content : ByteArray}

theorem IsEntryName.isLookedUp_last (h : IsEntryName name) (hpurpose : purpose ≠ .location) :
    IsLookedUp purpose false directory name [] where
  toIsEntryName := h
  no_slash := by simp
  short_location := by simp [hpurpose]

/-- What a single name along a path is, its name can stand in a directory. -/
theorem Walks.isEntryName {links : Nat} {rest : List String} {slash : Bool}
    (h : Walks fs purpose links directory (name :: rest) slash spot) (hdot : name ≠ ".")
    (hup : name ≠ "..") : IsEntryName name := by
  cases h with
  | stay => exact absurd rfl hdot
  | up => exact absurd rfl hup
  | vacant hname | enter hname | file hname | link hname | follow hname =>
    exact hname.toIsEntryName

/-- A path that leads somewhere comes to its last name. -/
theorem exists_reaches_of_locate (hends : Path.EndsIn path above name)
    (hpurpose : purpose ≠ .location) (h : fs.locate purpose path = .ok spot) :
    ∃ directory left, fs.Reaches path directory name ∧
      Walks fs purpose left directory [name] false spot := by
  obtain ⟨hfollowable, hwalks⟩ := locate_eq_ok_iff.mp h
  -- the walk is cut before its last name
  rw [hends.names_eq, hends.no_slash] at hwalks
  obtain ⟨left, directory, henters, hlast⟩ := hwalks.exists_enters (by simp)
  exact ⟨directory, left, ⟨hfollowable.congr hpurpose, hlast.isEntryName hends.ne_dot hends.ne_up,
    above, left, hends, henters⟩, hlast⟩

/-- From its last name a path leads on as that name does. -/
theorem Reaches.locate_eq_ok (h : fs.Reaches path directory name) (hpurpose : purpose ≠ .location)
    (hlast : ∀ left, Walks fs purpose left directory [name] false spot) :
    fs.locate purpose path = .ok spot := by
  obtain ⟨above, left, hends, henters⟩ := h.approach
  refine locate_eq_ok_iff.mpr ⟨h.isFollowable.congr (by decide), ?_⟩
  rw [hends.names_eq, hends.no_slash]
  exact henters.walks (by simp) hpurpose (hlast left)

/-- A path to a missing entry leads to a vacant spot. -/
theorem Reaches.locate_of_missing (h : fs.Reaches path directory name)
    (hpurpose : purpose ≠ .location) (hlookup : fs.lookup (name :: directory) = none) :
    fs.locate purpose path = .ok (.vacant directory name) :=
  h.locate_eq_ok hpurpose fun _ => .vacant (h.isEntryName.isLookedUp_last hpurpose) hlookup

/-- A path to a file leads to it. -/
theorem Reaches.locate_of_file (h : fs.Reaches path directory name)
    (hpurpose : purpose ≠ .location) (hlookup : fs.lookup (name :: directory) = some (.file content)) :
    fs.locate purpose path = .ok (.found (name :: directory)) :=
  h.locate_eq_ok hpurpose fun _ => .file (h.isEntryName.isLookedUp_last hpurpose) hlookup

/-- A path names what stands in the place of its last name. -/
theorem Reaches.locate_entry (h : fs.Reaches path directory name)
    (hlookup : fs.lookup (name :: directory) = some entry) :
    fs.locate .entry path = .ok (.found (name :: directory)) := by
  apply h.locate_eq_ok (by decide)
  intro left
  cases entry with
  | directory =>
    exact .enter (h.isEntryName.isLookedUp_last (by decide)) hlookup
      (takesSlash_of_ne (by decide)) .arrive
  | file content => exact .file (h.isEntryName.isLookedUp_last (by decide)) hlookup
  | link target => exact .link (h.isEntryName.isLookedUp_last (by decide)) hlookup rfl

/-- Where an entry is asked for, the last name is not followed. -/
theorem Walks.spot_eq_of_entry {left : Nat} (hname : IsEntryName name)
    (h : Walks fs .entry left directory [name] false spot) :
    spot = .vacant directory name ∧ fs.lookup (name :: directory) = none ∨
      spot = .found (name :: directory) ∧ ∃ entry, fs.lookup (name :: directory) = some entry := by
  cases h with
  | stay => exact absurd rfl hname.ne_dot
  | up => exact absurd rfl hname.ne_up
  | vacant _ hlookup => exact .inl ⟨rfl, hlookup⟩
  | enter _ hlookup _ hwalks =>
    cases hwalks
    exact .inr ⟨rfl, _, hlookup⟩
  | file _ hlookup | link _ hlookup => exact .inr ⟨rfl, _, hlookup⟩
  | follow _ _ hlast => exact absurd ⟨rfl, rfl, rfl⟩ hlast

/-- A path comes to its last name as before when no more than a dead end changes. -/
theorem Reaches.congr (h : fs.Reaches path directory name) {place : Location} {other : String}
    (hdead : fs.IsDeadEnd place other)
    (hkeep : ∀ location, location ≠ other :: place → after.lookup location = fs.lookup location)
    (hworking : after.workingDirectory = fs.workingDirectory) :
    after.Reaches path directory name := by
  obtain ⟨above, left, hends, henters⟩ := h.approach
  refine ⟨h.isFollowable, h.isEntryName, above, left, hends, ?_⟩
  -- the path starts where it did, and the way from there does not pass the dead end
  have hstart : after.pathStart path = fs.pathStart path := by rw [pathStart, pathStart, hworking]
  rw [hstart]
  exact henters.congr hdead hkeep

/-- A path that leads to a file names an entry which is no directory, and through which no way
passes. -/
theorem exists_place_of_isFile (hfs : fs.WellFormed) (hends : Path.EndsIn path above name)
    {place : Location} (h : fs.locate .target path = .ok (.found place))
    (hplace : fs.lookup place = some (.file content)) :
    ∃ directory entry, fs.Reaches path directory name ∧ fs.IsDeadEnd directory name ∧
      fs.lookup (name :: directory) = some entry ∧ entry ≠ .directory := by
  obtain ⟨directory, left, hreaches, hlast⟩ := exists_reaches_of_locate hends (by decide) h
  have hname := hreaches.isEntryName
  have hdirectory : fs.lookup directory = some .directory := by
    obtain ⟨_, _, _, henters⟩ := hreaches.approach
    exact henters.lookup_eq_directory hfs (hfs.lookup_pathStart path)
  -- the last name is that of the file, or of a link through which the file is found
  cases hlast with
  | stay => exact absurd rfl hname.ne_dot
  | up => exact absurd rfl hname.ne_up
  | enter _ hlookup _ hwalks =>
    cases hwalks
    simp [hplace] at hlookup
  | file _ hlookup =>
    exact ⟨directory, _, hreaches, isDeadEnd_of_file hname hlookup, hlookup, by simp⟩
  | link _ _ hpurpose => cases hpurpose
  | follow _ hlookup _ hwalks =>
    rw [List.append_nil] at hwalks
    exact ⟨directory, _, hreaches, isDeadEnd_of_link hfs hname hdirectory hlookup hwalks hplace,
      hlookup, by simp⟩

end

end TextShell.FileSystem
