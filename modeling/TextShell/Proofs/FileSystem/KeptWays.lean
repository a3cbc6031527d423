import TextShell.Proofs.FileSystem.Effect

/-!
# Ways that are kept

A path is followed through directories and links. As long as these stay where they are, a path that
leads to something goes on to lead there, whatever files come and go, and a path that leads to a
vacant spot leads to what is put there. Where an entry on the way is missing afterwards, the path
leads nowhere any more, and the fault is that nothing is there.

* `FileSystem.KeepsWays`: every directory and link is where it was.
* `FileSystem.Walks.of_keepsWays`: what was found is found again.
* `FileSystem.Walks.of_filled`: what is put on a vacant spot is found.
* `FileSystem.Walks.walk_of_removed`: what was found and is removed is missed.
-/

namespace TextShell.FileSystem

/-- Every directory and every link is where it was; files may have come, gone and changed. -/
structure KeepsWays (fs after : FileSystem) : Prop where
  /-- Relative paths start where they did. -/
  workingDirectory_eq : after.workingDirectory = fs.workingDirectory
  /-- What can be passed through is there. -/
  kept {location : Location} {entry : Entry} :
    fs.lookup location = some entry → entry.isFile = false → after.lookup location = some entry

variable {fs after : FileSystem} {purpose : Purpose} {links : Nat} {here directory : Location}
  {place : Location} {name path : String} {names : List String} {slash : Bool}
  {content : ByteArray}

namespace KeepsWays

/-- Anything may be put where nothing is or a file is. -/
theorem put (hplace : fs.lookup place = none ∨ ∃ content, fs.lookup place = some (.file content))
    (entry : Entry) : fs.KeepsWays (fs.put place entry) where
  workingDirectory_eq := rfl
  kept {location old} hlookup hold := by
    -- a directory or a link is neither nothing nor a file
    have hne : location ≠ place := by
      rintro rfl
      obtain hnone | ⟨content, hfile⟩ := hplace
      · simp [hnone] at hlookup
      · rw [hfile] at hlookup
        obtain rfl := Option.some.inj hlookup
        cases hold
    have hroot : place ≠ [] := by
      rintro rfl
      simp at hplace
    rw [lookup_put_of_ne _ hroot hne, hlookup]

end KeepsWays

/-- Where a path starts does not depend on the entries. -/
theorem KeepsWays.pathStart_eq (h : fs.KeepsWays after) (path : String) :
    after.pathStart path = fs.pathStart path := by
  rw [pathStart, pathStart, h.workingDirectory_eq]

/-! ### Found again -/

/-- Names lead on to what they led to, as long as a file in that place is not missing. -/
theorem Walks.of_keepsWays (h : Walks fs purpose links here names slash (.found place))
    (hways : fs.KeepsWays after)
    (hplace : ∀ content, fs.lookup place = some (.file content) →
      ∃ content, after.lookup place = some (.file content)) :
    Walks after purpose links here names slash (.found place) := by
  generalize hspot : Spot.found place = spot at h
  -- every step passes through a directory or a link, which is kept, up to the last
  induction h with
  | arrive => exact .arrive
  | stay _ ih => exact .stay (ih hspot)
  | up _ ih => exact .up (ih hspot)
  | vacant => cases hspot
  | enter hname hlookup hroom _ ih =>
    exact .enter hname (hways.kept hlookup rfl) hroom (ih hspot)
  | file hname hlookup =>
    obtain rfl := Spot.found.inj hspot
    obtain ⟨content, hafter⟩ := hplace _ hlookup
    exact .file hname hafter
  | link hname hlookup hpurpose => exact .link hname (hways.kept hlookup rfl) hpurpose
  | follow hname hlookup hlast _ ih =>
    exact .follow hname (hways.kept hlookup rfl) hlast (ih hspot)

/-- Names that led to a vacant spot lead to what is there now: a directory, or a file if the names
were followed to make one. -/
theorem Walks.of_filled (h : Walks fs purpose links here names slash (.vacant directory name))
    (hways : fs.KeepsWays after) (hpurpose : purpose ≠ .location)
    (hfilled : after.lookup (name :: directory) = some .directory ∨
      purpose = .creation ∧ ∃ content, after.lookup (name :: directory) = some (.file content)) :
    Walks after purpose links here names slash (.found (name :: directory)) := by
  generalize hspot : Spot.vacant directory name = spot at h
  induction h with
  | arrive | file | link => cases hspot
  | stay _ ih => exact .stay (ih hspot)
  | up _ ih => exact .up (ih hspot)
  | @vacant links here last slash hname hlookup =>
    obtain ⟨rfl, rfl⟩ := Spot.vacant.inj hspot
    obtain hdirectory | ⟨hcreation, content, hfile⟩ := hfilled
    · exact .enter hname hdirectory (takesSlash_of_ne hpurpose) .arrive
    · -- no slash follows the name of a file that is to be made
      have hslash : slash = false := by
        rw [← Bool.not_eq_true]
        exact fun hslash => hname.no_slash ⟨hcreation, rfl, hslash⟩
      subst hslash
      exact .file hname hfile
  | enter hname hlookup hroom _ ih =>
    exact .enter hname (hways.kept hlookup rfl) hroom (ih hspot)
  | follow hname hlookup hlast _ ih =>
    exact .follow hname (hways.kept hlookup rfl) hlast (ih hspot)

/-- A path goes on to lead to a file or a directory. -/
theorem KeepsWays.locate_eq_found (hways : fs.KeepsWays after)
    (h : fs.locate purpose path = .ok (.found place))
    (hplace : ∀ content, fs.lookup place = some (.file content) →
      ∃ content, after.lookup place = some (.file content)) :
    after.locate purpose path = .ok (.found place) := by
  obtain ⟨hfollowable, hwalks⟩ := locate_eq_ok_iff.mp h
  refine locate_eq_ok_iff.mpr ⟨hfollowable, ?_⟩
  rw [hways.pathStart_eq]
  exact hwalks.of_keepsWays hways hplace

/-- A path to a vacant spot leads to what is put there. -/
theorem KeepsWays.locate_eq_filled (hways : fs.KeepsWays after)
    (h : fs.locate purpose path = .ok (.vacant directory name)) (hpurpose : purpose ≠ .location)
    (hfilled : after.lookup (name :: directory) = some .directory ∨
      purpose = .creation ∧ ∃ content, after.lookup (name :: directory) = some (.file content)) :
    after.locate purpose path = .ok (.found (name :: directory)) := by
  obtain ⟨hfollowable, hwalks⟩ := locate_eq_ok_iff.mp h
  refine locate_eq_ok_iff.mpr ⟨hfollowable, ?_⟩
  rw [hways.pathStart_eq]
  exact hwalks.of_filled hways hpurpose hfilled

/-! ### One path for two purposes -/

/-- A name that is looked up where nothing is made is looked up for every such purpose. -/
theorem IsLookedUp.congr {other : Purpose} {rest : List String}
    (h : IsLookedUp purpose slash here name rest) (hcreation : other ≠ .creation)
    (hlocation : other ≠ .location) : IsLookedUp other slash here name rest where
  toIsEntryName := h.toIsEntryName
  no_slash := fun hother => hcreation hother.1
  short_location := fun hother => hlocation hother.1

/-- Where an entry is missing, what it might lead to is missing. -/
theorem Walks.target_of_vacant
    (h : Walks fs .entry links here names slash (.vacant directory name)) :
    Walks fs .target links here names slash (.vacant directory name) := by
  generalize hspot : Spot.vacant directory name = spot at h
  -- the purposes differ only in a link in the last place, where nothing is
  induction h with
  | arrive | file | link => cases hspot
  | stay _ ih => exact .stay (ih hspot)
  | up _ ih => exact .up (ih hspot)
  | vacant hname hlookup =>
    obtain ⟨rfl, rfl⟩ := Spot.vacant.inj hspot
    exact .vacant (hname.congr (by decide) (by decide)) hlookup
  | enter hname hlookup _ _ ih =>
    exact .enter (hname.congr (by decide) (by decide)) hlookup (takesSlash_of_ne (by decide))
      (ih hspot)
  | follow hname hlookup _ _ ih =>
    exact .follow (hname.congr (by decide) (by decide)) hlookup (by simp) (ih hspot)

/-- What leads somewhere is there. -/
theorem Walks.exists_entry (h : Walks fs .target links here names slash (.found place)) :
    ∃ entry, Walks fs .entry links here names slash (.found entry) := by
  generalize hspot : Spot.found place = spot at h
  induction h with
  | arrive => exact ⟨_, .arrive⟩
  | stay _ ih =>
    obtain ⟨entry, hwalks⟩ := ih hspot
    exact ⟨entry, .stay hwalks⟩
  | up _ ih =>
    obtain ⟨entry, hwalks⟩ := ih hspot
    exact ⟨entry, .up hwalks⟩
  | vacant => cases hspot
  | enter hname hlookup _ _ ih =>
    obtain ⟨entry, hwalks⟩ := ih hspot
    exact ⟨entry, .enter (hname.congr (by decide) (by decide)) hlookup
      (takesSlash_of_ne (by decide)) hwalks⟩
  | file hname hlookup => exact ⟨_, .file (hname.congr (by decide) (by decide)) hlookup⟩
  | link _ _ hpurpose => cases hpurpose
  | @follow links here name target rest slash spot hname hlookup _ _ ih =>
    -- a link in the last place is itself the entry
    by_cases hlast : rest = [] ∧ slash = false
    · obtain ⟨rfl, rfl⟩ := hlast
      exact ⟨_, .link (hname.congr (by decide) (by decide)) hlookup rfl⟩
    · obtain ⟨entry, hwalks⟩ := ih hspot
      exact ⟨entry, .follow (hname.congr (by decide) (by decide)) hlookup
        (fun hentry => hlast hentry.2) hwalks⟩

/-! ### Removed -/

/-- Names that led to something no directory do not lead anywhere when it is removed. If they lead
past its place before they are at an end, then all that comes after is missing, too. -/
theorem Walks.walk_of_removed (h : Walks fs purpose links here names slash (.found place))
    (hfs : fs.WellFormed) (hhere : fs.lookup here = some .directory)
    (hplace : fs.lookup place ≠ some .directory) (hmissing : after.lookup place = none)
    (hkeep : ∀ location, location ≠ place → after.lookup location = fs.lookup location) :
    after.walk purpose links here names slash = .error .noEntry ∨
      ∃ above last, after.walk purpose links here names slash = .ok (.vacant above last) := by
  generalize hspot : Spot.found place = spot at h
  -- at each name, either the place is come to and the walk ends there, or the step is as it was
  have hend {links : Nat} {here : Location} {name : String} {rest : List String} {slash : Bool}
      (hname : IsLookedUp purpose slash here name rest) (heq : name :: here = place) :
      after.walk purpose links here (name :: rest) slash = .error .noEntry ∨
        ∃ above last,
          after.walk purpose links here (name :: rest) slash = .ok (.vacant above last) := by
    rw [walk_of_missing hname (by rw [heq, hmissing])]
    split
    · exact .inr ⟨here, name, rfl⟩
    · exact .inl rfl
  induction h with
  | arrive =>
    obtain rfl := Spot.found.inj hspot
    exact absurd hhere hplace
  | stay _ ih =>
    rw [walk_stay]
    exact ih hhere hspot
  | up _ ih =>
    rw [walk_up]
    exact ih (hfs.lookup_tail hhere) hspot
  | vacant => cases hspot
  | @enter links here name rest slash spot hname hlookup hroom _ ih =>
    have hne : name :: here ≠ place := by
      rintro rfl
      exact hplace hlookup
    rw [walk_of_directory hname ((hkeep _ hne).trans hlookup) hroom]
    exact ih hlookup hspot
  | file hname _ | link hname _ _ => exact hend hname (Spot.found.inj hspot).symm
  | @follow links here name target rest slash spot hname hlookup hlast _ ih =>
    by_cases heq : name :: here = place
    · exact hend hname heq
    · rw [walk_of_link hname ((hkeep _ heq).trans hlookup) hlast]
      exact ih (lookup_linkStart target hhere) hspot

/-- A path to what has been removed is one to a missing entry. -/
theorem locate_of_removed (hfs : fs.WellFormed)
    (h : fs.locate purpose path = .ok (.found place)) (hplace : fs.lookup place ≠ some .directory) :
    (fs.remove place).locate purpose path = .error .noEntry ∨
      ∃ above last, (fs.remove place).locate purpose path = .ok (.vacant above last) := by
  obtain ⟨hfollowable, hwalks⟩ := locate_eq_ok_iff.mp h
  have hroot : place ≠ [] := by
    rintro rfl
    exact hplace rfl
  rw [hfollowable.locate_eq]
  refine hwalks.walk_of_removed hfs (hfs.lookup_pathStart path) hplace ?_ fun location hne => ?_
  · rw [lookup_remove _ _ hroot, if_pos rfl]
  · rw [lookup_remove _ _ hroot, if_neg hne]

end TextShell.FileSystem
