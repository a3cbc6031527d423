import TextShell.FileCommand
import TextShell.Proofs.FileSystem.RegularFile
import TextShell.Proofs.FileSystem.Repetition

/-!
# The same place under two paths

Two paths can lead to one file: through double dots, links, or one of them absolute and one not.
They are told apart by the location that each leads to. This location has an absolute path of its
own, which may be too long to be asked for even where the path that leads there is short; then the
two are taken for different files. Where no absolute path is too long, the comparison is right, and
copying one file to another changes the other one only.

* `FileSystem.Walks.of_purpose`: what is found for one purpose is found for another.
* `FileSystem.HasShortPaths`: the absolute path of everything that is there is short enough.
* `FileSystem.isSamePlace_of_leadsToFile`: then two paths to one file are seen to be the same.
* `FileSystem.leadsToFile_of_copyFile`: then a file that is copied is found under both paths.
-/

namespace TextShell.FileSystem

variable {fs after : FileSystem} {purpose : Purpose} {links : Nat} {here place origin : Location}
  {names : List String} {slash : Bool} {path source destination : String}
  {content old : ByteArray}

/-! ### One path for two purposes -/

/-- What is found where links are followed is found for another such purpose, if each name on the
way can be looked up for it and each directory there takes the slash that it may be given. -/
theorem Walks.of_purpose {other : Purpose}
    (h : Walks fs purpose links here names slash (.found place)) (hpurpose : purpose ≠ .entry)
    (hother : other ≠ .entry)
    (hnames : ∀ {slash : Bool} {here : Location} {name : String} {rest : List String}
      {entry : Entry}, IsLookedUp purpose slash here name rest →
      fs.lookup (name :: here) = some entry → IsLookedUp other slash here name rest)
    (hrooms : ∀ {slash : Bool} {here : Location} {rest : List String},
      fs.lookup here = some .directory → TakesSlash other slash here rest) :
    Walks fs other links here names slash (.found place) := by
  generalize hspot : Spot.found place = spot at h
  -- each step finds an entry under its name, so it is a step for the other purpose
  induction h with
  | arrive => exact .arrive
  | stay _ ih => exact .stay (ih hspot)
  | up _ ih => exact .up (ih hspot)
  | vacant => cases hspot
  | enter hname hlookup _ _ ih =>
    exact .enter (hnames hname hlookup) hlookup (hrooms hlookup) (ih hspot)
  | file hname hlookup => exact .file (hnames hname hlookup) hlookup
  | link _ _ hentry => exact absurd hentry hpurpose
  | follow hname hlookup _ _ ih =>
    exact .follow (hnames hname hlookup) hlookup (fun hlast => hother hlast.1) (ih hspot)

/-- What is found where links are followed is what the path leads to, if this is short enough. -/
theorem locate_target_of_locate (hpurpose : purpose ≠ .entry)
    (hfollowable : IsFollowable .target path) (h : fs.locate purpose path = .ok (.found place)) :
    fs.locate .target path = .ok (.found place) := by
  obtain ⟨-, hwalks⟩ := locate_eq_ok_iff.mp h
  refine locate_eq_ok_iff.mpr ⟨hfollowable, ?_⟩
  -- no other purpose asks less of a name
  refine hwalks.of_purpose hpurpose (by decide) ?_ fun _ => takesSlash_of_ne (by decide)
  exact fun hname _ => hname.congr (by decide) (by decide)

/-- A file is opened where there is nothing, or where the path leads to one. -/
theorem missing_or_leadsToFile_of_openPlace? (h : fs.openPlace? path = some place) :
    fs.lookup place = none ∨ ∃ old, fs.LeadsToFile path place old := by
  obtain hmissing | ⟨old, hold⟩ := lookup_openPlace? h
  · exact .inl hmissing
  refine .inr ⟨old, ?_, hold⟩
  unfold openPlace? at h
  split at h
  next => cases h
  next directory name hlocate =>
    -- what is vacant holds no file
    obtain rfl := Option.some.inj h
    rw [(missing_of_vacant hlocate).2] at hold
    cases hold
  next location hlocate =>
    split at h
    next =>
      obtain rfl := Option.some.inj h
      have hfollowable := (locate_eq_ok_iff.mp hlocate).1
      exact locate_target_of_locate (by decide) (hfollowable.congr (by decide)) hlocate
    next => cases h

/-- A path leads to the file that was put in its place. -/
theorem leadsToFile_of_openPlace? (h : fs.openPlace? path = some place) (content : ByteArray) :
    (fs.put place (.file content)).LeadsToFile path place content := by
  have hself : (fs.put place (.file content)).lookup place = some (.file content) :=
    lookup_put_self _ (ne_nil_of_openPlace? h)
  obtain hmissing | ⟨_, hleads⟩ := missing_or_leadsToFile_of_openPlace? (openPlace?_again h content)
  · rw [hmissing] at hself
    cases hself
  · exact ⟨hleads.locate_eq, hself⟩

/-! ### Locations -/

/-- The absolute path of a location has a slash in front of every name. -/
theorem utf8ByteSize_path {location : Location} (h : location ≠ []) :
    (Location.path location).utf8ByteSize =
      location.foldr (fun name size => size + (1 + name.utf8ByteSize)) 0 := by
  rw [Location.path, if_neg h]
  clear h
  induction location with
  | nil => rfl
  | cons name above ih =>
    have hpiece : String.ofList ('/' :: name.toList) = "/" ++ name := by
      rw [← String.toList_inj]
      simp
    have hsize : "/".utf8ByteSize = 1 := rfl
    rw [List.reverse_cons, List.flatMap_append, List.flatMap_singleton, String.ofList_append,
      String.utf8ByteSize_append, ih, hpiece, String.utf8ByteSize_append, List.foldr_cons, hsize]

/-- The absolute path of everything that is there is short enough to be asked for, with a slash
behind it. -/
def HasShortPaths (fs : FileSystem) : Prop :=
  ∀ location entry, fs.lookup location = some entry →
    (Location.path location).utf8ByteSize + 1 < pathLimit

theorem hasShortPaths_empty : empty.HasShortPaths := by
  intro location entry h
  cases location with
  | nil => decide
  | cons name above => simp [empty] at h

theorem HasShortPaths.put (h : fs.HasShortPaths) (hplace : place ≠ [])
    (hshort : (Location.path place).utf8ByteSize + 1 < pathLimit) (entry : Entry) :
    (fs.put place entry).HasShortPaths := by
  intro location old hold
  rw [lookup_put _ _ _ hplace] at hold
  split at hold
  next heq =>
    rw [heq]
    exact hshort
  next => exact h location old hold

theorem canonicalize_eq_ok_iff :
    fs.canonicalize path = .ok place ↔ fs.locate .location path = .ok (.found place) := by
  unfold canonicalize
  cases fs.locate .location path with
  | error fault => simp
  | ok spot => cases spot <;> simp

/-- Two paths are seen to lead to the same place if both have one location. -/
theorem isSamePlace_iff :
    fs.isSamePlace source destination = true ↔
      ∃ location, fs.canonicalize source = .ok location ∧
        fs.canonicalize destination = .ok location := by
  unfold isSamePlace
  cases fs.canonicalize source with
  | error fault => simp
  | ok location =>
    cases fs.canonicalize destination with
    | error fault => simp
    | ok place => simp [eq_comm]

/-- A location that is asked for is where the path leads. -/
theorem canonicalize_of_locate (hshort : fs.HasShortPaths)
    (h : fs.locate .target path = .ok (.found place)) : fs.canonicalize path = .ok place := by
  obtain ⟨hfollowable, hwalks⟩ := locate_eq_ok_iff.mp h
  have hlocation : fs.locate .location path = .ok (.found place) := by
    refine locate_eq_ok_iff.mpr ⟨hfollowable.congr (by decide), ?_⟩
    -- what is on the way is there, so its path is short and takes a slash
    refine hwalks.of_purpose (by decide) (by decide) ?_ ?_
    · intro slash here name rest entry hname hlookup
      have hbound := hshort _ _ hlookup
      exact
        { toIsEntryName := hname.toIsEntryName
          no_slash := by simp
          short_location := fun hlong => by omega }
    · intro slash here rest hlookup hlong
      have hbound := hshort _ _ hlookup
      exact absurd hlong.2.2 (by omega)
  exact canonicalize_eq_ok_iff.mpr hlocation

/-- Two paths to one file are seen to be the same. -/
theorem isSamePlace_of_leadsToFile (hshort : fs.HasShortPaths)
    (hsource : fs.LeadsToFile source place content)
    (hdestination : fs.LeadsToFile destination place old) :
    fs.isSamePlace source destination = true :=
  isSamePlace_iff.mpr ⟨place, canonicalize_of_locate hshort hsource.locate_eq,
    canonicalize_of_locate hshort hdestination.locate_eq⟩

/-- The location that a path to a file has, if it can be asked for, is that of the file. -/
theorem LeadsToFile.eq_of_canonicalize (h : fs.LeadsToFile path place content)
    (hlocation : fs.canonicalize path = .ok origin) : origin = place := by
  have hfollowable := (locate_eq_ok_iff.mp h.locate_eq).1
  have htarget := locate_target_of_locate (by decide) hfollowable
    (canonicalize_eq_ok_iff.mp hlocation)
  exact Spot.found.inj (Except.ok.inj (htarget.symm.trans h.locate_eq))

/-- Names that lead to a file, where its location is asked for, lead to one with a short path: the
file itself is looked up last. -/
theorem Walks.short_of_file (h : Walks fs .location links here names slash (.found place))
    (hfs : fs.WellFormed) (hhere : fs.lookup here = some .directory)
    (hplace : fs.lookup place = some (.file content)) :
    (Location.path place).utf8ByteSize < pathLimit := by
  generalize hspot : Spot.found place = spot at h
  induction h with
  | arrive =>
    obtain rfl := Spot.found.inj hspot
    rw [hhere] at hplace
    cases hplace
  | stay _ ih => exact ih hhere hspot
  | up _ ih => exact ih (hfs.lookup_tail hhere) hspot
  | vacant => cases hspot
  | enter _ hlookup _ _ ih => exact ih hlookup hspot
  | file hname _ =>
    obtain rfl := Spot.found.inj hspot
    exact Nat.not_le.mp fun hlong => hname.short_location ⟨rfl, hlong⟩
  | link _ _ hpurpose => cases hpurpose
  | @follow _ _ _ target _ _ _ _ _ _ _ ih => exact ih (lookup_linkStart target hhere) hspot

/-- A file with a path that is too long is not seen to be the same as itself. -/
theorem isSamePlace_of_long (hfs : fs.WellFormed) (h : fs.LeadsToFile source place content)
    (hlong : pathLimit ≤ (Location.path place).utf8ByteSize) (destination : String) :
    fs.isSamePlace source destination = false := by
  rw [Bool.eq_false_iff]
  intro hsame
  obtain ⟨location, hlocation, -⟩ := isSamePlace_iff.mp hsame
  obtain rfl := h.eq_of_canonicalize hlocation
  obtain ⟨-, hwalks⟩ := locate_eq_ok_iff.mp (canonicalize_eq_ok_iff.mp hlocation)
  have hshort := hwalks.short_of_file hfs (hfs.lookup_pathStart source) h.lookup_eq
  exact absurd hlong (Nat.not_le.mpr hshort)

/-! ### Copying -/

/-- A file that is copied to another place is found under both paths, and nothing else changes. -/
theorem leadsToFile_of_copyFile (hshort : fs.HasShortPaths)
    (hsource : fs.LeadsToFile source origin content)
    (hother : fs.isSamePlace source destination = false)
    (h : fs.copyFile source destination = .ok after) :
    ∃ place, after.LeadsToFile source origin content ∧
      after.LeadsToFile destination place content ∧
      (∀ location, location ≠ place → after.lookup location = fs.lookup location) ∧
      after.workingDirectory = fs.workingDirectory := by
  obtain ⟨found, place, copied, hfound, hplace, hcopied, rfl⟩ := copyFile_eq_ok_iff.mp h
  obtain rfl : found = origin :=
    Spot.found.inj (Except.ok.inj (hfound.symm.trans hsource.locate_eq))
  have hroot := ne_nil_of_openPlace? hplace
  -- if the source were the destination, this would have been seen
  have hne : found ≠ place := by
    rintro rfl
    obtain hmissing | ⟨old, hdestination⟩ := missing_or_leadsToFile_of_openPlace? hplace
    · rw [hsource.lookup_eq] at hmissing
      cases hmissing
    · rw [isSamePlace_of_leadsToFile hshort hsource hdestination] at hother
      cases hother
  -- so the source still holds its content when it is read
  rw [lookup_put_of_ne _ hroot hne, hsource.lookup_eq] at hcopied
  obtain rfl : content = copied := Entry.file.inj (Option.some.inj hcopied)
  have hafter : (fs.put place (.file content)).lookup found = some (.file content) :=
    (lookup_put_of_ne _ hroot hne).trans hsource.lookup_eq
  have hways := keepsWays_of_openPlace? hplace content
  refine ⟨place, ⟨hways.locate_eq_found hfound fun _ _ => ⟨content, hafter⟩, hafter⟩,
    leadsToFile_of_openPlace? hplace content, ?_, rfl⟩
  exact fun location hlocation => lookup_put_of_ne _ hroot hlocation

/-- A file is emptied when it is copied onto itself. -/
theorem copyFile_self (hsource : fs.LeadsToFile source place content)
    (hplace : fs.openPlace? destination = some place) :
    fs.copyFile source destination = .ok (fs.put place (.file .empty)) :=
  copyFile_eq_ok_iff.mpr ⟨place, place, .empty, hsource.locate_eq, hplace,
    lookup_put_self _ (ne_nil_of_openPlace? hplace), rfl⟩

end TextShell.FileSystem
