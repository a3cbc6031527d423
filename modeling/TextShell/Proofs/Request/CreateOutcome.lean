import TextShell.Proofs.FileSystem.NewDirectories
import TextShell.Proofs.FileSystem.SamePlace
import TextShell.Proofs.Request.CarryOut
import TextShell.Proofs.Request.WrittenForm

/-!
# Outcomes of creations

A creation that succeeds leaves a file with the bytes of its text where the path leads, through any
links, and nothing else but new directories. If nothing was where the path names its file and the
path never goes up, then deleting it takes back all but these directories. Without this condition it
need not: a link that led to nothing is what is deleted, and the file that was made behind it stays.

* `FileSystem.AddsDirectoriesBeside`: nothing but new directories besides a change in one place.
* `FileSystem.removeFile_put`: a file that is made where nothing was can be removed again.
* `FileCommand.create_outcome`: what comes of a creation, and of the deletion after it.
-/

namespace TextShell

namespace FileSystem

variable {fs made : FileSystem} {path name : String} {above : List String}
  {place directory : Location} {content : ByteArray}

/-- Whatever has come of one place, elsewhere all that was there is there, and what has come is
directories. -/
structure AddsDirectoriesBeside (fs after : FileSystem) (place : Location) : Prop where
  /-- Relative paths start where they did. -/
  workingDirectory_eq : after.workingDirectory = fs.workingDirectory
  /-- What was elsewhere is there. -/
  kept {location : Location} {entry : Entry} : location ≠ place →
    fs.lookup location = some entry → after.lookup location = some entry
  /-- What was not there is a directory. -/
  added {location : Location} {entry : Entry} : location ≠ place →
    fs.lookup location = none → after.lookup location = some entry → entry = .directory

theorem AddsDirectories.put_beside (h : fs.AddsDirectories made) (hplace : place ≠ [])
    (entry : Entry) : fs.AddsDirectoriesBeside (made.put place entry) place where
  workingDirectory_eq := h.workingDirectory_eq
  kept hne hlookup := (lookup_put_of_ne _ hplace hne).trans (h.kept hlookup)
  added hne hnone hlookup := h.added hnone ((lookup_put_of_ne _ hplace hne).symm.trans hlookup)

/-- A file that is made where nothing was can be removed by the same path, and no trace is left. -/
theorem removeFile_put (hreaches : fs.Reaches path directory name)
    (hmissing : fs.lookup (name :: directory) = none) (content : ByteArray) :
    (fs.put (name :: directory) (.file content)).removeFile path = .ok fs := by
  have hplace : name :: directory ≠ [] := by simp
  have hself : (fs.put (name :: directory) (.file content)).lookup (name :: directory) =
      some (.file content) :=
    lookup_put_self _ hplace
  have hafter : (fs.put (name :: directory) (.file content)).Reaches path directory name :=
    hreaches.congr (isDeadEnd_of_missing hreaches.isEntryName hmissing)
      (fun _ hlocation => lookup_put_of_ne _ hplace hlocation) rfl
  exact removeFile_eq_ok_iff.mpr ⟨_, hafter.locate_entry hself, by simp [hself],
    (remove_put_of_missing _ hmissing).symm⟩

/-- Where a path comes to a missing entry, the file is opened in its place. -/
theorem Reaches.openPlace?_eq (h : fs.Reaches path directory name)
    (hmissing : fs.lookup (name :: directory) = none) :
    fs.openPlace? path = some (name :: directory) := by
  rw [openPlace?, h.locate_of_missing (by decide) hmissing]

end FileSystem

namespace CreateRequest

variable {fs : FileSystem} {directory path : String} {request : CreateRequest}

/-- A creation that succeeds has ensured the directories above and written the file. -/
theorem exists_made (hpath : Path.resolve directory request.path = path)
    (hok : (request.carryOut directory fs).result = .ok ()) :
    ∃ made place, fs.makeDirectories ((Path.parent? path).getD "") = (made, .ok ()) ∧
      made.openPlace? path = some place ∧
      (request.carryOut directory fs).files =
        made.put place (.file (request.text.getD "").toUTF8) := by
  subst hpath
  have hcourse := request.course directory fs
  generalize request.carryOut directory fs = outcome at hok hcourse
  cases hcourse with
  | noDirectory | fault => cases hok
  | created hmake hwrite =>
    obtain ⟨place, hplace, rfl⟩ := FileSystem.writeFile_eq_ok_iff.mp hwrite
    exact ⟨_, place, hmake, hplace, rfl⟩

end CreateRequest

/-- A deletion that can remove the file does so. -/
theorem DeleteRequest.carryOut_of_removeFile {fs after : FileSystem} {directory path : String}
    {request : DeleteRequest} (hpath : Path.resolve directory request.path = path)
    (h : fs.removeFile path = .ok after) :
    (request.carryOut directory fs).result = .ok () ∧
      (request.carryOut directory fs).files = after := by
  subst hpath
  simp [carryOut, h]

namespace FileCommand

variable {fs : FileSystem} {directory arguments path : String} {request : CreateRequest}

/-- The outcome of a creation that succeeds. The path leads to a regular file with the bytes of the
text, or none if there is no text, and the path above it to a directory; elsewhere nothing changes
but for new directories. If the path has no double dot and named no entry before, then deleting it
succeeds, takes away the file and nothing else, and so leaves the old tree and the new
directories. -/
theorem create_outcome (hfs : fs.WellFormed) (hread : CreateRequest.read arguments = .ok request)
    (hpath : Path.resolve directory request.path = path)
    (hok : (create directory arguments fs).result = .ok ()) :
    (∃ parent, Path.parent? path = some parent ∧
      (create directory arguments fs).files.isDirectory
        (if parent = "" then "." else parent) = true) ∧
    ∃ place,
      (create directory arguments fs).files.LeadsToFile path place
        (request.text.getD "").toUTF8 ∧
      fs.AddsDirectoriesBeside (create directory arguments fs).files place ∧
      (".." ∉ Path.names path → (∀ location, fs.locate .entry path ≠ .ok (.found location)) →
        ∀ again deletion, DeleteRequest.read again = .ok deletion →
          Path.resolve directory deletion.path = path →
          let deleted := delete directory again (create directory arguments fs).files
          deleted.result = .ok () ∧ fs.AddsDirectories deleted.files ∧
            deleted.files.lookup place = none ∧
            ∀ location, location ≠ place → deleted.files.lookup location =
              (create directory arguments fs).files.lookup location) := by
  obtain ⟨hresult, hfiles⟩ :
      (create directory arguments fs).result = (request.carryOut directory fs).result ∧
        (create directory arguments fs).files = (request.carryOut directory fs).files :=
    run_of_ok hread
  rw [hresult] at hok
  obtain ⟨made, place, hmake, hplace, hput⟩ := CreateRequest.exists_made hpath hok
  rw [hfiles, hput]
  obtain ⟨above, name, hends, -⟩ :=
    Path.endsIn_resolve directory (CreateRequest.isPath_of_read hread)
  rw [hpath] at hends
  have hways := FileSystem.keepsWays_of_openPlace? hplace (request.text.getD "").toUTF8
  have hroot := FileSystem.ne_nil_of_openPlace? hplace
  have hadds := FileSystem.addsDirectories_of_makeDirectories hmake
  refine ⟨?_, place, FileSystem.leadsToFile_of_openPlace? hplace _, hadds.put_beside hroot _, ?_⟩
  · obtain ⟨parent, hparent, -⟩ := hends.exists_parent?
    rw [hparent] at hmake
    exact ⟨parent, hparent, hways.isDirectory (FileSystem.isDirectory_of_parent? hfs hparent hmake)⟩
  · intro hup hnone again deletion hagain hsame deleted
    obtain ⟨_, hlocate⟩ := FileSystem.exists_locate_of_openPlace? hplace
    obtain ⟨there, hreaches, hmissing⟩ :=
      FileSystem.exists_reaches_of_makeDirectories hfs hends hup hnone hmake (by decide) hlocate
    obtain rfl : name :: there = place :=
      Option.some.inj ((hreaches.openPlace?_eq hmissing).symm.trans hplace)
    obtain ⟨hremoved, hleft⟩ := DeleteRequest.carryOut_of_removeFile hsame
      (FileSystem.removeFile_put hreaches hmissing (request.text.getD "").toUTF8)
    obtain ⟨hdeleted, hafter⟩ : deleted.result = _ ∧ deleted.files = _ := run_of_ok hagain
    rw [hdeleted, hafter, hremoved, hleft]
    refine ⟨rfl, hadds, hmissing, fun location hne => ?_⟩
    exact (FileSystem.lookup_put_of_ne _ hroot hne).symm

/-- A file in a new directory behind a link: it can be read by its own path, and when it is deleted
the new directory stays. -/
theorem create_outcome_behind_link :
    let fs := (FileSystem.empty.put ["d"] .directory).put ["l"] (.link "d")
    let created := (create "/" "-f \"l/x/a.txt\" \"t\"" fs).files
    let deleted := delete "/" "-f \"l/x/a.txt\"" created
    created.lookup ["a.txt", "x", "d"] = some (.file "t".toUTF8) ∧ deleted.result = .ok () ∧
      deleted.files.lookup ["a.txt", "x", "d"] = none ∧
      deleted.files.lookup ["x", "d"] = some .directory := by
  intro fs created deleted
  have hfs : fs.WellFormed :=
    (FileSystem.wellFormed_empty.put rfl (by decide +kernel) _).put rfl (by decide +kernel) _
  have hread : CreateRequest.read "-f \"l/x/a.txt\" \"t\"" = .ok ⟨"l/x/a.txt", some "t"⟩ := by
    decide +kernel
  have hagain : DeleteRequest.read "-f \"l/x/a.txt\"" = .ok ⟨"l/x/a.txt"⟩ := by decide +kernel
  have hpath : Path.resolve "/" "l/x/a.txt" = "/l/x/a.txt" := by decide +kernel
  have hok : (create "/" "-f \"l/x/a.txt\" \"t\"" fs).result = .ok () := by decide +kernel
  have hnone : fs.locate .entry "/l/x/a.txt" = .error .noEntry := by decide +kernel
  obtain ⟨-, place, hleads, -, hdelete⟩ := create_outcome hfs hread hpath hok
  obtain ⟨hdeleted, -, hgone, hkept⟩ :=
    hdelete (by decide +kernel) (by simp [hnone]) _ _ hagain hpath
  obtain rfl : place = ["a.txt", "x", "d"] := by
    have hspot : created.locate .target "/l/x/a.txt" = .ok (.found ["a.txt", "x", "d"]) := by
      decide +kernel
    exact Spot.found.inj (Except.ok.inj (hleads.locate_eq.symm.trans hspot))
  refine ⟨hleads.lookup_eq, hdeleted, hgone, (hkept ["x", "d"] (by decide)).trans ?_⟩
  decide +kernel

-- with a double dot behind a new directory, a file may be written over that was not in sight
example :
    let fs := FileSystem.empty.put ["a.txt"] (.file "s".toUTF8)
    let created := (create "/" "-f \"x/../a.txt\" \"t\"" fs).files
    fs.locate .entry "/x/../a.txt" = .error .noEntry ∧
      (delete "/" "-f \"x/../a.txt\"" created).files.lookup ["a.txt"] = none := by
  decide +kernel

end FileCommand

end TextShell
