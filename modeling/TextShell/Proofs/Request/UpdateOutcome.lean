import TextShell.Proofs.Edit.Run
import TextShell.Proofs.FileSystem.RegularFile
import TextShell.Proofs.FileSystem.Replacement
import TextShell.Proofs.Request.CarryOut
import TextShell.Proofs.Request.UpdateForm

/-!
# Outcomes of updates

An update checks one thing after the other: the form of its arguments, that there is a file, that
the file is text, that the edit can be made. The first check that fails decides the outcome, and
nothing has changed then. When all have passed, the entry that the path names is replaced. The
checks follow links and the replacement does not, so a link to the file gives way to a file of its
own, and what it led to stays.

* `FileSystem.Replaces`: the one change that an update makes.
* `UpdateRequest.missing_iff`, `UpdateRequest.io_iff`, `UpdateRequest.result_of_refused` and
  `UpdateRequest.result_of_possible`: one lemma for each outcome.
* `FileCommand.update_outcome`: the outcome of an update for any arguments and any tree.
-/

namespace TextShell

namespace FileSystem

variable {fs after : FileSystem} {path name : String} {above : List String}
  {place target : Location}

/-- The entry that a path names has given way to a file, and every other entry is what it was. -/
structure Replaces (fs after : FileSystem) (path : String) (place : Location)
    (content : ByteArray) : Prop where
  /-- The path names the entry at the place. -/
  locate_eq : fs.locate .entry path = .ok (.found place)
  /-- It still does. -/
  locate_after : after.locate .entry path = .ok (.found place)
  /-- There is the file now. -/
  lookup_self : after.lookup place = some (.file content)
  /-- All else is unchanged. -/
  lookup_other : ∀ location, location ≠ place → after.lookup location = fs.lookup location
  /-- Relative paths start where they did. -/
  workingDirectory_eq : after.workingDirectory = fs.workingDirectory

/-- A link that has given way leaves the file that it led to as it was. -/
theorem Replaces.lookup_target {old new : ByteArray} {link : String}
    (h : fs.Replaces after path place new) (hplace : fs.lookup place = some (.link link))
    (hfile : fs.lookup target = some (.file old)) :
    target ≠ place ∧ after.lookup target = some (.file old) := by
  have hne : target ≠ place := by
    rintro rfl
    rw [hplace] at hfile
    cases hfile
  exact ⟨hne, (h.lookup_other target hne).trans hfile⟩

/-- Where a temporary file can be made, a file of text is replaced. -/
theorem exists_replaces (hfs : fs.WellFormed) (hends : Path.EndsIn path above name)
    (hfile : fs.isFile path = true)
    (hroom : ∃ made, fs.makeTemporary ((Path.parent? path).getD ".") = .ok made)
    (content : ByteArray) :
    ∃ after place, fs.replaceFile path content = (after, .ok ()) ∧
      fs.Replaces after path place content := by
  obtain ⟨⟨made, temporary⟩, hmake⟩ := hroom
  obtain ⟨old, hread⟩ := isFile_iff.mp hfile
  obtain ⟨target, hlocate, htarget⟩ := readFile_eq_ok_iff.mp hread
  obtain ⟨directory, entry, hreaches, hdead, hlookup, hentry⟩ :=
    exists_place_of_isFile hfs hends hlocate htarget
  have hself : (fs.put (name :: directory) (.file content)).lookup (name :: directory) =
      some (.file content) :=
    lookup_put_self _ (by simp)
  have hother (location : Location) (hne : location ≠ name :: directory) :
      (fs.put (name :: directory) (.file content)).lookup location = fs.lookup location :=
    lookup_put_of_ne _ (by simp) hne
  refine ⟨_, name :: directory, replaceFile_eq content hreaches hlookup hentry hmake, ?_⟩
  exact
    { locate_eq := hreaches.locate_entry hlookup
      -- no way passes through the entry, so the path comes to it as before
      locate_after := (hreaches.congr hdead hother rfl).locate_entry hself
      lookup_self := hself
      lookup_other := hother
      workingDirectory_eq := rfl }

end FileSystem

/-! ### Carrying out an update -/

namespace UpdateRequest

variable {fs : FileSystem} {directory path text : String} {request : UpdateRequest}
  {place : Location} {content : ByteArray} {edited : List String} {failure : Failure}

/-- An edit that cannot be made fails neither for want of a file nor on reading or writing. -/
theorem ne_of_apply {edit : Edit} {lines : List String} (h : edit.apply lines = .error failure) :
    (∀ path, failure ≠ .missingFile path) ∧ ∀ context fault, failure ≠ .io context fault := by
  have hrange := Edit.rangeFailure?_of_apply h
  cases edit with
  | replace text | append text => cases hrange
  | insertAt line text | deleteAt line =>
    obtain rfl := Option.some.inj hrange
    exact ⟨nofun, nofun⟩

/-- A file is said to be missing if and only if the path does not lead to one. -/
theorem missing_iff (hpath : Path.resolve directory request.path = path) :
    (request.carryOut directory fs).result = .error (.missingFile path) ↔
      fs.isFile path = false := by
  subst hpath
  have hcourse := request.course directory fs
  generalize request.carryOut directory fs = outcome at hcourse
  cases hcourse with
  | missing hmissing => simpa using hmissing
  | unreadable hfile | fault hfile | updated hfile => simp [hfile]
  | refused hfile _ hedit =>
    have hne := (ne_of_apply hedit).1 (Path.resolve directory request.path)
    simp [hfile, hne]

/-- With room for a temporary file, reading is what fails if and only if the file is not text. -/
theorem io_iff (hfs : fs.WellFormed) (hpath : Path.resolve directory request.path = path)
    (hisPath : Reading.isPath request.path.toList = true)
    (hroom : ∃ made, fs.makeTemporary ((Path.parent? path).getD ".") = .ok made)
    (hfile : fs.LeadsToFile path place content) :
    (∃ context fault, (request.carryOut directory fs).result = .error (.io context fault)) ↔
      ¬ ∃ text : String, text.toUTF8 = content := by
  subst hpath
  have hcourse := request.course directory fs
  generalize request.carryOut directory fs = outcome at hcourse
  cases hcourse with
  | missing hmissing => simp [hfile.isFile] at hmissing
  | unreadable _ hread =>
    refine iff_of_true ⟨_, _, rfl⟩ ?_
    rintro ⟨text, htext⟩
    rw [hfile.readText_eq_ok_iff.mpr htext] at hread
    cases hread
  | refused _ hread hedit =>
    refine iff_of_false ?_ (not_not_intro ⟨_, hfile.readText_eq_ok_iff.mp hread⟩)
    rintro ⟨context, fault, h⟩
    exact (ne_of_apply hedit).2 context fault (Except.error.inj h)
  | fault _ _ _ hreplace =>
    -- with room, replacing the file does not fail
    obtain ⟨above, name, hends, -⟩ := Path.endsIn_resolve directory hisPath
    obtain ⟨after, place, hok, -⟩ := FileSystem.exists_replaces hfs hends hfile.isFile hroom _
    rw [hok] at hreplace
    cases (Prod.mk.inj hreplace).2
  | updated _ hread =>
    refine iff_of_false ?_ (not_not_intro ⟨_, hfile.readText_eq_ok_iff.mp hread⟩)
    rintro ⟨context, fault, h⟩
    cases h

/-- An edit that cannot be made decides the outcome once the file is read. -/
theorem result_of_refused (hpath : Path.resolve directory request.path = path)
    (hfile : fs.LeadsToFile path place content) (htext : text.toUTF8 = content)
    (hedit : request.edit.apply (Text.breakLines text) = .error failure) :
    (request.carryOut directory fs).result = .error failure := by
  subst hpath
  have hread := hfile.readText_eq_ok_iff.mpr htext
  simp [carryOut, hfile.isFile, hread, hedit]

/-- An edit that can be made is made, and the entry that the path names is replaced. -/
theorem result_of_possible (hfs : fs.WellFormed)
    (hpath : Path.resolve directory request.path = path)
    (hisPath : Reading.isPath request.path.toList = true)
    (hroom : ∃ made, fs.makeTemporary ((Path.parent? path).getD ".") = .ok made)
    (hfile : fs.LeadsToFile path place content) (htext : text.toUTF8 = content)
    (hedit : request.edit.apply (Text.breakLines text) = .ok edited) :
    (request.carryOut directory fs).result = .ok () ∧
      ∃ spot, fs.Replaces (request.carryOut directory fs).files path spot
        (Text.joinLines edited).toUTF8 := by
  subst hpath
  have hread := hfile.readText_eq_ok_iff.mpr htext
  obtain ⟨above, name, hends, -⟩ := Path.endsIn_resolve directory hisPath
  obtain ⟨after, spot, hreplace, hreplaces⟩ :=
    FileSystem.exists_replaces hfs hends hfile.isFile hroom (Text.joinLines edited).toUTF8
  have hcarry : (request.carryOut directory fs).result = .ok () ∧
      (request.carryOut directory fs).files = after := by
    simp only [carryOut, hfile.isFile, hread, hedit, hreplace, Bool.not_true, Bool.false_eq_true,
      if_false, and_self]
  exact ⟨hcarry.1, spot, hcarry.2.symm ▸ hreplaces⟩

/-- An update that fails has changed nothing. -/
theorem files_of_error (h : (request.carryOut directory fs).result = .error failure) :
    (request.carryOut directory fs).files = fs := by
  have hcourse := request.course directory fs
  generalize request.carryOut directory fs = outcome at h hcourse
  cases hcourse with
  | missing | unreadable | refused => rfl
  | fault _ _ _ hreplace => exact FileSystem.replaceFile_eq_of_error hreplace
  | updated => cases h

end UpdateRequest

/-! ### The command -/

namespace FileCommand

variable {arguments : String} {request : UpdateRequest}

/-- The command does what its arguments ask for. -/
theorem update_eq (directory : String) (fs : FileSystem)
    (h : UpdateRequest.read arguments = .ok request) :
    (update directory arguments fs).result = (request.carryOut directory fs).result ∧
      (update directory arguments fs).files = (request.carryOut directory fs).files :=
  run_of_ok h

/-- The outcome of an update. Arguments that are not read fail as they do, whatever the files are.
Once they are read, and with room for a temporary file beside the file: the file is missing if and
only if the path leads to none; reading it fails if and only if its bytes are no text, whatever the
edit is; then comes the failure of an edit that cannot be made. In all these cases the files stay as
they are. Otherwise the update succeeds, and the entry that the path names is a file with the new
lines, each ended by a line feed. No other entry changes, not even the file behind a link that has
given way. -/
theorem update_outcome (directory arguments : String) (fs : FileSystem) :
    (∀ failure, UpdateRequest.read arguments = .error failure →
      (update directory arguments fs).result = .error failure) ∧
    (∀ failure, (update directory arguments fs).result = .error failure →
      (update directory arguments fs).files = fs) ∧
    ∀ request path, UpdateRequest.read arguments = .ok request →
      Path.resolve directory request.path = path → fs.WellFormed →
      (fs.isFile path = true →
        ∃ made, fs.makeTemporary ((Path.parent? path).getD ".") = .ok made) →
      ((update directory arguments fs).result = .error (.missingFile path) ↔
        ¬ ∃ place content, fs.LeadsToFile path place content) ∧
      ∀ place content, fs.LeadsToFile path place content →
        ((∃ context fault, (update directory arguments fs).result = .error (.io context fault)) ↔
          ¬ ∃ text : String, text.toUTF8 = content) ∧
        ∀ text : String, text.toUTF8 = content →
          (∀ failure, request.edit.apply (Text.breakLines text) = .error failure →
            (update directory arguments fs).result = .error failure) ∧
          ∀ edited, request.edit.apply (Text.breakLines text) = .ok edited →
            (update directory arguments fs).result = .ok () ∧
            ∃ spot, fs.Replaces (update directory arguments fs).files path spot
                (String.join (edited.map (· ++ "\n"))).toUTF8 ∧
              ∀ link, fs.lookup spot = some (.link link) →
                place ≠ spot ∧
                (update directory arguments fs).files.lookup place = some (.file content) := by
  refine ⟨fun failure hread => (run_of_error hread).1, ?_, ?_⟩
  · intro failure hresult
    cases hread : UpdateRequest.read arguments with
    | error other => exact (run_of_error hread).2
    | ok request =>
      obtain ⟨hcarry, hfiles⟩ := update_eq directory fs hread
      exact hfiles.trans (UpdateRequest.files_of_error (hcarry.symm.trans hresult))
  · intro request path hread hpath hfs hroom
    have hisPath := UpdateRequest.isPath_of_read hread
    obtain ⟨hresult, hfiles⟩ := update_eq directory fs hread
    rw [hresult, hfiles]
    refine ⟨?_, ?_⟩
    · rw [UpdateRequest.missing_iff hpath, FileSystem.isFile_eq_false_iff]
    intro place content hfile
    have hroom := hroom hfile.isFile
    refine ⟨UpdateRequest.io_iff hfs hpath hisPath hroom hfile, ?_⟩
    intro text htext
    refine ⟨fun _ => UpdateRequest.result_of_refused hpath hfile htext, ?_⟩
    intro edited hedit
    obtain ⟨hok, spot, hreplaces⟩ :=
      UpdateRequest.result_of_possible hfs hpath hisPath hroom hfile htext hedit
    rw [Text.joinLines_eq_join] at hreplaces
    exact ⟨hok, spot, hreplaces, fun _ hlink => hreplaces.lookup_target hlink hfile.lookup_eq⟩

/-- A link to a file: the lines are those of the file, the link gives way to a file of its own, and
the file that it led to stays. -/
theorem update_outcome_through_link :
    let fs := (FileSystem.empty.put ["a.txt"] (.file "x".toUTF8)).put ["b.txt"] (.link "a.txt")
    let outcome := update "/" "-f \"b.txt\" -a \"y\"" fs
    outcome.result = .ok () ∧ outcome.files.lookup ["b.txt"] = some (.file "x\ny\n".toUTF8) ∧
      outcome.files.lookup ["a.txt"] = some (.file "x".toUTF8) := by
  intro fs outcome
  have hread : UpdateRequest.read "-f \"b.txt\" -a \"y\"" = .ok ⟨"b.txt", .append "y"⟩ := by
    decide +kernel
  have hfs : fs.WellFormed :=
    (FileSystem.wellFormed_empty.put rfl (by decide +kernel) _).put rfl (by decide +kernel) _
  have hroom : ∃ made, fs.makeTemporary ((Path.parent? "/b.txt").getD ".") = .ok made :=
    FileSystem.exists_makeTemporary_of_isOk (by decide +kernel)
  have hfile : fs.LeadsToFile "/b.txt" ["a.txt"] "x".toUTF8 :=
    ⟨by decide +kernel, by decide +kernel⟩
  obtain ⟨-, hcases⟩ := (update_outcome "/" "-f \"b.txt\" -a \"y\"" fs).2.2 _ "/b.txt" hread
    (by decide +kernel) hfs fun _ => hroom
  obtain ⟨hok, spot, hreplaces, htarget⟩ :=
    ((hcases _ _ hfile).2 "x" rfl).2 ["x", "y"] (by decide +kernel)
  obtain rfl : spot = ["b.txt"] := by
    have hspot : fs.locate .entry "/b.txt" = .ok (.found ["b.txt"]) := by decide +kernel
    exact Spot.found.inj (Except.ok.inj (hreplaces.locate_eq.symm.trans hspot))
  exact ⟨hok, hreplaces.lookup_self, (htarget "a.txt" (by decide +kernel)).2⟩

end FileCommand

end TextShell
