import TextShell.Proofs.FileSystem.Effect

/-!
# Replacing a file

The content of a file is replaced through a temporary file in the same directory. Once that file is
made nothing can fail: the entry that the path names gives way to a file with the content, and no
trace of the temporary file is left. A temporary file can still be made after that.

* `FileSystem.replaceFile_eq`: the effect of replacing a file that is there.
* `FileSystem.replaceFile_eq_of_error`: a replacement that fails leaves everything as it was.
* `FileSystem.exists_makeTemporary_of_congr`: making a temporary file goes on to work when no more
  than a dead end with another name changes.
* `FileSystem.exists_place_of_makeTemporary`: what a replacement leaves.
-/

namespace TextShell.FileSystem

/-! ### Names of temporary files -/

theorem toList_temporaryName (number : Nat) :
    (temporaryName number).toList =
      ['.', 't', 'm', 'p'] ++ (List.replicate (6 - (Nat.toDigits 10 number).length) '0' ++
        Nat.toDigits 10 number) := by
  simp [temporaryName, List.leftpad]

/-- The name of a temporary file ends in a digit. -/
theorem exists_digit_temporaryName (number : Nat) :
    ∃ before digit, (temporaryName number).toList = before ++ [digit] ∧ digit.isDigit = true := by
  have hne : Nat.toDigits 10 number ≠ [] := Nat.toDigits_ne_nil
  refine ⟨['.', 't', 'm', 'p'] ++ (List.replicate (6 - (Nat.toDigits 10 number).length) '0' ++
    (Nat.toDigits 10 number).dropLast), (Nat.toDigits 10 number).getLast hne, ?_, ?_⟩
  · rw [toList_temporaryName, List.append_assoc, List.append_assoc,
      List.dropLast_concat_getLast hne]
  · exact Nat.isDigit_of_mem_toDigits (by decide) (by decide) (List.getLast_mem hne)

theorem not_isTextName_temporaryName (number : Nat) :
    ¬ Path.IsTextName (temporaryName number) := by
  rintro ⟨rest, hrest⟩
  -- the last character of the one is a letter, that of the other a digit
  obtain ⟨before, digit, hname, hdigit⟩ := exists_digit_temporaryName number
  rw [hname] at hrest
  have hlast := congrArg List.getLast? hrest
  simp only [Reading.extension, List.getLast?_append, List.getLast?_singleton, Option.some_or,
    List.getLast?_cons_cons, Option.some.injEq] at hlast
  subst hlast
  exact absurd hdigit (by decide)

theorem slash_not_mem_temporaryName (number : Nat) : '/' ∉ (temporaryName number).toList := by
  rw [toList_temporaryName]
  simp only [List.mem_append, List.mem_replicate, not_or, not_and]
  refine ⟨by decide, fun _ => by decide, fun hmem => ?_⟩
  exact absurd (Nat.isDigit_of_mem_toDigits (by decide) (by decide) hmem) (by decide)

/-- The name of a temporary file is looked up. -/
theorem endsIn_temporaryName (number : Nat) :
    Path.EndsIn (temporaryName number) [] (temporaryName number) := by
  have hne (text : String) (h : text.toList.length < 4) : temporaryName number ≠ text := by
    intro heq
    have hlength := congrArg (fun name : String => name.toList.length) heq
    simp only [toList_temporaryName, List.length_append, List.length_cons, List.length_nil]
      at hlength
    omega
  exact Path.endsIn_of_no_slash (slash_not_mem_temporaryName number) (hne "" (by decide))
    (hne "." (by decide)) (hne ".." (by decide))

/-- The path of a temporary file ends in its name. -/
theorem endsIn_join_temporaryName (directory : String) (number : Nat) :
    ∃ above, Path.EndsIn (Path.join directory (temporaryName number)) above
      (temporaryName number) :=
  ⟨_, (endsIn_temporaryName number).join directory⟩

/-! ### Making and renaming -/

variable {fs after made : FileSystem} {path directory name : String} {place temporary : Location}

theorem put_of_makeNumbered {attempts number : Nat}
    (h : fs.makeNumbered directory attempts number = .ok (made, temporary)) :
    (∃ above name, temporary = name :: above ∧ IsEntryName name) ∧
      fs.lookup temporary = none ∧ made = fs.put temporary (.file .empty) := by
  induction attempts generalizing number with
  | zero => cases h
  | succ attempts ih =>
    rw [makeNumbered] at h
    split at h
    next => cases h
    next => exact ih h
    next above name hlocate =>
      obtain ⟨rfl, rfl⟩ := Prod.mk.inj (Except.ok.inj h)
      obtain ⟨hname, hmissing⟩ := missing_of_vacant hlocate
      exact ⟨⟨above, name, rfl, hname⟩, hmissing, rfl⟩

/-- A temporary file is made where nothing was. -/
theorem put_of_makeTemporary (h : fs.makeTemporary directory = .ok (made, temporary)) :
    (∃ above name, temporary = name :: above ∧ IsEntryName name) ∧
      fs.lookup temporary = none ∧ made = fs.put temporary (.file .empty) :=
  put_of_makeNumbered h

theorem exists_makeTemporary_of_isOk (h : (fs.makeTemporary directory).isOk = true) :
    ∃ result, fs.makeTemporary directory = .ok result := by
  cases hmake : fs.makeTemporary directory with
  | ok result => exact ⟨result, rfl⟩
  | error fault =>
    rw [hmake] at h
    cases h

/-- A replacement that fails leaves everything as it was, without the temporary file. -/
theorem replaceFile_eq_of_error {content : ByteArray} {fault : FileFault}
    (h : fs.replaceFile path content = (after, .error fault)) : after = fs := by
  unfold replaceFile at h
  split at h
  next => exact (Prod.mk.inj h).1.symm
  next made temporary hmake =>
    obtain ⟨-, hmissing, rfl⟩ := put_of_makeTemporary hmake
    dsimp only at h
    split at h
    next =>
      rw [put_put, remove_put_of_missing _ hmissing] at h
      exact (Prod.mk.inj h).1.symm
    next => cases (Prod.mk.inj h).2

/-- Without a temporary file no file is replaced. -/
theorem replaceFile_of_error {fault : FileFault}
    (h : fs.makeTemporary ((Path.parent? path).getD ".") = .error fault) (content : ByteArray) :
    fs.replaceFile path content = (fs, .error fault) := by
  unfold replaceFile
  rw [h]

/-- Replacing a file takes a temporary one. -/
theorem exists_makeTemporary_of_replaceFile {content : ByteArray}
    (h : fs.replaceFile path content = (after, .ok ())) :
    ∃ result, fs.makeTemporary ((Path.parent? path).getD ".") = .ok result := by
  unfold replaceFile at h
  split at h
  next => cases (Prod.mk.inj h).2
  next made temporary hmake => exact ⟨(made, temporary), hmake⟩

/-- Once a temporary file is made, the content takes the place of the entry that the path names,
unless that is a directory. Nothing else changes. -/
theorem replaceFile_eq {above : Location} {entry : Entry} (content : ByteArray)
    (hreaches : fs.Reaches path above name) (hlookup : fs.lookup (name :: above) = some entry)
    (hentry : entry ≠ .directory)
    (hmake : fs.makeTemporary ((Path.parent? path).getD ".") = .ok (made, temporary)) :
    fs.replaceFile path content = (fs.put (name :: above) (.file content), .ok ()) := by
  obtain ⟨⟨beside, number, rfl, hname⟩, hmissing, rfl⟩ := put_of_makeTemporary hmake
  have hne : number :: beside ≠ [] := by simp
  -- the entry is there and the temporary file was not
  have hother : name :: above ≠ number :: beside := by
    intro heq
    rw [← heq, hlookup] at hmissing
    cases hmissing
  -- the temporary file stands where no way passes, so the path names what it named
  have hlocate : (fs.put (number :: beside) (.file content)).locate .entry path =
      .ok (.found (name :: above)) := by
    have hafter : (fs.put (number :: beside) (.file content)).Reaches path above name :=
      hreaches.congr (isDeadEnd_of_missing hname hmissing)
        (fun _ hlocation => lookup_put_of_ne _ hne hlocation) rfl
    exact hafter.locate_entry ((lookup_put_of_ne _ hne hother).trans hlookup)
  -- with the temporary file moved away again, only the entry has changed
  have hrename : (fs.put (number :: beside) (.file content)).rename (number :: beside) path =
      .ok (fs.put (name :: above) (.file content)) := by
    unfold rename
    rw [hlocate, lookup_put_self _ hne]
    dsimp only
    rw [lookup_put_of_ne _ hne hother, hlookup, if_neg (by simpa using hentry),
      remove_put_of_missing _ hmissing]
  unfold replaceFile
  rw [hmake]
  dsimp only
  rw [put_put, hrename]

/-! ### Temporary files afterwards -/

/-- A temporary file can still be made when no more than a dead end changes that has not the name of
a temporary file. -/
theorem exists_makeNumbered_of_congr {beside : Location} {attempts number : Nat}
    (hdead : fs.IsDeadEnd beside name) (hname : ∀ number, name ≠ temporaryName number)
    (hkeep : ∀ location, location ≠ name :: beside → after.lookup location = fs.lookup location)
    (hworking : after.workingDirectory = fs.workingDirectory)
    (h : fs.makeNumbered directory attempts number = .ok (made, temporary)) :
    ∃ result, after.makeNumbered directory attempts number = .ok result := by
  induction attempts generalizing number with
  | zero => cases h
  | succ attempts ih =>
    rw [makeNumbered] at h ⊢
    obtain ⟨names, hends⟩ := endsIn_join_temporaryName directory number
    cases hlocate : fs.locate .entry (Path.join directory (temporaryName number)) with
    | error fault =>
      rw [hlocate] at h
      cases h
    | ok spot =>
      obtain ⟨above, left, hreaches, hlast⟩ := exists_reaches_of_locate hends (by decide) hlocate
      have hafter := hreaches.congr hdead hkeep hworking
      -- the name that is tried is free afterwards if it was free before
      have hlookup : after.lookup (temporaryName number :: above) =
          fs.lookup (temporaryName number :: above) :=
        hkeep _ fun heq => hname number (List.cons.inj heq).1.symm
      obtain ⟨rfl, hmissing⟩ | ⟨rfl, entry, hentry⟩ :=
        hlast.spot_eq_of_entry hreaches.isEntryName
      · rw [hafter.locate_of_missing (by decide) (hlookup.trans hmissing)]
        exact ⟨_, rfl⟩
      · rw [hafter.locate_entry (hlookup.trans hentry)]
        rw [hlocate] at h
        exact ih h

theorem exists_makeTemporary_of_congr {beside : Location}
    (hdead : fs.IsDeadEnd beside name) (hname : ∀ number, name ≠ temporaryName number)
    (hkeep : ∀ location, location ≠ name :: beside → after.lookup location = fs.lookup location)
    (hworking : after.workingDirectory = fs.workingDirectory)
    (h : fs.makeTemporary directory = .ok (made, temporary)) :
    ∃ result, after.makeTemporary directory = .ok result := by
  unfold makeTemporary at h ⊢
  rw [hworking]
  exact exists_makeNumbered_of_congr hdead hname hkeep hworking h

/-- Once a temporary file is made, the path to a file of text names an entry that gives way to any
new content. The path still comes to that entry afterwards, and a temporary file can be made
again. -/
theorem exists_place_of_makeTemporary {above : List String} (hfs : fs.WellFormed)
    (hends : Path.EndsIn path above name) (hname : Path.IsTextName name)
    (hfile : fs.isFile path = true)
    (hmake : ∃ result, fs.makeTemporary ((Path.parent? path).getD ".") = .ok result)
    (content : ByteArray) :
    ∃ directory,
      fs.replaceFile path content = (fs.put (name :: directory) (.file content), .ok ()) ∧
      (fs.put (name :: directory) (.file content)).WellFormed ∧
      (fs.put (name :: directory) (.file content)).Reaches path directory name ∧
      ∃ result, (fs.put (name :: directory) (.file content)).makeTemporary
        ((Path.parent? path).getD ".") = .ok result := by
  obtain ⟨old, hread⟩ := isFile_iff.mp hfile
  obtain ⟨place, hlocate, hplace⟩ := readFile_eq_ok_iff.mp hread
  -- the entry that gives way is the file itself or a link to it
  obtain ⟨directory, entry, hreaches, hdead, hlookup, hentry⟩ :=
    exists_place_of_isFile hfs hends hlocate hplace
  obtain ⟨⟨made, temporary⟩, hmake⟩ := hmake
  have hkeep (location : Location) (hother : location ≠ name :: directory) :
      (fs.put (name :: directory) (.file content)).lookup location = fs.lookup location :=
    lookup_put_of_ne _ (by simp) hother
  have htemporary (number : Nat) : name ≠ temporaryName number := by
    rintro rfl
    exact not_isTextName_temporaryName number hname
  exact ⟨directory, replaceFile_eq content hreaches hlookup hentry hmake,
    hfs.put_file hlookup hentry content, hreaches.congr hdead hkeep rfl,
    exists_makeTemporary_of_congr hdead htemporary hkeep rfl hmake⟩

end TextShell.FileSystem
