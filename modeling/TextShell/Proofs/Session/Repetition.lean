import TextShell.Proofs.FileSystem.Repetition
import TextShell.Proofs.Request.CarryOut
import TextShell.Proofs.Request.UpdateForm
import TextShell.Proofs.Session.BuiltIn
import TextShell.Text.Utf8

/-!
# Commands done again

A copy, a creation, a deletion and an update that puts one line in place of all have nothing left to
do once they are done. Given again, the command succeeds, writes nothing and leaves every file as it
is, although it finds other files than the first time.

* `IsSettled`: files on which a command succeeds without changing them.
* `CopyRequest.isSettled` and its like: a request that was carried out is settled.
* `Session.dispatch_again`: the same for a line of input.
-/

namespace TextShell

/-- On these files a command succeeds and changes nothing. -/
structure IsSettled (command : FileSystem → Outcome) (fs : FileSystem) : Prop where
  /-- The command does what it is asked for. -/
  result_eq : (command fs).result = .ok ()
  /-- All files are as they were. -/
  files_eq : (command fs).files = fs

theorem isSettled_iff {command : FileSystem → Outcome} {fs : FileSystem} :
    IsSettled command fs ↔ (command fs).result = .ok () ∧ (command fs).files = fs :=
  ⟨fun h => ⟨h.result_eq, h.files_eq⟩, fun h => ⟨h.1, h.2⟩⟩

variable {directory arguments : String} {fs : FileSystem}

/-! ### Copies -/

/-- There is nothing to copy onto the source itself, or where the copy is there already. -/
theorem CopyRequest.isSettled_of (request : CopyRequest)
    (hfile : fs.isFile (Path.resolve directory request.source) = true)
    (h : fs.isSamePlace (Path.resolve directory request.source)
        (Path.resolve directory request.destination) = true ∨
      fs.copyFile (Path.resolve directory request.source)
        (Path.resolve directory request.destination) = .ok fs) :
    IsSettled (request.carryOut directory) fs := by
  have hcourse := request.course directory fs
  rw [isSettled_iff]
  generalize request.carryOut directory fs = second at hcourse ⊢
  -- the source is there, and if it is not the destination then the copying succeeds
  cases hcourse with
  | missing hmissing => simp [hfile] at hmissing
  | same => exact ⟨rfl, rfl⟩
  | fault _ hother hfault => simp [hother, hfault] at h
  | copied _ hother hcopied =>
    obtain hsame | hcopy := h
    · simp [hother] at hsame
    · obtain rfl := Except.ok.inj (hcopy.symm.trans hcopied)
      exact ⟨rfl, rfl⟩

/-- A file that is copied onto itself stays, and a copy that was made is made in the same place and
with the same content. -/
theorem CopyRequest.isSettled (request : CopyRequest)
    (h : (request.carryOut directory fs).result = .ok ()) :
    IsSettled (request.carryOut directory) (request.carryOut directory fs).files := by
  have hcourse := request.course directory fs
  generalize request.carryOut directory fs = first at h hcourse
  cases hcourse with
  | missing | fault => cases h
  | same hfile hsame => exact request.isSettled_of hfile (.inl hsame)
  | copied _ _ hcopy =>
    obtain ⟨hfile, hcopy⟩ := FileSystem.copyFile_again hcopy
    exact request.isSettled_of hfile (.inr hcopy)

/-! ### Creations -/

/-- There is nothing to create where the directories are there and the file holds the text. -/
theorem CreateRequest.isSettled_of (request : CreateRequest)
    (hmake : fs.makeDirectories ((Path.parent? (Path.resolve directory request.path)).getD "") =
      (fs, .ok ()))
    (hwrite : fs.writeFile (Path.resolve directory request.path) (request.text.getD "").toUTF8 =
      .ok fs) : IsSettled (request.carryOut directory) fs := by
  have hcourse := request.course directory fs
  rw [isSettled_iff]
  generalize request.carryOut directory fs = second at hcourse ⊢
  -- neither step can fail, and neither changes the files
  cases hcourse with
  | noDirectory hfault =>
    rw [hmake] at hfault
    cases (Prod.mk.inj hfault).2
  | fault hmade hfault =>
    rw [hmake] at hmade
    obtain rfl := (Prod.mk.inj hmade).1
    rw [hwrite] at hfault
    cases hfault
  | created hmade hwritten =>
    rw [hmake] at hmade
    obtain rfl := (Prod.mk.inj hmade).1
    obtain rfl := Except.ok.inj (hwrite.symm.trans hwritten)
    exact ⟨rfl, rfl⟩

/-- The directories that were made lead to the file still, as writing it keeps the ways. -/
theorem CreateRequest.isSettled (request : CreateRequest)
    (h : (request.carryOut directory fs).result = .ok ()) :
    IsSettled (request.carryOut directory) (request.carryOut directory fs).files := by
  have hcourse := request.course directory fs
  generalize request.carryOut directory fs = first at h hcourse
  cases hcourse with
  | noDirectory | fault => cases h
  | created hmake hwrite =>
    have hmakeAgain :=
      FileSystem.makeDirectories_again hmake (FileSystem.keepsWays_of_writeFile hwrite)
    exact request.isSettled_of hmakeAgain (FileSystem.writeFile_again hwrite)

/-! ### Deletions -/

/-- There is nothing to delete where nothing is. -/
theorem DeleteRequest.isSettled_of (request : DeleteRequest)
    (hmissing : fs.removeFile (Path.resolve directory request.path) = .error .noEntry) :
    IsSettled (request.carryOut directory) fs := by
  have hcourse := request.course directory fs
  rw [isSettled_iff]
  generalize request.carryOut directory fs = second at hcourse ⊢
  cases hcourse with
  | removed hremoved =>
    rw [hmissing] at hremoved
    cases hremoved
  | absent => exact ⟨rfl, rfl⟩
  | fault hfault hother =>
    obtain rfl := Except.error.inj (hmissing.symm.trans hfault)
    exact absurd rfl hother

/-- Once it is removed the file is missing, even if the path led through what is removed. -/
theorem DeleteRequest.isSettled (request : DeleteRequest) (hfs : fs.WellFormed)
    (h : (request.carryOut directory fs).result = .ok ()) :
    IsSettled (request.carryOut directory) (request.carryOut directory fs).files := by
  have hcourse := request.course directory fs
  generalize request.carryOut directory fs = first at h hcourse
  cases hcourse with
  | fault => cases h
  | absent hmissing => exact request.isSettled_of hmissing
  | removed hremove => exact request.isSettled_of (FileSystem.removeFile_again hfs hremove)

/-! ### Updates -/

/-- There is nothing to put in place of all lines where the file holds the one line. -/
theorem UpdateRequest.isSettled_of (request : UpdateRequest) {text : String}
    (hedit : request.edit = .replace text)
    (hread : fs.readFile (Path.resolve directory request.path) =
      .ok (Text.joinLines [text]).toUTF8)
    (hreplace : fs.replaceFile (Path.resolve directory request.path)
      (Text.joinLines [text]).toUTF8 = (fs, .ok ())) :
    IsSettled (request.carryOut directory) fs := by
  -- the one line is what is read, and it is what is to be written
  have hfile := FileSystem.isFile_iff.mpr ⟨_, hread⟩
  have htext : fs.readText (Path.resolve directory request.path) =
      .ok (Text.joinLines [text]) := by
    unfold FileSystem.readText
    rw [hread]
    dsimp only
    rw [Text.fromUTF8?_toUTF8]
  have hcourse := request.course directory fs
  rw [isSettled_iff]
  generalize request.carryOut directory fs = second at hcourse ⊢
  rw [hedit] at hcourse
  cases hcourse with
  | missing hmissing => simp [hfile] at hmissing
  | unreadable _ hfault => simp [htext] at hfault
  | refused _ _ hrefused => cases hrefused
  | fault _ _ happly hfault =>
    obtain rfl := Except.ok.inj happly
    rw [hreplace] at hfault
    cases (Prod.mk.inj hfault).2
  | updated _ _ happly hreplaced =>
    obtain rfl := Except.ok.inj happly
    rw [hreplace] at hreplaced
    exact ⟨rfl, (Prod.mk.inj hreplaced).1.symm⟩

/-- The file holds the one line now. What was a link before is a file, so the path leads to the new
content where it once led further. -/
theorem UpdateRequest.isSettled (request : UpdateRequest) {text : String} (hfs : fs.WellFormed)
    (hpath : Reading.isPath request.path.toList = true) (hedit : request.edit = .replace text)
    (h : (request.carryOut directory fs).result = .ok ()) :
    IsSettled (request.carryOut directory) (request.carryOut directory fs).files := by
  obtain ⟨above, name, hends, hname⟩ := Path.endsIn_resolve directory hpath
  have hcourse := request.course directory fs
  generalize request.carryOut directory fs = first at h hcourse
  rw [hedit] at hcourse
  cases hcourse with
  | missing | unreadable | refused | fault => cases h
  | updated hfile _ happly hreplace =>
    -- whatever lines there were, the one line is all that is left of them
    obtain rfl := Except.ok.inj happly
    obtain ⟨hread, hreplaceAgain⟩ :=
      FileSystem.replaceFile_again hfs hends hname hfile hreplace
    exact request.isSettled_of hedit hread hreplaceAgain

/-! ### Commands -/

namespace FileCommand

/-- A command that has succeeded is settled if the request that it carried out is. -/
theorem isSettled_run {Request : Type} (form : CommandForm)
    (read : String → Except Failure Request) (carryOut : Request → FileSystem → Outcome)
    (hcarry : ∀ request, read arguments = .ok request → (carryOut request fs).result = .ok () →
      IsSettled (carryOut request) (carryOut request fs).files)
    (h : (run form arguments read (carryOut · fs) fs).result = .ok ()) :
    IsSettled (fun fs => run form arguments read (carryOut · fs) fs)
      (run form arguments read (carryOut · fs) fs).files := by
  cases hread : read arguments with
  | error failure =>
    rw [(run_of_error hread).1] at h
    cases h
  | ok request =>
    rw [(run_of_ok hread).1] at h
    rw [(run_of_ok hread).2]
    -- the second time the same request is read
    have hsettled := hcarry request hread h
    exact ⟨(run_of_ok hread).1.trans hsettled.result_eq,
      (run_of_ok hread).2.trans hsettled.files_eq⟩

theorem isSettled_copy (h : (copy directory arguments fs).result = .ok ()) :
    IsSettled (copy directory arguments) (copy directory arguments fs).files :=
  isSettled_run .copy CopyRequest.read (·.carryOut directory ·)
    (fun request _ => request.isSettled) h

theorem isSettled_create (h : (create directory arguments fs).result = .ok ()) :
    IsSettled (create directory arguments) (create directory arguments fs).files :=
  isSettled_run .create CreateRequest.read (·.carryOut directory ·)
    (fun request _ => request.isSettled) h

theorem isSettled_delete (hfs : fs.WellFormed)
    (h : (delete directory arguments fs).result = .ok ()) :
    IsSettled (delete directory arguments) (delete directory arguments fs).files :=
  isSettled_run .delete DeleteRequest.read (·.carryOut directory ·)
    (fun request _ => request.isSettled hfs) h

/-- An update with a bare text is read as the request to put that text in place of all lines. -/
theorem isSettled_update {path text : List Char} (hfs : fs.WellFormed)
    (hupdate : Reading.update? arguments.toList = some (path, .replace text))
    (h : (update directory arguments fs).result = .ok ()) :
    IsSettled (update directory arguments) (update directory arguments fs).files := by
  refine isSettled_run .update UpdateRequest.read (·.carryOut directory ·) ?_ h
  intro request hread hresult
  have hpath := UpdateRequest.isPath_of_read hread
  have hedit : request.edit = .replace (.ofList text) := by
    unfold UpdateRequest.read at hread
    rw [hupdate] at hread
    obtain rfl := Except.ok.inj hread
    rfl
  exact request.isSettled hfs hpath hedit hresult

end FileCommand

/-! ### Lines of input -/

/-- A line of input whose command need not be given twice: a copy, a creation, a deletion, or an
update with a bare text. -/
inductive IsRepeatable (line : String) : Prop where
  /-- The word in front names copying. -/
  | copy : Verb.ofWord? (splitCommand line).1 = some .copy → IsRepeatable line
  /-- The word in front names creating. -/
  | create : Verb.ofWord? (splitCommand line).1 = some .create → IsRepeatable line
  /-- The word in front names deleting. -/
  | delete : Verb.ofWord? (splitCommand line).1 = some .delete → IsRepeatable line
  /-- The word in front names updating, and the arguments are a path and a text. -/
  | replace {path text : List Char} : Verb.ofWord? (splitCommand line).1 = some .update →
      Reading.update? (splitCommand line).2.toList = some (path, .replace text) →
      IsRepeatable line

/-- Behind such a line is a command on the files which is settled whenever it has succeeded. -/
theorem IsRepeatable.exists_command {line : String} (h : IsRepeatable line) :
    ∃ command : String → FileSystem → Outcome,
      (∀ session, (CommandTable.standard.action (splitCommand line).1).perform (splitCommand line).2
        session = Action.conclude session
          (command session.workspace.directory session.files)) ∧
      ∀ directory fs, fs.WellFormed → (command directory fs).result = .ok () →
        IsSettled (command directory) (command directory fs).files := by
  -- the word picks the action, and the action concludes the command of its name
  cases h with
  | copy hverb =>
    rw [CommandTable.action_of_ofWord? hverb]
    exact ⟨fun directory => FileCommand.copy directory (splitCommand line).2, fun _ => rfl,
      fun _ _ _ => FileCommand.isSettled_copy⟩
  | create hverb =>
    rw [CommandTable.action_of_ofWord? hverb]
    exact ⟨fun directory => FileCommand.create directory (splitCommand line).2, fun _ => rfl,
      fun _ _ _ => FileCommand.isSettled_create⟩
  | delete hverb =>
    rw [CommandTable.action_of_ofWord? hverb]
    exact ⟨fun directory => FileCommand.delete directory (splitCommand line).2, fun _ => rfl,
      fun _ _ => FileCommand.isSettled_delete⟩
  | replace hverb hupdate =>
    rw [CommandTable.action_of_ofWord? hverb]
    exact ⟨fun directory => FileCommand.update directory (splitCommand line).2, fun _ => rfl,
      fun _ _ hfs => FileCommand.isSettled_update hfs hupdate⟩

/-- A copy, a creation, a deletion or an update with a bare text that has succeeded succeeds again
when the line is given once more. The second time nothing is written, and the files and the
workspace stay as the first time has left them. -/
theorem Session.dispatch_again {session : Session} {line : String}
    (hfiles : session.files.WellFormed) (hline : IsRepeatable line)
    (hok : ((CommandTable.standard.action (splitCommand line).1).perform (splitCommand line).2
      session).2 = .ok ()) :
    let once := session.dispatch .standard line
    let twice := once.dispatch .standard line
    ((CommandTable.standard.action (splitCommand line).1).perform (splitCommand line).2 once).2 =
        .ok () ∧
      twice.output = once.output ∧ twice.files = once.files ∧
      twice.workspace = once.workspace := by
  dsimp only
  obtain ⟨command, hperform, hsettle⟩ := hline.exists_command
  -- the first time leaves what the command leaves, in the same directory
  have honce := dispatch_of_ok hok
  rw [hperform] at honce hok
  have hsettled := hsettle _ _ hfiles hok
  generalize session.dispatch .standard line = once at honce
  have hdirectory : once.workspace.directory = session.workspace.directory := by rw [honce]; rfl
  have hafter : once.files = (command session.workspace.directory session.files).files := by
    rw [honce]
    rfl
  rw [← hafter] at hsettled
  -- so the second time meets files on which the command is settled
  have hagain : ((CommandTable.standard.action (splitCommand line).1).perform (splitCommand line).2
      once).2 = .ok () := by
    rw [hperform, hdirectory]
    exact hsettled.result_eq
  refine ⟨hagain, ?_⟩
  rw [dispatch_of_ok hagain, hperform, hdirectory]
  exact ⟨rfl, hsettled.files_eq, rfl⟩

/-- A link that dangles in the place of the copy: the first time makes the file that it stands for,
the second time finds it, through the link. -/
theorem Session.dispatch_again_through_link :
    let session := Session.start ((FileSystem.empty.put ["a.txt"] (.file "x".toUTF8)).put ["b.txt"]
      (.link "c.txt")) "/"
    let once := session.dispatch .standard "copy \"a.txt\" \"b.txt\""
    let twice := once.dispatch .standard "copy \"a.txt\" \"b.txt\""
    twice.output = once.output ∧ twice.files = once.files ∧
      twice.files.lookup ["c.txt"] = some (.file "x".toUTF8) := by
  dsimp only
  have hfiles : (Session.start ((FileSystem.empty.put ["a.txt"] (.file "x".toUTF8)).put ["b.txt"]
      (.link "c.txt")) "/").files.WellFormed :=
    (FileSystem.wellFormed_empty.put rfl (by decide +kernel) _).put rfl (by decide +kernel) _
  have hline : IsRepeatable "copy \"a.txt\" \"b.txt\"" := .copy (by decide +kernel)
  obtain ⟨-, houtput, hsame, -⟩ := dispatch_again hfiles hline (by decide +kernel)
  refine ⟨houtput, hsame, ?_⟩
  rw [hsame]
  decide +kernel

end TextShell
