import TextShell.Proofs.FileSystem.TextFiles
import TextShell.Proofs.Request.CarryOut
import TextShell.Proofs.Request.UpdateForm
import TextShell.Proofs.Request.WrittenForm
import TextShell.Session.Dispatch

/-!
# Sessions change text files only

The form of the arguments lets a command name no file but those with the ending `.txt`, and in a
tree without symbolic links such a path leads to no other. So whatever lines a session is given,
the rest of the tree is safe from it: all other files keep their content, no directory is lost, and
neither a link nor a temporary file is left behind.

* `FileCommand.changesTextFiles_copy` and its like: one command.
* `Session.dispatchAll_changesTextFiles`: any lines of input.
-/

namespace TextShell

variable {directory arguments : String} {fs : FileSystem}

/-! ### Carrying out requests -/

theorem CopyRequest.changesTextFiles (request : CopyRequest) (hfree : fs.IsLinkFree)
    (hpath : Reading.isPath request.destination.toList = true) :
    fs.ChangesTextFiles (request.carryOut directory fs).files := by
  obtain ⟨above, name, hends, hname⟩ := Path.endsIn_resolve directory hpath
  have hcourse := request.course directory fs
  generalize request.carryOut directory fs = outcome at hcourse ⊢
  cases hcourse with
  | missing | fault => exact .refl fs
  | same => exact .refl fs
  | copied _ _ hcopy => exact FileSystem.changesTextFiles_of_copyFile hfree hends hname hcopy

/-- The directories that are made first are no files and bring no link. -/
theorem CreateRequest.changesTextFiles (request : CreateRequest) (hfree : fs.IsLinkFree)
    (hpath : Reading.isPath request.path.toList = true) :
    fs.ChangesTextFiles (request.carryOut directory fs).files := by
  obtain ⟨above, name, hends, hname⟩ := Path.endsIn_resolve directory hpath
  have hcourse := request.course directory fs
  generalize request.carryOut directory fs = outcome at hcourse ⊢
  cases hcourse with
  | noDirectory hmake | fault hmake =>
    exact (FileSystem.addsDirectories_of_makeDirectories hmake).changesTextFiles
  | created hmake hwrite =>
    have hmade := (FileSystem.addsDirectories_of_makeDirectories hmake).changesTextFiles
    exact hmade.trans
      (FileSystem.changesTextFiles_of_writeFile (hmade.isLinkFree hfree) hends hname hwrite)

theorem DeleteRequest.changesTextFiles (request : DeleteRequest)
    (hpath : Reading.isPath request.path.toList = true) :
    fs.ChangesTextFiles (request.carryOut directory fs).files := by
  obtain ⟨above, name, hends, hname⟩ := Path.endsIn_resolve directory hpath
  have hcourse := request.course directory fs
  generalize request.carryOut directory fs = outcome at hcourse ⊢
  cases hcourse with
  | removed hremove => exact FileSystem.changesTextFiles_of_removeFile hends hname hremove
  | absent | fault => exact .refl fs

theorem UpdateRequest.changesTextFiles (request : UpdateRequest) (hfree : fs.IsLinkFree)
    (hpath : Reading.isPath request.path.toList = true) :
    fs.ChangesTextFiles (request.carryOut directory fs).files := by
  obtain ⟨above, name, hends, hname⟩ := Path.endsIn_resolve directory hpath
  have hcourse := request.course directory fs
  generalize request.carryOut directory fs = outcome at hcourse ⊢
  cases hcourse with
  | missing | unreadable | refused => exact .refl fs
  | fault hfile _ _ hreplace | updated hfile _ _ hreplace =>
    exact FileSystem.changesTextFiles_of_replaceFile hfree hends hname hfile hreplace

/-! ### Commands -/

namespace FileCommand

/-- Wrong arguments change nothing, so a command changes what its requests change. -/
theorem changesTextFiles_run {Request : Type} {form : CommandForm}
    {read : String → Except Failure Request} {carryOut : Request → Outcome}
    (h : ∀ request, read arguments = .ok request → fs.ChangesTextFiles (carryOut request).files) :
    fs.ChangesTextFiles (run form arguments read carryOut fs).files := by
  cases hread : read arguments with
  | error failure =>
    rw [(run_of_error hread).2]
  | ok request =>
    rw [(run_of_ok hread).2]
    exact h request hread

theorem changesTextFiles_copy (hfree : fs.IsLinkFree) :
    fs.ChangesTextFiles (copy directory arguments fs).files :=
  changesTextFiles_run fun request hread =>
    request.changesTextFiles hfree (CopyRequest.isPath_of_read hread).2

theorem changesTextFiles_create (hfree : fs.IsLinkFree) :
    fs.ChangesTextFiles (create directory arguments fs).files :=
  changesTextFiles_run fun request hread =>
    request.changesTextFiles hfree (CreateRequest.isPath_of_read hread)

theorem changesTextFiles_delete : fs.ChangesTextFiles (delete directory arguments fs).files :=
  changesTextFiles_run fun request hread =>
    request.changesTextFiles (DeleteRequest.isPath_of_read hread)

theorem changesTextFiles_update (hfree : fs.IsLinkFree) :
    fs.ChangesTextFiles (update directory arguments fs).files :=
  changesTextFiles_run fun request hread =>
    request.changesTextFiles hfree (UpdateRequest.isPath_of_read hread)

end FileCommand

/-! ### Lines of input -/

namespace Session

/-- One line of input changes text files only, whatever it says. -/
theorem changesTextFiles_dispatch (session : Session) (line : String)
    (hfree : session.files.IsLinkFree) :
    session.files.ChangesTextFiles (session.dispatch .standard line).files := by
  rw [dispatch_files, CommandTable.action_standard]
  generalize (splitCommand line).2 = arguments
  cases Verb.ofWord? (splitCommand line).1 with
  | none =>
    show session.files.ChangesTextFiles (Action.reject.perform arguments session).1.files
    simp only [Action.perform, report_files, note_files]
    exact .refl _
  | some verb =>
    cases verb with
    | copy => exact FileCommand.changesTextFiles_copy hfree
    | create => exact FileCommand.changesTextFiles_create hfree
    | delete => exact FileCommand.changesTextFiles_delete
    | update => exact FileCommand.changesTextFiles_update hfree
    | exit => exact .refl _

/-- Any lines of input change text files only, in any session whose tree has no symbolic links: a
file with another name is afterwards there with a content exactly if it was there before with that
content, no directory is lost, and the tree still has no links. -/
theorem dispatchAll_changesTextFiles (session : Session) (lines : List String)
    (hfree : session.files.IsLinkFree) :
    session.files.ChangesTextFiles (session.dispatchAll .standard lines).files ∧
      (session.dispatchAll .standard lines).files.IsLinkFree := by
  -- without links is what each line needs and what it keeps
  induction lines generalizing session with
  | nil => exact ⟨.refl _, hfree⟩
  | cons line lines ih =>
    have hline := session.changesTextFiles_dispatch line hfree
    obtain ⟨hlines, hafter⟩ := ih (session.dispatch .standard line) (hline.isLinkFree hfree)
    rw [dispatchAll_cons]
    exact ⟨hline.trans hlines, hafter⟩

/-- Beside a file with another name a text file is created and changed, also after the end was asked
for. -/
theorem dispatchAll_changesTextFiles_beside :
    let files := (FileSystem.empty.put ["d"] .directory).put ["b.md", "d"] (.file "x".toUTF8)
    let lines := ["create -f \"d/b.txt\" \"y\"", "exit", "update -f \"d/b.txt\" -a \"z\"",
      "delete -f \"d/b.md\""]
    let after := (Session.start files "/").dispatchAll .standard lines
    files.ChangesTextFiles after.files ∧ after.files.IsLinkFree ∧
      after.files.lookup ["b.txt", "d"] = some (.file "y\nz\n".toUTF8) ∧
      after.files.lookup ["b.md", "d"] = some (.file "x".toUTF8) := by
  intro files lines after
  have hfree : files.IsLinkFree :=
    (FileSystem.isLinkFree_empty.put (by decide) rfl).put (by decide) rfl
  obtain ⟨hchanges, hafter⟩ := dispatchAll_changesTextFiles (Session.start files "/") lines hfree
  exact ⟨hchanges, hafter, by decide +kernel,
    (hchanges.other_files (by decide)).mpr (by decide +kernel)⟩

end Session

end TextShell
