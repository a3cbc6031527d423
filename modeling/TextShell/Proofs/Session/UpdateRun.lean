import TextShell.Proofs.Edit.Run
import TextShell.Proofs.Request.UpdateForm
import TextShell.Proofs.Session.FailedCommand
import TextShell.Text.Utf8

/-!
# Runs of updates

Updates of one file, one after the other, are the edits that they ask for, made one after the other
on the lines of the file: the file is written and read again at every step, and nothing is lost on
the way. Until the first edit that can be made the content stays as it was, with whatever line
endings it has; from then on each line ends in a line feed.

* `FileSystem.HoldsLines`: what the file and the directory around it are like before each update.
* `Session.holdsLines_dispatchAll`: that this holds after any updates, with the edited lines.
* `Session.dispatchAll_updates`: content, lines and output after every update.
-/

namespace TextShell

open Reading (WrittenEdit)

/-! ### Replacing the lines of a file -/

namespace FileSystem

/-- A path leads to a file with a content that has these lines, none of which ends in a carriage
return, and a temporary file can be made beside it. -/
structure HoldsLines (fs : FileSystem) (path : String) (content : ByteArray)
    (lines : List String) : Prop where
  /-- The files are a tree. -/
  wellFormed : fs.WellFormed
  /-- The path leads to a file with this content. -/
  readFile_eq : fs.readFile path = .ok content
  /-- The content is text with these lines. -/
  lines_eq : ∃ text, String.fromUTF8? content = some text ∧ Text.breakLines text = lines
  /-- The lines would be read again as they are. -/
  isLine {line : String} : line ∈ lines → Text.IsLine line
  /-- There is room for a temporary file. -/
  exists_temporary : ∃ made, fs.makeTemporary ((Path.parent? path).getD ".") = .ok made

variable {fs : FileSystem} {path name : String} {above : List String} {content : ByteArray}
  {lines edited : List String}

theorem HoldsLines.isFile (h : fs.HoldsLines path content lines) : fs.isFile path = true :=
  isFile_iff.mpr ⟨content, h.readFile_eq⟩

/-- What is read from the file are the lines. -/
theorem HoldsLines.exists_readText (h : fs.HoldsLines path content lines) :
    ∃ text, fs.readText path = .ok text ∧ Text.breakLines text = lines := by
  obtain ⟨text, htext, hlines⟩ := h.lines_eq
  refine ⟨text, ?_, hlines⟩
  rw [readText, h.readFile_eq]
  dsimp only
  rw [htext]

/-- A file whose lines are replaced holds the new ones, and can be replaced again. -/
theorem HoldsLines.replaceFile (h : fs.HoldsLines path content lines)
    (hends : Path.EndsIn path above name) (hname : Path.IsTextName name)
    (hedited : ∀ line ∈ edited, Text.IsLine line) :
    ∃ after, fs.replaceFile path (Text.joinLines edited).toUTF8 = (after, .ok ()) ∧
      after.HoldsLines path (Text.joinLines edited).toUTF8 edited := by
  obtain ⟨directory, hreplace, hwellFormed, hreaches, hroom⟩ :=
    exists_place_of_makeTemporary h.wellFormed hends hname h.isFile h.exists_temporary
      (Text.joinLines edited).toUTF8
  refine ⟨_, hreplace, ?_⟩
  exact
    { wellFormed := hwellFormed
      readFile_eq := by
        -- the path still comes to its last name, where the new file is
        have hnew : (fs.put (name :: directory) (.file (Text.joinLines edited).toUTF8)).lookup
            (name :: directory) = some (.file (Text.joinLines edited).toUTF8) :=
          lookup_put_self _ (by simp)
        exact readFile_eq_ok_iff.mpr ⟨_, hreaches.locate_of_file (by decide) hnew, hnew⟩
      lines_eq := ⟨Text.joinLines edited, Text.fromUTF8?_toUTF8 _,
        Text.breakLines_joinLines hedited⟩
      isLine := hedited _
      exists_temporary := hroom }

end FileSystem

/-! ### Updates -/

section Command

variable {fs : FileSystem} {directory arguments path : String} {written : WrittenEdit}
  {content : ByteArray} {lines edited : List String} {failure : Failure}

/-- The arguments of an update ask for the edit that is written, if its line number fits. -/
theorem UpdateRequest.read_eq
    (h : Reading.update? arguments.toList = some (path.toList, written)) :
    read arguments = match written.edit with
      | .ok edit => .ok { path, edit }
      | .error failure => .error failure := by
  unfold read
  rw [h]
  cases hedit : written.edit <;> simp only [hedit, String.ofList_toList]

/-- A request for an edit that cannot be made fails like it and changes nothing. -/
theorem UpdateRequest.carryOut_of_error (request : UpdateRequest)
    (h : fs.HoldsLines (Path.resolve directory request.path) content lines)
    (happly : request.edit.apply lines = .error failure) :
    request.carryOut directory fs = .failed fs failure := by
  obtain ⟨text, htext, rfl⟩ := h.exists_readText
  have hfile := h.isFile
  have hcourse := request.course directory fs
  generalize request.carryOut directory fs = outcome at hcourse ⊢
  cases hcourse with
  | missing hmissing => simp [hmissing] at hfile
  | unreadable _ hread => simp [htext] at hread
  | refused _ hread hedit =>
    obtain rfl := Except.ok.inj (htext.symm.trans hread)
    obtain rfl := Except.error.inj (happly.symm.trans hedit)
    rfl
  | fault _ hread hedit | updated _ hread hedit =>
    obtain rfl := Except.ok.inj (htext.symm.trans hread)
    simp [happly] at hedit

/-- A request for an edit that can be made replaces the lines of the file. -/
theorem UpdateRequest.carryOut_of_ok (request : UpdateRequest)
    (h : fs.HoldsLines (Path.resolve directory request.path) content lines)
    (hpath : Reading.isPath request.path.toList = true)
    (hedited : ∀ line ∈ edited, Text.IsLine line)
    (happly : request.edit.apply lines = .ok edited) :
    (request.carryOut directory fs).result = .ok () ∧
      (request.carryOut directory fs).files.HoldsLines (Path.resolve directory request.path)
        (Text.joinLines edited).toUTF8 edited := by
  obtain ⟨above, name, hends, hname⟩ := Path.endsIn_resolve directory hpath
  obtain ⟨after, hafter, hholds⟩ := h.replaceFile hends hname hedited
  obtain ⟨text, htext, rfl⟩ := h.exists_readText
  have hfile := h.isFile
  have hcourse := request.course directory fs
  generalize request.carryOut directory fs = outcome at hcourse ⊢
  cases hcourse with
  | missing hmissing => simp [hmissing] at hfile
  | unreadable _ hread => simp [htext] at hread
  | refused _ hread hedit =>
    obtain rfl := Except.ok.inj (htext.symm.trans hread)
    simp [happly] at hedit
  | fault _ hread hedit hreplace =>
    obtain rfl := Except.ok.inj (htext.symm.trans hread)
    obtain rfl := Except.ok.inj (happly.symm.trans hedit)
    -- the replacement is the one that is known to succeed
    rw [hafter] at hreplace
    cases (Prod.mk.inj hreplace).2
  | updated _ hread hedit hreplace =>
    obtain rfl := Except.ok.inj (htext.symm.trans hread)
    obtain rfl := Except.ok.inj (happly.symm.trans hedit)
    rw [hafter] at hreplace
    obtain rfl := (Prod.mk.inj hreplace).1
    exact ⟨rfl, hholds⟩

/-- An update whose edit cannot be made fails like it and changes nothing. -/
theorem FileCommand.update_of_error (h : fs.HoldsLines (Path.resolve directory path) content lines)
    (hupdate : Reading.update? arguments.toList = some (path.toList, written))
    (happly : written.apply lines = .error failure) :
    (update directory arguments fs).result = .error failure ∧
      (update directory arguments fs).files = fs := by
  have hread := UpdateRequest.read_eq hupdate
  unfold WrittenEdit.apply at happly
  cases hedit : written.edit with
  | error other =>
    -- a number that does not fit is found when the arguments are read
    rw [hedit] at hread happly
    obtain rfl := Except.error.inj happly
    exact run_of_error hread
  | ok edit =>
    rw [hedit] at hread happly
    have hcarry := UpdateRequest.carryOut_of_error { path, edit } h happly
    obtain ⟨hresult, hfiles⟩ := run_of_ok hread
    exact ⟨hresult.trans (congrArg Outcome.result hcarry),
      hfiles.trans (congrArg Outcome.files hcarry)⟩

/-- An update whose edit can be made replaces the lines of the file. -/
theorem FileCommand.update_of_ok (h : fs.HoldsLines (Path.resolve directory path) content lines)
    (hupdate : Reading.update? arguments.toList = some (path.toList, written))
    (hwritten : ∀ text, written.text? = some text → Text.IsLine (.ofList text))
    (happly : written.apply lines = .ok edited) :
    (update directory arguments fs).result = .ok () ∧
      (update directory arguments fs).files.HoldsLines (Path.resolve directory path)
        (Text.joinLines edited).toUTF8 edited := by
  have hread := UpdateRequest.read_eq hupdate
  have hedited := WrittenEdit.isLine_of_apply hwritten (fun _ => h.isLine) happly
  unfold WrittenEdit.apply at happly
  cases hedit : written.edit with
  | error other =>
    rw [hedit] at happly
    cases happly
  | ok edit =>
    rw [hedit] at hread happly
    obtain ⟨hcarried, hholds⟩ := UpdateRequest.carryOut_of_ok { path, edit } h
      (Reading.isPath_of_update? hupdate) hedited happly
    obtain ⟨hresult, hfiles⟩ := run_of_ok hread
    refine ⟨hresult.trans hcarried, ?_⟩
    rw [update, hfiles]
    exact hholds

end Command

/-! ### Lines of input -/

/-- A line of input is an update of the file with this path, with an edit that is written in it. -/
structure IsUpdate (path line : String) (written : WrittenEdit) : Prop where
  /-- The word in front names the verb. -/
  ofWord?_eq : Verb.ofWord? (splitCommand line).1 = some .update
  /-- The arguments have the form of an update. -/
  update?_eq : Reading.update? (splitCommand line).2.toList = some (path.toList, written)
  /-- The text of the edit is one line. -/
  isLine {text : List Char} : written.text? = some text → Text.IsLine (.ofList text)

/-- The content of a file after edits of its lines: what it was as long as none could be made, and
then the lines, each ended by a line feed. -/
def editedContent (content : ByteArray) (edits : List WrittenEdit) (lines : List String) :
    ByteArray :=
  if WrittenEdit.anySucceeds edits lines then
    (Text.joinLines (WrittenEdit.applyAll edits lines)).toUTF8
  else content

theorem editedContent_cons_of_error (content : ByteArray) {written : WrittenEdit}
    {lines : List String} {failure : Failure} (h : written.apply lines = .error failure)
    (edits : List WrittenEdit) :
    editedContent content (written :: edits) lines = editedContent content edits lines := by
  simp [editedContent, WrittenEdit.anySucceeds, WrittenEdit.next_of_error h, h,
    Except.isOk, Except.toBool]

/-- After an edit that can be made, the content is as if the file had begun with its lines. -/
theorem editedContent_cons_of_ok (content : ByteArray) {written : WrittenEdit}
    {lines edited : List String} (h : written.apply lines = .ok edited)
    (edits : List WrittenEdit) :
    editedContent content (written :: edits) lines =
      editedContent (Text.joinLines edited).toUTF8 edits edited := by
  have hsome : WrittenEdit.anySucceeds (written :: edits) lines = true := by
    simp [WrittenEdit.anySucceeds, h, Except.isOk, Except.toBool]
  rw [editedContent, if_pos hsome, WrittenEdit.applyAll_cons,
    WrittenEdit.next_of_ok h, editedContent]
  split
  next => rfl
  -- if no later edit can be made, the lines are those that this one has left
  next hnone => rw [WrittenEdit.applyAll_eq_self (by simpa using hnone)]

namespace Session

variable {session : Session} {path line : String} {written : WrittenEdit}
  {content : ByteArray} {lines edited : List String} {failure : Failure}

/-- What an update line does is the update command. -/
theorem perform_of_isUpdate (session : Session) (hline : IsUpdate path line written) :
    (CommandTable.standard.action (splitCommand line).1).perform (splitCommand line).2 session =
      Action.conclude session (FileCommand.update session.workspace.directory
        (splitCommand line).2 session.files) := by
  rw [CommandTable.action_of_ofWord? hline.ofWord?_eq]
  rfl

/-- An update whose edit cannot be made reports why and does nothing else to be seen. -/
theorem dispatch_update_of_error
    (h : session.files.HoldsLines (Path.resolve session.workspace.directory path) content lines)
    (hline : IsUpdate path line written) (happly : written.apply lines = .error failure) :
    (session.dispatch .standard line).files = session.files ∧
      (session.dispatch .standard line).workspace = session.workspace ∧
      (session.dispatch .standard line).output =
        (session.output.write (failure.message ++ "\n")).1 := by
  obtain ⟨hresult, hfiles⟩ := FileCommand.update_of_error h hline.update?_eq happly
  have hperform := session.perform_of_isUpdate hline
  have hfailure : ((CommandTable.standard.action (splitCommand line).1).perform
      (splitCommand line).2 session).2 = .error failure := by
    rw [hperform, Action.conclude_result, hresult]
  rw [dispatch_of_error hfailure, hperform]
  simp only [reportFailure_files, reportFailure_workspace, reportFailure_output,
    Action.conclude_files, Action.conclude_workspace, Action.conclude_output, hfiles, and_self]

/-- An update whose edit can be made changes the lines and writes nothing. -/
theorem dispatch_update_of_ok
    (h : session.files.HoldsLines (Path.resolve session.workspace.directory path) content lines)
    (hline : IsUpdate path line written) (happly : written.apply lines = .ok edited) :
    (session.dispatch .standard line).files.HoldsLines
        (Path.resolve session.workspace.directory path) (Text.joinLines edited).toUTF8 edited ∧
      (session.dispatch .standard line).workspace = session.workspace ∧
      (session.dispatch .standard line).output = session.output := by
  obtain ⟨hresult, hfiles⟩ :=
    FileCommand.update_of_ok h hline.update?_eq (fun _ => hline.isLine) happly
  have hperform := session.perform_of_isUpdate hline
  have hdone : ((CommandTable.standard.action (splitCommand line).1).perform
      (splitCommand line).2 session).2 = .ok () := by
    rw [hperform, Action.conclude_result, hresult]
  rw [dispatch_of_ok hdone, hperform]
  simp only [Action.conclude_files, Action.conclude_workspace, Action.conclude_output, and_self,
    and_true]
  exact hfiles

/-- After updates one after the other the file holds the edited lines. -/
theorem holdsLines_dispatchAll {steps : List (String × WrittenEdit)}
    (h : session.files.HoldsLines (Path.resolve session.workspace.directory path) content lines)
    (hsteps : ∀ step ∈ steps, IsUpdate path step.1 step.2) :
    (session.dispatchAll .standard (steps.map Prod.fst)).files.HoldsLines
        (Path.resolve session.workspace.directory path)
        (editedContent content (steps.map Prod.snd) lines)
        (WrittenEdit.applyAll (steps.map Prod.snd) lines) ∧
      (session.dispatchAll .standard (steps.map Prod.fst)).workspace = session.workspace := by
  -- what the file holds is what each update needs and what it brings about
  induction steps generalizing session content lines with
  | nil => exact ⟨h, rfl⟩
  | cons step steps ih =>
    obtain ⟨line, written⟩ := step
    have hline : IsUpdate path line written := hsteps _ (List.mem_cons_self ..)
    have hothers : ∀ step ∈ steps, IsUpdate path step.1 step.2 :=
      fun step hmem => hsteps step (List.mem_cons_of_mem _ hmem)
    rw [List.map_cons, List.map_cons, dispatchAll_cons, WrittenEdit.applyAll_cons]
    cases happly : written.apply lines with
    | error failure =>
      -- nothing has changed, neither the file nor the lines
      obtain ⟨hfiles, hworkspace, -⟩ := dispatch_update_of_error h hline happly
      rw [← hfiles, ← hworkspace] at h
      obtain ⟨hafter, hsame⟩ := ih h hothers
      rw [hworkspace] at hafter hsame
      rw [WrittenEdit.next_of_error happly, editedContent_cons_of_error _ happly]
      exact ⟨hafter, hsame⟩
    | ok edited =>
      -- the others begin with the new content, which stands for the edited lines
      obtain ⟨hfiles, hworkspace, -⟩ := dispatch_update_of_ok h hline happly
      rw [← hworkspace] at hfiles
      obtain ⟨hafter, hsame⟩ := ih hfiles hothers
      rw [hworkspace] at hafter hsame
      rw [WrittenEdit.next_of_ok happly, editedContent_cons_of_ok _ happly]
      exact ⟨hafter, hsame⟩

/-- Updates of one file are the edits that they ask for, made on the lines that the file has at the
start. After any number of them the file has the edited lines, and its content is what it was if no
edit could be made yet and otherwise those lines, each ended by a line feed. The next update writes
nothing if its edit can be made, and otherwise tells that the line number is out of range.

What is asked of the start is that the path leads to a file of text, that no line of it ends in a
carriage return, and that a temporary file can be made beside it. -/
theorem dispatchAll_updates {text : String} {steps : List (String × WrittenEdit)}
    (hfiles : session.files.WellFormed)
    (hread : session.files.readFile (Path.resolve session.workspace.directory path) = .ok content)
    (htext : String.fromUTF8? content = some text)
    (hreturn : ∀ line ∈ Text.breakLines text, line.toList.getLast? ≠ some '\r')
    (htemporary : ∃ made, session.files.makeTemporary
      ((Path.parent? (Path.resolve session.workspace.directory path)).getD ".") = .ok made)
    (hsteps : ∀ step ∈ steps, IsUpdate path step.1 step.2) :
    (∀ done, done <+: steps → ∃ now,
      (session.dispatchAll .standard (done.map Prod.fst)).files.readFile
          (Path.resolve session.workspace.directory path) =
        .ok (editedContent content (done.map Prod.snd) (Text.breakLines text)) ∧
      (session.dispatchAll .standard (done.map Prod.fst)).files.readText
          (Path.resolve session.workspace.directory path) = .ok now ∧
      Text.breakLines now =
        WrittenEdit.applyAll (done.map Prod.snd) (Text.breakLines text)) ∧
    (∀ done line written, done ++ [(line, written)] <+: steps →
      match written.apply
          (WrittenEdit.applyAll (done.map Prod.snd) (Text.breakLines text)) with
      | .ok _ =>
        (session.dispatchAll .standard ((done ++ [(line, written)]).map Prod.fst)).output =
          (session.dispatchAll .standard (done.map Prod.fst)).output
      | .error failure => written.rangeFailure? = some failure ∧
        (session.dispatchAll .standard ((done ++ [(line, written)]).map Prod.fst)).output =
          ((session.dispatchAll .standard (done.map Prod.fst)).output.write
            (failure.message ++ "\n")).1) := by
  have hstart : session.files.HoldsLines (Path.resolve session.workspace.directory path) content
      (Text.breakLines text) :=
    { wellFormed := hfiles
      readFile_eq := hread
      lines_eq := ⟨text, htext, rfl⟩
      isLine := fun hmem => ⟨Text.not_mem_of_mem_breakLines hmem, hreturn _ hmem⟩
      exists_temporary := htemporary }
  constructor
  · intro done hdone
    obtain ⟨hafter, -⟩ :=
      holdsLines_dispatchAll hstart fun step hmem => hsteps step (hdone.subset hmem)
    obtain ⟨now, hnow, hlines⟩ := hafter.exists_readText
    exact ⟨now, hafter.readFile_eq, hnow, hlines⟩
  · intro done line written hdone
    have hline : IsUpdate path line written := hsteps (line, written) (hdone.subset (by simp))
    -- the line is dispatched where the file holds what the updates before it have left
    obtain ⟨hafter, hworkspace⟩ := holdsLines_dispatchAll hstart
      fun step hmem => hsteps step (hdone.subset (List.mem_append_left _ hmem))
    rw [← hworkspace] at hafter
    rw [List.map_append, dispatchAll_append, List.map_singleton, dispatchAll_cons,
      dispatchAll_nil]
    split
    next happly => exact (dispatch_update_of_ok hafter hline happly).2.2
    next happly =>
      exact ⟨WrittenEdit.rangeFailure?_of_apply happly,
        (dispatch_update_of_error hafter hline happly).2.2⟩

/-- A file with a carriage return before a line feed and no line feed at its end: an edit that cannot
be made leaves it so, and the next one puts all lines in order. -/
theorem dispatchAll_updates_in_order :
    let content := "x\r\ny".toUTF8
    let session := Session.start (FileSystem.empty.put ["a.txt"] (.file content)) "/"
    let steps : List (String × WrittenEdit) :=
      [("update -f \"a.txt\" -dl 9", .deleteAt ['9']),
        ("UPDATE -f \"a.txt\" -nl 1 \"z\"", .insertAt ['1'] ['z'])]
    (session.dispatchAll .standard ["update -f \"a.txt\" -dl 9"]).files.readFile "/a.txt" =
        .ok content ∧
      (session.dispatchAll .standard (steps.map Prod.fst)).files.readFile "/a.txt" =
        .ok "z\nx\ny\n".toUTF8 := by
  intro content session steps
  have hresolve : Path.resolve session.workspace.directory "a.txt" = "/a.txt" := by decide +kernel
  have hfiles : session.files.WellFormed :=
    FileSystem.wellFormed_empty.put rfl (by decide +kernel) _
  have hread : session.files.readFile (Path.resolve session.workspace.directory "a.txt") =
      .ok content := by
    decide +kernel
  have htext : String.fromUTF8? content = some "x\r\ny" := Text.fromUTF8?_toUTF8 _
  have hreturn : ∀ line ∈ Text.breakLines "x\r\ny", line.toList.getLast? ≠ some '\r' := by
    decide +kernel
  have hroom : (session.files.makeTemporary
      ((Path.parent? (Path.resolve session.workspace.directory "a.txt")).getD ".")).isOk = true := by
    decide +kernel
  have htemporary : ∃ made, session.files.makeTemporary
      ((Path.parent? (Path.resolve session.workspace.directory "a.txt")).getD ".") = .ok made := by
    generalize session.files.makeTemporary _ = attempt at hroom
    cases attempt with
    | ok made => exact ⟨made, rfl⟩
    | error fault => cases hroom
  have hsteps : ∀ step ∈ steps, IsUpdate "a.txt" step.1 step.2 := by
    simp only [steps, List.forall_mem_cons, List.not_mem_nil, false_implies, implies_true, and_true]
    exact ⟨⟨by decide +kernel, by decide +kernel, by simp [WrittenEdit.text?]⟩,
      ⟨by decide +kernel, by decide +kernel, by
        rintro text htext
        obtain rfl := Option.some.inj htext
        exact ⟨by decide, by decide⟩⟩⟩
  obtain ⟨hholds, -⟩ := dispatchAll_updates hfiles hread htext hreturn htemporary hsteps
  obtain ⟨_, hfirst, -⟩ := hholds (steps.take 1) <| List.take_prefix 1 steps
  obtain ⟨_, hboth, -⟩ := hholds steps List.prefix_rfl
  rw [hresolve] at hfirst hboth
  have hcontent : editedContent content ((steps.take 1).map Prod.snd) (Text.breakLines "x\r\ny") =
      content := by
    decide +kernel
  have hlines : editedContent content (steps.map Prod.snd) (Text.breakLines "x\r\ny") =
      "z\nx\ny\n".toUTF8 := by
    decide +kernel
  rw [hcontent] at hfirst
  rw [hlines] at hboth
  exact ⟨hfirst, hboth⟩

end Session

end TextShell
