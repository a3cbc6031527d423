import TextShell.Proofs.Request.TrailingBlanks
import TextShell.Proofs.Session.BuiltIn

/-!
# Blank characters behind a line

Blank characters at the end of a line go to the arguments, as long as the word of the line has ended
before them. There the four file commands pass over them, and the other actions do not look at their
arguments. So the line does what it did without them, whether it is well formed or not. Only the
journal, in which arguments are noted as they were given, can tell the two apart.

* `exists_splitCommand_append_blanks`: blank characters go to the arguments.
* `Action.IsBuiltIn.comesToSame_append_blanks`: they make no difference to a built-in action.
* `Session.dispatch_append_blanks`: a line with blank characters behind it.
-/

namespace TextShell

/-- Blank characters that cannot belong to the word of a line follow its arguments. -/
theorem exists_splitCommand_append_blanks {line blanks : String}
    (hblanks : Text.isBlankText blanks = true)
    (hspace : blanks = "" ∨ ' ' ∈ line.toList ∨ blanks.toList.head? = some ' ') :
    ∃ tail, Text.isBlankText tail = true ∧
      splitCommand (line ++ blanks) =
        ((splitCommand line).1, (splitCommand line).2 ++ tail) := by
  obtain ⟨hword, hline⟩ := splits_splitCommand line
  rcases hline with hline | ⟨hline, harguments⟩
  · -- the word has ended at a space of the line itself
    refine ⟨blanks, hblanks, Splits.splitCommand_eq ⟨hword, .inl ?_⟩⟩
    conv => lhs; rw [hline]
    exact String.append_assoc ..
  · rcases hspace with rfl | hspace | hspace
    · refine ⟨"", rfl, ?_⟩
      simp
    · rw [hline] at hspace
      exact absurd hspace hword
    · -- the first of the blank characters ends the word, and the others are the arguments
      obtain ⟨tail, htail⟩ := List.head?_eq_some_iff.mp hspace
      have hcut : blanks = " " ++ .ofList tail := by
        rw [← String.toList_inj, htail]
        simp
      refine ⟨.ofList tail, ?_, Splits.splitCommand_eq ⟨hword, .inl ?_⟩⟩
      · rw [Text.isBlankText, htail, List.all_cons, Bool.and_eq_true] at hblanks
        rw [Text.isBlankText, String.toList_ofList]
        exact hblanks.2
      · rw [harguments, ← hline, hcut, String.append_assoc]
        simp

/-- Behind a single word, a blank character other than a space belongs to the word. -/
example : splitCommand ("exit" ++ "\t") = ("exit\t", "") := by cbv

/-! ### Actions -/

namespace Action

/-- An action comes to the same with other arguments, but for its notes. -/
structure ComesToSame (action : Action) (session : Session) (arguments other : String) : Prop where
  /-- It leaves the same files. -/
  files_eq : (action.perform other session).1.files = (action.perform arguments session).1.files
  /-- It leaves the same workspace. -/
  workspace_eq :
    (action.perform other session).1.workspace = (action.perform arguments session).1.workspace
  /-- It fails for the same reason, or in neither case. -/
  result_eq : (action.perform other session).2 = (action.perform arguments session).2

variable {action : Action} {session : Session} {arguments other blanks : String}

/-- What comes of a file command is settled by what its arguments are read as. -/
theorem ComesToSame.of_read {Request : Type} {form : CommandForm}
    {read : String → Except Failure Request} {carryOut : Request → Outcome}
    (hperform : ∀ arguments, action.perform arguments session =
      conclude session (FileCommand.run form arguments read carryOut session.files))
    (h : read other = read arguments) : action.ComesToSame session arguments other := by
  have hrun : (FileCommand.run form other read carryOut session.files).files =
        (FileCommand.run form arguments read carryOut session.files).files ∧
      (FileCommand.run form other read carryOut session.files).result =
        (FileCommand.run form arguments read carryOut session.files).result := by
    unfold FileCommand.run
    rw [h]
    exact ⟨rfl, rfl⟩
  refine ⟨?_, ?_, ?_⟩
  · rw [hperform, hperform, conclude_files, conclude_files, hrun.1]
  · rw [hperform, hperform, conclude_workspace, conclude_workspace]
  · rw [hperform, hperform, conclude_result, conclude_result, hrun.2]

/-- The file commands pass over blank characters behind their arguments, and the other built-in
actions only note what their arguments are. -/
theorem IsBuiltIn.comesToSame_append_blanks (h : action.IsBuiltIn) (session : Session)
    (arguments : String) (hblanks : Text.isBlankText blanks = true) :
    action.ComesToSame session arguments (arguments ++ blanks) := by
  cases h with
  | copy => exact .of_read (fun _ => rfl) (CopyRequest.read_append_blanks arguments hblanks)
  | create => exact .of_read (fun _ => rfl) (CreateRequest.read_append_blanks arguments hblanks)
  | delete => exact .of_read (fun _ => rfl) (DeleteRequest.read_append_blanks arguments hblanks)
  | update => exact .of_read (fun _ => rfl) (UpdateRequest.read_append_blanks arguments hblanks)
  | exit => exact ⟨rfl, rfl, rfl⟩
  | reject => exact ⟨by simp [perform], by simp [perform], rfl⟩

end Action

/-! ### Lines of input -/

/-- Blank characters behind a line make no difference to the files, the workspace and the output,
whether the line does what it asks for, fails, ends the session or names no command. On a line of
one word they have to begin with a space, as any other blank character would belong to the word. -/
theorem Session.dispatch_append_blanks (session : Session) (line blanks : String)
    (hblanks : Text.isBlankText blanks = true)
    (hspace : blanks = "" ∨ ' ' ∈ line.toList ∨ blanks.toList.head? = some ' ') :
    (session.dispatch .standard (line ++ blanks)).files =
        (session.dispatch .standard line).files ∧
      (session.dispatch .standard (line ++ blanks)).workspace =
        (session.dispatch .standard line).workspace ∧
      (session.dispatch .standard (line ++ blanks)).output =
        (session.dispatch .standard line).output := by
  obtain ⟨tail, htail, hsplit⟩ := exists_splitCommand_append_blanks hblanks hspace
  have hword : (splitCommand (line ++ blanks)).1 = (splitCommand line).1 := by rw [hsplit]
  have harguments : (splitCommand (line ++ blanks)).2 = (splitCommand line).2 ++ tail := by
    rw [hsplit]
  have hbuiltIn := CommandTable.isBuiltIn_standard.action (splitCommand line).1
  have hsame := hbuiltIn.comesToSame_append_blanks session (splitCommand line).2 htail
  refine ⟨?_, ?_, ?_⟩
  · rw [dispatch_files, dispatch_files, hword, harguments, hsame.files_eq]
  · rw [dispatch_workspace, dispatch_workspace, hword, harguments, hsame.workspace_eq]
  · -- the same remark is made, and a line writes nothing else
    have hremark : session.remark? .standard (line ++ blanks) = session.remark? .standard line := by
      refine remark?_congr_of_word hword ?_
      rw [harguments, hsame.result_eq]
    rw [dispatch_output CommandTable.isBuiltIn_standard,
      dispatch_output CommandTable.isBuiltIn_standard, hremark]

/-- An update whose line ends in an ideographic space and a line separator, which are blank. -/
theorem Session.dispatch_append_blanks_ideographic :
    let session := Session.start (FileSystem.empty.put ["a.txt"] (.file "x\ny\n".toUTF8)) "/"
    let line := "update -f \"a.txt\" -dl 1"
    let blanks := "\u3000\u2028"
    (session.dispatch .standard (line ++ blanks)).files =
        (session.dispatch .standard line).files ∧
      (session.dispatch .standard line).files.readText "/a.txt" = .ok "y\n" := by
  intro session line blanks
  have hspace : ' ' ∈ line.toList := by decide +kernel
  have hsame := session.dispatch_append_blanks line blanks (by decide +kernel) (.inr (.inl hspace))
  exact ⟨hsame.1, by decide +kernel⟩

end TextShell
