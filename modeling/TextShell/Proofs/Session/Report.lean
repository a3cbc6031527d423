import TextShell.Proofs.Session.BuiltIn

/-!
# Reports of lines of input

A line of input is answered at most once: with the report of an unknown word, with the message of
the failure of its command, or not at all. Whether the output takes the answer makes no difference
to the files and the workspace, neither for this line nor for any that follow.

* `Session.SameState.dispatchAll`: two sessions that differ in no more than output and journal do so
  after any lines.
* `Session.dispatch_reports_once`: what a line of input writes, and that it does not matter whether
  it can be written.
-/

namespace TextShell.Session

variable {table : CommandTable} {session other : Session}

/-- Two sessions with the same files and the same workspace. Their outputs may differ in what they
have taken and in what they will refuse. -/
structure SameState (session other : Session) : Prop where
  /-- The files are the same. -/
  files_eq : other.files = session.files
  /-- Directory and flag are the same. -/
  workspace_eq : other.workspace = session.workspace

namespace SameState

theorem sameGround (h : session.SameState other) : session.SameGround other where
  files_eq := h.files_eq
  directory_eq := by rw [h.workspace_eq]

/-- The flag after a line of input is settled by the line and the flag before it. -/
theorem closing_dispatch_eq (htable : table.IsBuiltIn) (h : session.SameState other)
    (line : String) :
    (other.dispatch table line).workspace.closing =
      (session.dispatch table line).workspace.closing := by
  rw [Bool.eq_iff_iff, closing_dispatch htable, closing_dispatch htable, h.workspace_eq]

/-- A line of input leaves two sessions with the same state in the same state, whatever becomes of
its report. -/
theorem dispatch (htable : table.IsBuiltIn) (h : session.SameState other) (line : String) :
    (session.dispatch table line).SameState (other.dispatch table line) := by
  have hground := h.sameGround.dispatch htable line
  have hclosing := h.closing_dispatch_eq htable line
  refine ⟨hground.files_eq, ?_⟩
  have hdirectory := hground.directory_eq
  generalize (other.dispatch table line).workspace = workspace at hdirectory hclosing
  cases workspace
  -- a workspace is its directory and its flag
  dsimp only at hdirectory hclosing
  rw [hdirectory, hclosing]

/-- Any lines of input leave two sessions with the same state in the same state. -/
theorem dispatchAll (htable : table.IsBuiltIn) (h : session.SameState other) (lines : List String) :
    (session.dispatchAll table lines).SameState (other.dispatchAll table lines) := by
  induction lines generalizing session other with
  | nil => simpa using h
  | cons line lines ih =>
    rw [dispatchAll_cons, dispatchAll_cons]
    exact ih (h.dispatch htable line)

end SameState

/-- A remark is written to a working output as one message with a line feed behind it. -/
theorem dispatch_output_of_remark {line remark : String} (htable : table.IsBuiltIn)
    (hworking : session.output.IsAccepting) (h : session.remark? table line = some remark) :
    (session.dispatch table line).output.written = session.output.written ++ (remark ++ "\n") ∧
      (session.dispatch table line).output.attempts = session.output.attempts + 1 := by
  rw [dispatch_output htable, h]
  exact ⟨hworking.write_written _, Output.write_attempts ..⟩

/-- A line of input is a word and its arguments, cut at the first space, and the word picks the
action. In a session whose output works, a line with an unknown word writes the report of that and
nothing else, a line whose command fails writes the message of the failure and nothing else, and any
other line writes nothing. In another session with the same files and workspace, whatever its output
refuses, the files and the workspace are the same after these lines and any others. -/
theorem dispatch_reports_once (session other : Session) (line : String)
    (hworking : session.output.IsAccepting) (hfiles : other.files = session.files)
    (hworkspace : other.workspace = session.workspace) :
    let action := CommandTable.standard.action (splitCommand line).1
    let result := (action.perform (splitCommand line).2 session).2
    let after := session.dispatch .standard line
    Splits line (splitCommand line).1 (splitCommand line).2 ∧
      (action = .reject →
        after.output.written =
          session.output.written ++ "Invalid command. Please try again.\n" ∧
        after.output.attempts = session.output.attempts + 1) ∧
      (action ≠ .reject → result = .ok () → after.output = session.output) ∧
      (∀ failure, result = .error failure →
        after.output.written = session.output.written ++ (failure.message ++ "\n") ∧
        after.output.attempts = session.output.attempts + 1) ∧
      ∀ lines,
        (other.dispatchAll .standard lines).files = (session.dispatchAll .standard lines).files ∧
        (other.dispatchAll .standard lines).workspace =
          (session.dispatchAll .standard lines).workspace := by
  have hstandard := CommandTable.isBuiltIn_standard
  dsimp only
  refine ⟨splits_splitCommand line, ?_, ?_, ?_, ?_⟩
  · intro hreject
    have hremark : session.remark? .standard line = some Action.rejection :=
      remark?_of_reject hreject
    have hwritten := dispatch_output_of_remark hstandard hworking hremark
    have hmessage : Action.rejection ++ "\n" = "Invalid command. Please try again.\n" := by
      decide +kernel
    rw [hmessage] at hwritten
    exact hwritten
  · intro hne hok
    have hremark := remark?_of_ok hne hok
    rw [dispatch_output hstandard, hremark]
  · intro failure herror
    have hremark := remark?_of_error herror
    exact dispatch_output_of_remark hstandard hworking hremark
  · -- what an output refuses is never looked at
    intro lines
    have hstate : session.SameState other := ⟨hfiles, hworkspace⟩
    have hafter := hstate.dispatchAll hstandard lines
    exact ⟨hafter.files_eq, hafter.workspace_eq⟩

/-- A deletion of a line that is not there is reported once. With an output that takes no more than
the first characters of that report, the file is still created and the session still ends. -/
theorem dispatch_reports_once_refused :
    let files := FileSystem.empty.put ["a.txt"] (.file "x\n".toUTF8)
    let session := Session.start files "/"
    let refusing := { Output.working with refusal? := fun _ => some ⟨7, "no space left"⟩ }
    let other := { session with output := refusing }
    let lines := ["update -f \"a.txt\" -dl 9", "create -f \"b.txt\"", "exit"]
    (session.dispatch .standard "update -f \"a.txt\" -dl 9").output.written =
        "Invalid line number for deletion: 9. Please provide a valid line number.\n" ∧
      (other.dispatch .standard "update -f \"a.txt\" -dl 9").output.written = "Invalid" ∧
      (other.dispatchAll .standard lines).files = (session.dispatchAll .standard lines).files ∧
      (other.dispatchAll .standard lines).workspace = ⟨"/", true⟩ := by
  intro files session refusing other lines
  obtain ⟨-, -, -, hfailed, hsame⟩ := dispatch_reports_once session other
    "update -f \"a.txt\" -dl 9" Output.isAccepting_working rfl rfl
  have hwritten := (hfailed (.deleteOutOfRange "9") (by decide +kernel)).1
  obtain ⟨hfiles, hworkspace⟩ := hsame lines
  refine ⟨hwritten.trans (by decide +kernel), by decide +kernel, hfiles, ?_⟩
  rw [hworkspace]
  decide +kernel

end TextShell.Session
