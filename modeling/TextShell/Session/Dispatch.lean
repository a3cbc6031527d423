import TextShell.Session.CommandTable

/-!
# Dispatch

One line of input: the word before the first space picks the action, and all that follows the space
is its arguments. A failure is noted and reported, and the session goes on.
-/

namespace TextShell

/-- The word and the arguments of a line. -/
def splitCommand (line : String) : String × String :=
  (.ofList (line.toList.takeWhile (· ≠ ' ')), .ofList (line.toList.dropWhile (· ≠ ' ')).tail)

namespace Session

/-- Note and report the failure of a command. -/
def reportFailure (session : Session) (word : String) (failure : Failure) : Session :=
  (session.note .session .error (word ++ ": " ++ failure.message)).report .session failure.message

@[simp]
theorem reportFailure_files (session : Session) (word : String) (failure : Failure) :
    (session.reportFailure word failure).files = session.files := by
  rw [reportFailure, report_files, note_files]

@[simp]
theorem reportFailure_workspace (session : Session) (word : String) (failure : Failure) :
    (session.reportFailure word failure).workspace = session.workspace := by
  rw [reportFailure, report_workspace, note_workspace]

@[simp]
theorem reportFailure_output (session : Session) (word : String) (failure : Failure) :
    (session.reportFailure word failure).output =
      (session.output.write (failure.message ++ "\n")).1 := by
  rw [reportFailure, report_output, note_output]

/-- Carry out one line of input. -/
def dispatch (table : CommandTable) (session : Session) (line : String) : Session :=
  match (table.action (splitCommand line).1).perform (splitCommand line).2 session with
  | (after, .ok ()) => after
  | (after, .error failure) => after.reportFailure (splitCommand line).1 failure

/-- Carry out lines one after the other. -/
def dispatchAll (table : CommandTable) (session : Session) (lines : List String) : Session :=
  lines.foldl (dispatch table) session

/-- A command that does what it was asked for is all there is to a line. -/
theorem dispatch_of_ok {table : CommandTable} {session : Session} {line : String}
    (h : ((table.action (splitCommand line).1).perform (splitCommand line).2 session).2 = .ok ()) :
    session.dispatch table line =
      ((table.action (splitCommand line).1).perform (splitCommand line).2 session).1 := by
  unfold dispatch
  split
  next hperform => rw [hperform]
  next hperform =>
    rw [hperform] at h
    cases h

/-- The failure of a command is reported after what the command has done. -/
theorem dispatch_of_error {table : CommandTable} {session : Session} {line : String}
    {failure : Failure}
    (h : ((table.action (splitCommand line).1).perform (splitCommand line).2 session).2 =
      .error failure) :
    session.dispatch table line =
      ((table.action (splitCommand line).1).perform (splitCommand line).2
        session).1.reportFailure (splitCommand line).1 failure := by
  unfold dispatch
  split
  next hperform =>
    rw [hperform] at h
    cases h
  next other hperform =>
    rw [hperform] at h
    obtain rfl := Except.error.inj h
    rw [hperform]

/-- Whether a command fails or not, what becomes of the files is its own work. -/
theorem dispatch_files (table : CommandTable) (session : Session) (line : String) :
    (session.dispatch table line).files =
      ((table.action (splitCommand line).1).perform (splitCommand line).2 session).1.files := by
  unfold dispatch
  split
  next h => rw [h]
  next h => rw [h, reportFailure_files]

/-- Whether a command fails or not, what becomes of the workspace is its own work. -/
theorem dispatch_workspace (table : CommandTable) (session : Session) (line : String) :
    (session.dispatch table line).workspace =
      ((table.action (splitCommand line).1).perform (splitCommand line).2 session).1.workspace := by
  unfold dispatch
  split
  next h => rw [h]
  next h => rw [h, reportFailure_workspace]

@[simp]
theorem dispatchAll_nil (table : CommandTable) (session : Session) :
    session.dispatchAll table [] = session := by
  simp [dispatchAll]

@[simp]
theorem dispatchAll_cons (table : CommandTable) (session : Session) (line : String)
    (lines : List String) :
    session.dispatchAll table (line :: lines) = (session.dispatch table line).dispatchAll table
      lines := by
  simp [dispatchAll]

theorem dispatchAll_append (table : CommandTable) (session : Session) (lines others : List String) :
    session.dispatchAll table (lines ++ others) =
      (session.dispatchAll table lines).dispatchAll table others := by
  simp [dispatchAll]

end Session

example : splitCommand "update -f x" = ("update", "-f x") := by cbv

example : splitCommand "exit" = ("exit", "") ∧ splitCommand " exit" = ("", "exit") := by
  constructor <;> cbv

end TextShell
