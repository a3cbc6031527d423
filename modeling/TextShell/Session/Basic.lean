import TextShell.FileSystem.Basic
import TextShell.Journal
import TextShell.Output

/-!
# Sessions

The state that commands work on: the files, the directory in which relative paths start, whether
the session is to end, the output and the journal.
-/

namespace TextShell

/-- What a session keeps for itself between commands. -/
structure Workspace where
  /-- The directory that relative paths continue. -/
  directory : String
  /-- Whether the session has been asked to end. -/
  closing : Bool
  deriving DecidableEq, Repr

/-- The state of a session. -/
structure Session where
  /-- The files. -/
  files : FileSystem
  /-- What the session keeps for itself. -/
  workspace : Workspace
  /-- Where reports go. -/
  output : Output
  /-- The journal, in order. -/
  journal : Array Note

namespace Session

/-- A new session in a directory. -/
def start (files : FileSystem) (directory : String) : Session where
  files
  workspace := { directory, closing := false }
  output := .working
  journal := #[]

/-- The session as a command finds it: what was written and noted before is out of sight. -/
def fresh (session : Session) : Session :=
  { session with output := session.output.fresh, journal := #[] }

/-- The session that has gone on as a fresh one has. -/
def append (session later : Session) : Session :=
  { later with
    output := session.output.append later.output
    journal := session.journal ++ later.journal }

/-- The session with one more note. -/
def note (session : Session) (origin : Origin) (level : Level) (text : String) : Session :=
  { session with journal := session.journal.push { origin, level, text } }

/-- Write a line to the output. That it is refused is noted and has no other effect. -/
def report (session : Session) (origin : Origin) (line : String) : Session :=
  match session.output.write (line ++ "\n") with
  | (output, none) => { session with output }
  | (output, some reason) =>
    { session with output }.note origin .debug ("can't write to session output: " ++ reason)

@[simp]
theorem note_files (session : Session) (origin : Origin) (level : Level) (text : String) :
    (session.note origin level text).files = session.files := rfl

@[simp]
theorem note_workspace (session : Session) (origin : Origin) (level : Level) (text : String) :
    (session.note origin level text).workspace = session.workspace := rfl

@[simp]
theorem note_output (session : Session) (origin : Origin) (level : Level) (text : String) :
    (session.note origin level text).output = session.output := rfl

@[simp]
theorem report_files (session : Session) (origin : Origin) (line : String) :
    (session.report origin line).files = session.files := by
  unfold report
  split <;> rfl

@[simp]
theorem report_workspace (session : Session) (origin : Origin) (line : String) :
    (session.report origin line).workspace = session.workspace := by
  unfold report
  split <;> rfl

/-- A report writes its line to the output. -/
@[simp]
theorem report_output (session : Session) (origin : Origin) (line : String) :
    (session.report origin line).output = (session.output.write (line ++ "\n")).1 := by
  unfold report
  split
  next h => rw [h]
  next h => rw [note_output, h]

end Session

end TextShell
