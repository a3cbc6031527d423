import TextShell.FileCommand
import TextShell.Session.Basic
import TextShell.Text.Quoted

/-!
# Actions

What a session does for a verb: the four file commands, ending, telling that a word names no
command, and whatever else a shell is extended by.
-/

namespace TextShell

/-- What is done for a command, given its arguments. -/
inductive Action where
  /-- Copy a file. -/
  | copy
  /-- Create a file. -/
  | create
  /-- Delete a file. -/
  | delete
  /-- Change the lines of a file. -/
  | update
  /-- End the session. -/
  | exit
  /-- Tell that there is no such command. -/
  | reject
  /-- Do something else with the session as a command finds it. -/
  | custom (perform : String → Session → Session × Except Failure Unit)

namespace Action

/-- The report of a word that names no command. -/
def rejection : String := "Invalid command. Please try again."

/-- The session after a file command. -/
def conclude (session : Session) (outcome : Outcome) : Session × Except Failure Unit :=
  ({ session with files := outcome.files, journal := session.journal ++ outcome.notes },
    outcome.result)

/-- Do what an action is about. -/
def perform (action : Action) (arguments : String) (session : Session) :
    Session × Except Failure Unit :=
  match action with
  | copy =>
    conclude session (FileCommand.copy session.workspace.directory arguments session.files)
  | create =>
    conclude session (FileCommand.create session.workspace.directory arguments session.files)
  | delete =>
    conclude session (FileCommand.delete session.workspace.directory arguments session.files)
  | update =>
    conclude session (FileCommand.update session.workspace.directory arguments session.files)
  | exit =>
    ({ session with workspace := { session.workspace with closing := true } }.note .commands .info
      "exit requested", .ok ())
  | reject =>
    ((session.note .commands .warn ("unknown command with arguments: " ++
      Text.quote arguments)).report .commands rejection, .ok ())
  | custom perform =>
    (session.append (perform arguments session.fresh).1, (perform arguments session.fresh).2)

@[simp]
theorem conclude_result (session : Session) (outcome : Outcome) :
    (conclude session outcome).2 = outcome.result := rfl

@[simp]
theorem conclude_files (session : Session) (outcome : Outcome) :
    (conclude session outcome).1.files = outcome.files := rfl

@[simp]
theorem conclude_workspace (session : Session) (outcome : Outcome) :
    (conclude session outcome).1.workspace = session.workspace := rfl

@[simp]
theorem conclude_output (session : Session) (outcome : Outcome) :
    (conclude session outcome).1.output = session.output := rfl

end Action

end TextShell
