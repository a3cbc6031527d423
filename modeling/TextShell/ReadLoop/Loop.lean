import TextShell.ReadLoop.History
import TextShell.ReadLoop.Input
import TextShell.Session.Dispatch
import TextShell.Text.Blank

/-!
# The read loop

Lines of input are carried out one by one until the session is to end, the input ends or a line has
no text. Blank lines are passed over. All others go to the history, which is loaded before and saved
after the loop.

* `ReadLoop.serve`: the loop over the lines of an input.
* `ReadLoop.run`: the loop with its history file.
-/

namespace TextShell

/-- How a read loop is set up. -/
structure ReadLoop where
  /-- What is done for the first word of a line. -/
  table : CommandTable
  /-- The text shown before a line is read. -/
  prompt : String
  /-- The path of the history file, if there is one. -/
  historyPath? : Option String
  /-- The kind of terminal that the program was started from. -/
  terminal : String

namespace ReadLoop

/-- The prompt that is shown if no other is given. -/
def defaultPrompt : String := "Enter command (or type 'exit' to quit): "

/-- The kinds of terminal on which a line cannot be edited. Only for these is the prompt shown when
the input is no terminal. -/
def plainTerminals : List String := ["dumb", "cons25", "emacs"]

/-- Whether a line cannot be edited on the terminal. -/
def isPlain (loop : ReadLoop) : Bool :=
  plainTerminals.any fun name => name = String.ofList (loop.terminal.toList.map Char.toLower)

/-- The state of a read loop. -/
structure State where
  /-- The session. -/
  session : Session
  /-- The lines entered. -/
  history : History

/-- How a read loop ends. -/
structure Result where
  /-- The state in which it ends. -/
  state : State
  /-- The lines of the input that are left. -/
  unread : List (List UInt8)
  /-- Why the last line that was read has no text, if it has none. All others have one. -/
  fault? : Option LineFault

/-- Whether every line that was read has a text. -/
def Result.readable (result : Result) : Bool := result.fault?.isNone

@[simp]
theorem Result.readable_eq_true_iff {result : Result} :
    result.readable = true ↔ result.fault? = none := by
  simp [readable]

@[simp]
theorem Result.readable_eq_false_iff {result : Result} :
    result.readable = false ↔ result.fault? ≠ none := by
  simp [readable, Option.isSome_iff_ne_none]

/-- Get ready to read a line: note the way in which it is read, and show the prompt if this is the
way. -/
def awaitLine (loop : ReadLoop) (state : State) : State :=
  if loop.isPlain then
    let noted := state.session.note .lineReader .debug "unsupported terminal"
    { state with session := { noted with output := (noted.output.write loop.prompt).1 } }
  else { state with session := state.session.note .lineReader .debug "stdin is not a tty" }

/-- Take in a line that was read. -/
def takeLine (loop : ReadLoop) (state : State) (line : String) : State :=
  if Text.isBlankText line then state
  else
    { session := state.session.dispatch loop.table line
      history := state.history.add line }

/-- Read and carry out lines of input. -/
def serve (loop : ReadLoop) : List (List UInt8) → State → Result
  | [], state =>
    { state := if state.session.workspace.closing then state else loop.awaitLine state
      unread := []
      fault? := none }
  | line :: others, state =>
    -- a session that is to end reads nothing more
    if state.session.workspace.closing then
      { state, unread := line :: others, fault? := none }
    else match Input.read line with
      | .error fault => { state := loop.awaitLine state, unread := others, fault? := some fault }
      | .ok text => serve loop others (loop.takeLine (loop.awaitLine state) text)

/-- The session after its history file was read, or could not be. -/
def noteLoad (session : Session) (path : String) (notes : List Note)
    (result : Except FileFault Unit) : Session :=
  let noted := { session with journal := session.journal ++ notes }
  match result with
  | .ok () => noted
  | .error fault =>
    noted.note .session .warn ("can't load history from " ++ path ++ ": " ++ fault.message)

/-- Begin a history with the history file. -/
def loadHistory (loop : ReadLoop) (session : Session) : State :=
  match loop.historyPath? with
  | none => { session, history := .empty }
  | some path =>
    match History.empty.load session.files path with
    | (loaded, result) =>
      { session := noteLoad session path loaded.notes result, history := loaded.history }

/-- Write the history to the history file. -/
def saveHistory (loop : ReadLoop) (state : State) : State :=
  match loop.historyPath? with
  | none => state
  | some path =>
    match state.history.save state.session.files path with
    | .ok files => { state with session := { state.session with files } }
    | .error fault =>
      let text := "can't save history to " ++ path ++ ": " ++ fault.message
      { state with session := state.session.note .session .warn text }

/-- Get ready to read lines: note how the width of a line is reckoned. -/
def makeReady (session : Session) : Session :=
  session.note .lineReader .debug "GraphemeClusterMode: WcWidth"

/-- Run the loop on an input. The history is saved unless a line has no text. -/
def run (loop : ReadLoop) (session : Session) (input : List UInt8) : Result :=
  let result := loop.serve (Input.lines input) (loop.loadHistory (makeReady session))
  if result.readable then { result with state := loop.saveHistory result.state } else result

/-- What is told when a line is not UTF-8, from the outermost circumstance to the innermost. -/
def unreadable : List String :=
  ["failed to read line", FileFault.notText.message, FileFault.notText.message]

end ReadLoop

end TextShell
