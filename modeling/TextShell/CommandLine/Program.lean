import TextShell.CommandLine.NoteFilter
import TextShell.CommandLine.Settings
import TextShell.Text.ControlSequence

/-!
# The program

A run of the program as a function: from its arguments, its input and the files to the status that
it ends with, what it has written and the files afterwards.

* `Program.run`: a run of the program.
-/

namespace TextShell

/-- What a run of the program starts from. -/
structure Invocation where
  /-- The arguments. -/
  arguments : List String
  /-- The filter of notes in the environment, if it is set; it wins over the arguments. -/
  noteFilter? : Option String
  /-- The kind of terminal that the program is started from. -/
  terminal : String
  /-- The bytes of the standard input. -/
  input : List UInt8
  /-- The files. -/
  files : FileSystem

/-- What a run of the program leaves behind. -/
structure RunResult where
  /-- The status that the program ends with; zero tells success and `Program.crashStatus` that it was
  broken off. -/
  status : Nat
  /-- What was written to the standard output. -/
  output : String
  /-- What was written to the standard error output. When the program is broken off, the report of
  this is not its own and left out. -/
  errorOutput : String
  /-- The files afterwards. -/
  files : FileSystem

namespace Program

/-- The name of the program. -/
def name : String := "file_commands"

/-- A text with blanks up to a width of five. -/
def padded (text : String) : String :=
  text ++ String.ofList (List.replicate (5 - text.length) ' ')

/-- A note as it is written: further lines are indented. -/
def writeNote (note : Note) : String :=
  "[" ++ padded note.level.name ++ " " ++ note.origin.name ++ "] " ++
    String.ofList (note.text.toList.flatMap fun c =>
      if c = '\n' then '\n' :: List.replicate 4 ' ' else [c]) ++ "\n"

/-- The notes as they are shown, each one without what a terminal would obey. -/
def showNotes (notes : List Note) : String :=
  String.join (notes.map fun note => Text.withoutControls (writeNote note))

/-- An error that ends the program, with what caused it. -/
def showError : List String → String
  | [] => "Error: \n"
  | [message] => "Error: " ++ message ++ "\n"
  | [message, cause] => "Error: " ++ message ++ "\n\nCaused by:\n    " ++ cause ++ "\n"
  | message :: causes =>
    "Error: " ++ message ++ "\n\nCaused by:\n" ++
      Text.joinLines (causes.mapIdx fun index cause => "    " ++ index.repr ++ ": " ++ cause)

/-- The directory of a run: the one given, or the working directory. -/
def directory (settings : Settings) (files : FileSystem) : String :=
  settings.directory?.getD (Location.path files.workingDirectory)

/-- The read loop of a run. -/
def loop (settings : Settings) (terminal : String) : ReadLoop where
  table := .standard
  prompt := settings.prompt
  historyPath? := settings.history?
  terminal

/-- The read loop of a run, from the note on its directory to its end. -/
def serve (invocation : Invocation) (settings : Settings) : ReadLoop.Result :=
  let directory := directory settings invocation.files
  (loop settings invocation.terminal).run
    ((Session.start invocation.files directory).note .program .info
      ("working directory: " ++ directory))
    invocation.input

/-- The status of a program that is broken off. -/
def crashStatus : Nat := 101

/-- The status of a run whose read loop has ended, with a fault or without. A line that is not UTF-8
is an error, and nothing is there to deal with a backspace that would leave a part of a character. -/
def loopStatus : Option LineFault → Nat
  | none => 0
  | some .notText => 1
  | some .cutCharacter => crashStatus

/-- What is written when the read loop has ended. -/
def loopReport : Option LineFault → String
  | some .notText => showError ReadLoop.unreadable
  | none | some .cutCharacter => ""

/-- A run with settings. -/
def runWith (invocation : Invocation) (settings : Settings) : RunResult :=
  match NoteFilter.read (invocation.noteFilter?.getD settings.logLevel) with
  | (filter, complaints) =>
    let directory := directory settings invocation.files
    if invocation.files.isDirectory directory then
      let result := serve invocation settings
      let session := result.state.session
      { status := loopStatus result.fault?
        output := session.output.written
        errorOutput := Text.joinLines complaints ++
          showNotes (session.journal.toList.filter filter.admits) ++
          loopReport result.fault?
        files := session.files }
    else
      { status := 1
        output := ""
        errorOutput := Text.joinLines complaints ++
          showError [directory ++ " is not a directory"]
        files := invocation.files }

/-- A run of the program. -/
def run (invocation : Invocation) : RunResult :=
  match Settings.read invocation.arguments with
  | .settings settings => runWith invocation settings
  | .help =>
    { status := 0
      output := Settings.help ++ "\n"
      errorOutput := ""
      files := invocation.files }
  | .bad fault =>
    { status := 1
      output := ""
      errorOutput := fault.message ++ "\nRun " ++ name ++ " --help for more information.\n"
      files := invocation.files }

end Program

end TextShell
