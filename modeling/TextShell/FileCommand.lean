import TextShell.FileSystem.Operations
import TextShell.Journal
import TextShell.Request.Reading
import TextShell.Text.LineBreak

/-!
# File commands

What the four file commands do to the files. Each reads its arguments, looks at the files and
changes them, and answers with the files afterwards, whether it failed, and its notes.

* `FileCommand.copy`, `FileCommand.create`, `FileCommand.delete`, `FileCommand.update`.
-/

namespace TextShell

/-- What a file command brings about. -/
structure Outcome where
  /-- The files afterwards. -/
  files : FileSystem
  /-- Whether the command did what it was asked for, or why not. -/
  result : Except Failure Unit
  /-- What it noted, in order. -/
  notes : List Note

namespace Outcome

/-- The outcome with a note in front of the others. -/
def noted (note : Note) (outcome : Outcome) : Outcome :=
  { outcome with notes := note :: outcome.notes }

/-- The outcome of a command that did what it was asked for. -/
def done (files : FileSystem) (note : Note) : Outcome where
  files
  result := .ok ()
  notes := [note]

/-- The outcome of a command that failed. -/
def failed (files : FileSystem) (failure : Failure) : Outcome where
  files
  result := .error failure
  notes := []

@[simp]
theorem done_files (files : FileSystem) (note : Note) : (done files note).files = files := rfl

@[simp]
theorem done_result (files : FileSystem) (note : Note) : (done files note).result = .ok () := rfl

@[simp]
theorem failed_files (files : FileSystem) (failure : Failure) :
    (failed files failure).files = files := rfl

@[simp]
theorem failed_result (files : FileSystem) (failure : Failure) :
    (failed files failure).result = .error failure := rfl

end Outcome

/-- A note of a command on what it does. -/
def commandNote (text : String) : Note where
  origin := .commands
  level := .info
  text

/-- Whether two paths lead to the same place. -/
def FileSystem.isSamePlace (fs : FileSystem) (path other : String) : Bool :=
  match fs.canonicalize path, fs.canonicalize other with
  | .ok location, .ok place => location = place
  | _, _ => false

/-- Copy the source to the destination, unless they are the same file already. -/
def CopyRequest.carryOut (request : CopyRequest) (directory : String) (fs : FileSystem) :
    Outcome :=
  let source := Path.resolve directory request.source
  let destination := Path.resolve directory request.destination
  if !fs.isFile source then .failed fs (.missingSource source)
  else if fs.isSamePlace source destination then
    .done fs (commandNote (source ++ " is copied onto itself, nothing to do"))
  else match fs.copyFile source destination with
    | .error fault => .failed fs (.io ("failed to copy " ++ source ++ " to " ++ destination) fault)
    | .ok copied => .done copied (commandNote ("copied " ++ source ++ " to " ++ destination))

/-- Make the directories above the file, then the file with its text. -/
def CreateRequest.carryOut (request : CreateRequest) (directory : String) (fs : FileSystem) :
    Outcome :=
  let path := Path.resolve directory request.path
  let above := (Path.parent? path).getD ""
  match fs.makeDirectories above with
  | (made, .error fault) => .failed made (.io ("failed to create directory " ++ above) fault)
  | (made, .ok ()) =>
    match made.writeFile path (request.text.getD "").toUTF8 with
    | .error fault => .failed made (.io ("failed to create " ++ path) fault)
    | .ok written => .done written (commandNote ("created " ++ path))

/-- Remove the file. That it is not there is no failure. -/
def DeleteRequest.carryOut (request : DeleteRequest) (directory : String) (fs : FileSystem) :
    Outcome :=
  let path := Path.resolve directory request.path
  match fs.removeFile path with
  | .ok removed => .done removed (commandNote ("deleted " ++ path))
  | .error fault =>
    if fault = .noEntry then
      .done fs (commandNote (path ++ " does not exist, nothing to delete"))
    else .failed fs (.io ("failed to delete " ++ path) fault)

/-- The note of an edit that adds empty lines. -/
def Edit.notes (edit : Edit) (lines : List String) : List Note :=
  match edit.padding? lines with
  | none => []
  | some (count, line) =>
    [{ origin := .lines
       level := .debug
       text := "padding " ++ count.repr ++ " blank line(s) before line " ++ line.toNat.repr }]

/-- Read the lines of the file, edit them and replace the file. -/
def UpdateRequest.carryOut (request : UpdateRequest) (directory : String) (fs : FileSystem) :
    Outcome :=
  let path := Path.resolve directory request.path
  if !fs.isFile path then .failed fs (.missingFile path)
  else match fs.readText path with
    | .error fault => .failed fs (.io ("failed to read " ++ path) fault)
    | .ok text =>
      let lines := Text.breakLines text
      match request.edit.apply lines with
      | .error failure => .failed fs failure
      | .ok edited =>
        match fs.replaceFile path (Text.joinLines edited).toUTF8 with
        | (files, .error fault) =>
          { files
            result := .error (.io ("failed to write " ++ path) fault)
            notes := request.edit.notes lines }
        | (files, .ok ()) =>
          { files
            result := .ok ()
            notes := request.edit.notes lines ++
              [commandNote ("updated " ++ path ++ " (" ++ edited.length.repr ++ " line(s))")] }

namespace FileCommand

/-- Note the arguments of a command, read them and carry out what they ask for. -/
def run {Request : Type} (form : CommandForm) (arguments : String)
    (read : String → Except Failure Request) (carryOut : Request → Outcome) (fs : FileSystem) :
    Outcome :=
  Outcome.noted (commandNote (form.command ++ " arguments: " ++ arguments))
    (match read arguments with
      | .error failure => .failed fs failure
      | .ok request => carryOut request)

section Run

variable {Request : Type} {form : CommandForm} {arguments : String}
  {read : String → Except Failure Request} {carryOut : Request → Outcome} {fs : FileSystem}

/-- A command whose arguments cannot be read fails and leaves the files alone. -/
theorem run_of_error {failure : Failure} (h : read arguments = .error failure) :
    (run form arguments read carryOut fs).result = .error failure ∧
      (run form arguments read carryOut fs).files = fs := by
  unfold run Outcome.noted
  rw [h]
  exact ⟨rfl, rfl⟩

/-- A command whose arguments can be read does what they ask for. -/
theorem run_of_ok {request : Request} (h : read arguments = .ok request) :
    (run form arguments read carryOut fs).result = (carryOut request).result ∧
      (run form arguments read carryOut fs).files = (carryOut request).files := by
  unfold run Outcome.noted
  rw [h]
  exact ⟨rfl, rfl⟩

end Run

/-- The copy command. -/
def copy (directory arguments : String) (fs : FileSystem) : Outcome :=
  run .copy arguments CopyRequest.read (·.carryOut directory fs) fs

/-- The create command. -/
def create (directory arguments : String) (fs : FileSystem) : Outcome :=
  run .create arguments CreateRequest.read (·.carryOut directory fs) fs

/-- The delete command. -/
def delete (directory arguments : String) (fs : FileSystem) : Outcome :=
  run .delete arguments DeleteRequest.read (·.carryOut directory fs) fs

/-- The update command. -/
def update (directory arguments : String) (fs : FileSystem) : Outcome :=
  run .update arguments UpdateRequest.read (·.carryOut directory fs) fs

end FileCommand

end TextShell
