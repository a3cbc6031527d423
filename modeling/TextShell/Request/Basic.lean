import TextShell.Edit

/-!
# Requests

What the four file commands ask for, once their arguments are read, and the forms in which the
arguments are written.
-/

namespace TextShell

/-- The name of a command and the form of its arguments, as shown to the user. -/
structure CommandForm where
  /-- The name of the command. -/
  command : String
  /-- How the command is written. -/
  form : String
  deriving DecidableEq, Repr

namespace CommandForm

/-- The form of a copy command. -/
def copy : CommandForm where
  command := "copy"
  form := "copy \"sourcefile.txt\" \"destinationfile.txt\""

/-- The form of a create command. -/
def create : CommandForm where
  command := "create"
  form := "create -f \"path/to/yourfile.txt\" [\"your text content\"]"

/-- The form of a delete command. -/
def delete : CommandForm where
  command := "delete"
  form := "delete -f \"path/to/yourfile.txt\""

/-- The form of an update command. -/
def update : CommandForm where
  command := "update"
  form := "update -f \"path/to/yourfile.txt\" [-a | -nl <line> | -dl <line>] " ++
    "\"your text content\" (-dl takes no text)"

/-- The failure of arguments that do not have this form. -/
def failure (form : CommandForm) : Failure := .usage form.command form.form

end CommandForm

/-- What a copy command asks for. -/
structure CopyRequest where
  /-- The file to copy. -/
  source : String
  /-- Where the copy goes. -/
  destination : String
  deriving DecidableEq, Repr

/-- What a create command asks for. -/
structure CreateRequest where
  /-- The file to create. -/
  path : String
  /-- Its content, if given. -/
  text : Option String
  deriving DecidableEq, Repr

/-- What a delete command asks for. -/
structure DeleteRequest where
  /-- The file to delete. -/
  path : String
  deriving DecidableEq, Repr

/-- What an update command asks for. -/
structure UpdateRequest where
  /-- The file to change. -/
  path : String
  /-- The change to its lines. -/
  edit : Edit
  deriving DecidableEq, Repr

end TextShell
