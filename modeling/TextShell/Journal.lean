/-!
# The journal

What a session notes about its own running, apart from its output: each entry has a level, the part
of the program that it comes from and a text.
-/

namespace TextShell

/-- How important an entry is, the most important level first. -/
inductive Level where
  /-- A command failed. -/
  | error
  /-- Something is wrong that the session can live with. -/
  | warn
  /-- What the session does. -/
  | info
  /-- Details of how it does it. -/
  | debug
  /-- Every step. -/
  | trace
  deriving DecidableEq, Repr

namespace Level

/-- The name of a level. -/
def name : Level → String
  | error => "ERROR"
  | warn => "WARN"
  | info => "INFO"
  | debug => "DEBUG"
  | trace => "TRACE"

/-- The rank of a level; a more important one has a smaller rank. -/
def rank : Level → Nat
  | error => 1
  | warn => 2
  | info => 3
  | debug => 4
  | trace => 5

end Level

/-- The part of the program that an entry comes from. -/
inductive Origin where
  /-- The start of the program. -/
  | program
  /-- The commands. -/
  | commands
  /-- Edits of lines. -/
  | lines
  /-- The session and its read loop. -/
  | session
  /-- The reader of input lines and its history. -/
  | lineReader
  deriving DecidableEq, Repr

namespace Origin

/-- The name under which the entries of a part are shown and selected. -/
def name : Origin → String
  | program => "file_commands"
  | commands => "file_commands::handler"
  | lines => "file_commands::lines"
  | session => "file_commands::interpreter"
  | lineReader => "rustyline"

end Origin

/-- One entry of the journal. -/
structure Note where
  /-- The part of the program that it comes from. -/
  origin : Origin
  /-- How important it is. -/
  level : Level
  /-- What it says. -/
  text : String
  deriving DecidableEq, Repr

end TextShell
