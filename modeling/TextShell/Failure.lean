import TextShell.FileSystem.Fault

/-!
# Failures

The ways in which a command can fail, and the line that reports each of them.
-/

namespace TextShell

/-- Why a command failed. -/
inductive Failure where
  /-- The arguments do not have the form that the command asks for. -/
  | usage (command form : String)
  /-- No line can be inserted with this number. -/
  | insertOutOfRange (line : String)
  /-- No line has this number to be deleted. -/
  | deleteOutOfRange (line : String)
  /-- The file to change is not there. -/
  | missingFile (path : String)
  /-- The file to copy is not there. -/
  | missingSource (path : String)
  /-- Something went wrong with a file while the context was going on. -/
  | io (context : String) (fault : FileFault)
  deriving DecidableEq, Repr

namespace Failure

/-- The report of a failure. -/
def message : Failure → String
  | usage command form => "Invalid " ++ command ++ " command format. Use: " ++ form
  | insertOutOfRange line =>
    "Invalid line number for insertion: " ++ line ++ ". Please provide a valid line number."
  | deleteOutOfRange line =>
    "Invalid line number for deletion: " ++ line ++ ". Please provide a valid line number."
  | missingFile path =>
    "File does not exist: " ++ path ++ ". Please check the file path and try again."
  | missingSource path =>
    "Source file does not exist: " ++ path ++ ". Please provide a valid source file."
  | io context fault => context ++ ": " ++ fault.message

end Failure

end TextShell
