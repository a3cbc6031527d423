import TextShell.Text.Quoted

/-!
# File-system faults

The ways in which an operation on files can fail, and their wording.
-/

namespace TextShell

/-- Why an operation on files failed. -/
inductive FileFault where
  /-- Nothing is there. -/
  | noEntry
  /-- Something is there already. -/
  | occupied
  /-- A path leads through something that is no directory. -/
  | notDirectory
  /-- A directory is in the place of a file. -/
  | isDirectory
  /-- A name or a path is too long. -/
  | nameTooLong
  /-- Following links does not come to an end. -/
  | tooManyLinks
  /-- The bytes of a file are not UTF-8. -/
  | notText
  /-- A path holds the character zero. -/
  | zeroCharacter
  /-- A fault known only by its description. -/
  | described (text : String)
  /-- A fault together with the path at which it came up. -/
  | atPath (fault : FileFault) (path : String)
  deriving DecidableEq, Repr

namespace FileFault

/-- The wording of a fault. -/
def message : FileFault → String
  | noEntry => "No such file or directory (os error 2)"
  | occupied => "File exists (os error 17)"
  | notDirectory => "Not a directory (os error 20)"
  | isDirectory => "Is a directory (os error 21)"
  | nameTooLong => "File name too long (os error 36)"
  | tooManyLinks => "Too many levels of symbolic links (os error 40)"
  | notText => "stream did not contain valid UTF-8"
  | zeroCharacter => "file name contained an unexpected NUL byte"
  | described text => text
  | atPath fault path => fault.message ++ " at path " ++ Text.quotePath path

end FileFault

end TextShell
