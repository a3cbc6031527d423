/-!
# Path texts

What can be read off the text of a path without looking at any file: whether it is absolute, the
names along it, the path above it and how a relative path continues a directory.

* `Path.resolve`: an absolute path stands for itself, a relative one continues the directory.
* `Path.ancestors`: the path and the paths above it, without the root and the empty path.
-/

namespace TextShell.Path

/-- The parts of a path text between its slashes, some of them possibly empty. -/
def parts (path : String) : List String :=
  (path.toList.splitOn '/').map String.ofList

/-- Whether a path starts at the root. -/
def isAbsolute (path : String) : Bool := path.toList.head? = some '/'

/-- Whether a path ends in a slash, so that it can only stand for a directory. -/
def endsInSlash (path : String) : Bool := path.toList.getLast? = some '/'

/-- The names along a path. -/
def names (path : String) : List String := (parts path).filter (· ≠ "")

/-- A relative path continued from a directory: one slash is put between them unless the directory
is the empty text or ends in one. -/
def join (directory path : String) : String :=
  if directory = "" ∨ endsInSlash directory then directory ++ path else directory ++ "/" ++ path

/-- The path that a text stands for in a directory. -/
def resolve (directory path : String) : String :=
  if isAbsolute path then path else join directory path

/-- Whether a part of a path, not the first, leads nowhere: the empty part and the dot. -/
def isIdle (part : String) : Bool := part = "" || part = "."

/-- The text of a path from its first part and the parts after it. -/
def ofParts (first : String) (others : List String) : String :=
  String.ofList (List.intercalate ['/'] ((first :: others).map String.toList))

/-- The paths with the given first part and with each end of the given parts, the last part first,
that does not lead nowhere. -/
def ancestorsFrom (first : String) : List String → List String
  | [] => if first = "" then [] else [first]
  | part :: above =>
    if isIdle part then ancestorsFrom first above
    else ofParts first (part :: above).reverse :: ancestorsFrom first above

/-- A path and the paths above it, from the longest to the shortest, each without trailing parts
that lead nowhere. The root and the empty path are left out. -/
def ancestors (path : String) : List String :=
  match parts path with
  | [] => []
  | first :: others => ancestorsFrom first others.reverse

/-- The path above a path: the root or the empty path when no other is left, nothing above these
two. -/
def parent? (path : String) : Option String :=
  match ancestors path with
  | [] => none
  | [_] => some (if isAbsolute path then "/" else "")
  | _ :: above :: _ => some above

example : parent? "//x/./a.txt" = some "//x" ∧ parent? "/a.txt" = some "/" := by
  decide +kernel

example : parent? "./a.txt" = some "." ∧ parent? "a.txt" = some "" ∧ parent? "/" = none := by
  decide +kernel

example : ancestors "a/b/../c" = ["a/b/../c", "a/b/..", "a/b", "a"] := by decide +kernel

end TextShell.Path
