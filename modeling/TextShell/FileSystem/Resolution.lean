import TextShell.FileSystem.Basic
import TextShell.FileSystem.Fault

/-!
# Path resolution

A path is followed name by name from the root or the working directory. The dot stays, the double
dot goes up, a link is replaced by the path it stands for, at most `linkLimit` times in all. Every
name but the last must lead to a directory; the last may be missing, which leaves a vacant spot in
a directory.

* `FileSystem.locate`: the spot that a path leads to.
* `FileSystem.isFile`, `FileSystem.isDirectory`, `FileSystem.canonicalize`: what is read off it.
-/

namespace TextShell

/-- How many links may be followed along one path. -/
def linkLimit : Nat := 40

/-- How many bytes a name may have. -/
def nameLimit : Nat := 255

/-- How many bytes a path must stay below. -/
def pathLimit : Nat := 4096

/-- Where a path leads. -/
inductive Spot where
  /-- To something that is there. -/
  | found (location : Location)
  /-- To a name that a directory does not hold. -/
  | vacant (directory : Location) (name : String)
  deriving DecidableEq, Repr

/-- What a path is followed for. -/
inductive Purpose where
  /-- For the entry that it names: a link in the last place is not followed. -/
  | entry
  /-- For what it leads to. -/
  | target
  /-- For a file to write, which is made if it is missing: the path must not end in a slash. -/
  | creation
  /-- For the location that it leads to. The limit on paths holds for this location and for those on
  the way, not for the path that is followed. -/
  | location
  deriving DecidableEq, Repr

namespace FileSystem

/-- Whether what is left of a path behind a name asks for a directory in its place: it ends in a
slash or a dot, or goes up again, with nothing but dots before. -/
def asksForDirectory (slash : Bool) : List String → Bool
  | [] => slash
  | name :: rest => name = ".." || name = "." && (rest.isEmpty || asksForDirectory slash rest)

/-- Follow names from a directory. `slash` tells whether the last name must lead to a directory,
and `follow` goes on after a link: from the start of the link's path, with its names and those
left over. -/
def descend (fs : FileSystem) (purpose : Purpose)
    (follow : Location → List String → Bool → Except FileFault Spot)
    (slash : Bool) (here : Location) : List String → Except FileFault Spot
  | [] => .ok (.found here)
  | name :: rest =>
    -- the two names that need no look at the files; above the root is the root
    if name = "." then fs.descend purpose follow slash here rest
    else if name = ".." then fs.descend purpose follow slash here.tail rest
    else if purpose = .creation ∧ rest = [] ∧ slash then .error .isDirectory
    else if nameLimit < name.utf8ByteSize then .error .nameTooLong
    else if purpose = .location ∧ pathLimit ≤ (Location.path (name :: here)).utf8ByteSize then
      .error .nameTooLong
    else match fs.lookup (name :: here) with
      -- only the last name may be missing
      | none => if rest = [] then .ok (.vacant here name) else .error .noEntry
      | some .directory =>
        -- where a location is asked for, a slash is put behind it to see that it is a directory
        if purpose = .location ∧ asksForDirectory slash rest ∧
            pathLimit ≤ (Location.path (name :: here)).utf8ByteSize + 1 then .error .nameTooLong
        else fs.descend purpose follow slash (name :: here) rest
      | some (.file _) =>
        if rest = [] ∧ !slash then .ok (.found (name :: here)) else .error .notDirectory
      | some (.link target) =>
        if purpose = .entry ∧ rest = [] ∧ !slash then .ok (.found (name :: here))
        -- a slash at the end of a link in the last place asks for a directory, too
        else follow (if Path.isAbsolute target then [] else here) (Path.names target ++ rest)
          (if rest = [] then slash || Path.endsInSlash target else slash)

/-- Follow names from a directory through at most the given number of links. -/
def walk (fs : FileSystem) (purpose : Purpose) :
    Nat → Location → List String → Bool → Except FileFault Spot
  | 0, here, names, slash =>
    fs.descend purpose (fun _ _ _ => .error .tooManyLinks) slash here names
  | links + 1, here, names, slash =>
    fs.descend purpose (fs.walk purpose links) slash here names

/-- The spot that a path leads to. -/
def locate (fs : FileSystem) (purpose : Purpose) (path : String) : Except FileFault Spot :=
  if '\x00' ∈ path.toList then .error .zeroCharacter
  else if path = "" then .error .noEntry
  else if purpose ≠ .location ∧ pathLimit ≤ path.utf8ByteSize then .error .nameTooLong
  else fs.walk purpose linkLimit (if Path.isAbsolute path then [] else fs.workingDirectory)
    (Path.names path) (Path.endsInSlash path)

/-- What a path leads to, through links. -/
def target? (fs : FileSystem) (path : String) : Option Entry :=
  match fs.locate .target path with
  | .ok (.found location) => fs.lookup location
  | _ => none

/-- Whether a path leads to a regular file. -/
def isFile (fs : FileSystem) (path : String) : Bool :=
  (fs.target? path).any Entry.isFile

/-- Whether a path leads to a directory. -/
def isDirectory (fs : FileSystem) (path : String) : Bool :=
  fs.target? path = some .directory

/-- The location of what a path leads to. -/
def canonicalize (fs : FileSystem) (path : String) : Except FileFault Location :=
  match fs.locate .location path with
  | .ok (.found location) => .ok location
  | .ok (.vacant _ _) => .error .noEntry
  | .error fault => .error fault

end FileSystem

end TextShell
