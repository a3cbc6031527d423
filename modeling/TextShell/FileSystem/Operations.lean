import TextShell.FileSystem.Resolution

/-!
# Operations on files

Reading, writing, copying, removing and replacing files and making directories, by path. An
operation that changes one thing or nothing answers with the new file system or a fault; one that
can change something and still fail answers with both.

* `FileSystem.replaceFile`: the content goes to a temporary file beside the file, which is then
  renamed, so that the old content is there until the new one is complete.
* `FileSystem.makeDirectories`: a directory and the missing ones above it.
-/

namespace TextShell.FileSystem

/-- The bytes of the file that a path leads to. -/
def readFile (fs : FileSystem) (path : String) : Except FileFault ByteArray :=
  match fs.locate .target path with
  | .error fault => .error fault
  | .ok (.vacant _ _) => .error .noEntry
  | .ok (.found location) =>
    match fs.lookup location with
    | some (.file content) => .ok content
    | some .directory => .error .isDirectory
    | _ => .error .noEntry

/-- The text of the file that a path leads to. -/
def readText (fs : FileSystem) (path : String) : Except FileFault String :=
  match fs.readFile path with
  | .error fault => .error fault
  | .ok content =>
    match String.fromUTF8? content with
    | some text => .ok text
    | none => .error .notText

/-- An empty file where a path leads to, in place of the file there or new, and its location. -/
def openEmpty (fs : FileSystem) (path : String) : Except FileFault (FileSystem × Location) :=
  match fs.locate .creation path with
  | .error fault => .error fault
  | .ok (.vacant directory name) =>
    .ok (fs.put (name :: directory) (.file .empty), name :: directory)
  | .ok (.found location) =>
    match fs.lookup location with
    | some (.file _) => .ok (fs.put location (.file .empty), location)
    | _ => .error .isDirectory

/-- Write the file that a path leads to, which is made if it is missing. -/
def writeFile (fs : FileSystem) (path : String) (content : ByteArray) :
    Except FileFault FileSystem :=
  match fs.openEmpty path with
  | .error fault => .error fault
  | .ok (opened, location) => .ok (opened.put location (.file content))

/-- Copy a file. The destination is emptied before the source is read, so a file must not be
copied onto itself. -/
def copyFile (fs : FileSystem) (source destination : String) : Except FileFault FileSystem :=
  match fs.locate .target source with
  | .error fault => .error fault
  | .ok (.vacant _ _) => .error .noEntry
  | .ok (.found origin) =>
    match fs.openEmpty destination with
    | .error fault => .error fault
    | .ok (opened, location) =>
      -- the source is read as it is now, which matters if it is the destination
      match opened.lookup origin with
      | some (.file content) => .ok (opened.put location (.file content))
      | _ => .error .isDirectory

/-- Remove the file or link that a path names. -/
def removeFile (fs : FileSystem) (path : String) : Except FileFault FileSystem :=
  match fs.locate .entry path with
  | .error fault => .error fault
  | .ok (.vacant _ _) => .error .noEntry
  | .ok (.found location) =>
    if fs.lookup location = some .directory then .error .isDirectory
    else .ok (fs.remove location)

/-- Make one directory in a directory. -/
def makeDirectory (fs : FileSystem) (path : String) : Except FileFault FileSystem :=
  match fs.locate .entry path with
  | .error fault => .error fault
  | .ok (.found _) => .error .occupied
  | .ok (.vacant directory name) => .ok (fs.put (name :: directory) .directory)

/-- Make one directory unless the path leads to one. -/
def ensureDirectory (fs : FileSystem) (path : String) : Except FileFault FileSystem :=
  match fs.makeDirectory path with
  | .ok made => .ok made
  | .error fault =>
    if fault = .occupied ∧ fs.isDirectory path then .ok fs else .error fault

/-- Make the first of the given directories, each of which lies in the next, and before it those
that it lacks. -/
def makeAncestors (fs : FileSystem) : List String → FileSystem × Except FileFault Unit
  | [] => (fs, .ok ())
  | path :: above =>
    match fs.ensureDirectory path with
    | .ok made => (made, .ok ())
    | .error fault =>
      -- what is missing is the directory that this one lies in
      if fault = .noEntry then
        match fs.makeAncestors above with
        | (made, .error fault) => (made, .error fault)
        | (made, .ok ()) =>
          match made.ensureDirectory path with
          | .ok done => (done, .ok ())
          | .error fault => (made, .error fault)
      else (fs, .error fault)

/-- Make a directory and the missing ones above it. -/
def makeDirectories (fs : FileSystem) (path : String) : FileSystem × Except FileFault Unit :=
  fs.makeAncestors (Path.ancestors path)

/-- The name of a temporary file: a number of at least six digits behind a fixed beginning. -/
def temporaryName (number : Nat) : String :=
  ".tmp" ++ String.ofList ((Nat.toDigits 10 number).leftpad 6 '0')

/-- How many names are tried for a temporary file. -/
def temporaryAttempts : Nat := Nat.pow 2 31

/-- Make an empty file in a directory under the first free name of a temporary file, from the given
number on and with at most the given number of attempts. A fault names the path that was tried. -/
def makeNumbered (fs : FileSystem) (directory : String) :
    Nat → Nat → Except FileFault (FileSystem × Location)
  | 0, _ => .error (.atPath (.described "too many temporary files exist") directory)
  | attempts + 1, number =>
    match fs.locate .entry (Path.join directory (temporaryName number)) with
    | .error fault => .error (.atPath fault (Path.join directory (temporaryName number)))
    | .ok (.found _) => fs.makeNumbered directory attempts (number + 1)
    | .ok (.vacant above name) => .ok (fs.put (name :: above) (.file .empty), name :: above)

/-- Make an empty temporary file in a directory. The directory is named by its absolute path, which
may be too long where a relative one is not. -/
def makeTemporary (fs : FileSystem) (directory : String) :
    Except FileFault (FileSystem × Location) :=
  fs.makeNumbered (Path.resolve (Location.path fs.workingDirectory) directory) temporaryAttempts 0

/-- Move the file at a location to a path, in place of the file or link that the path names. -/
def rename (fs : FileSystem) (location : Location) (path : String) : Except FileFault FileSystem :=
  match fs.locate .entry path, fs.lookup location with
  | .error fault, _ => .error fault
  | _, none => .error .noEntry
  | .ok (.vacant directory name), some entry =>
    .ok ((fs.remove location).put (name :: directory) entry)
  | .ok (.found place), some entry =>
    if fs.lookup place = some .directory then .error .isDirectory
    else .ok ((fs.remove location).put place entry)

/-- Put a new file in place of the file or link that a path names. The content is written to a
temporary file in the same directory, which is removed again if it cannot be renamed. -/
def replaceFile (fs : FileSystem) (path : String) (content : ByteArray) :
    FileSystem × Except FileFault Unit :=
  match fs.makeTemporary ((Path.parent? path).getD ".") with
  | .error fault => (fs, .error fault)
  | .ok (made, temporary) =>
    let written := made.put temporary (.file content)
    match written.rename temporary path with
    | .error fault => (written.remove temporary, .error fault)
    | .ok renamed => (renamed, .ok ())

end TextShell.FileSystem
