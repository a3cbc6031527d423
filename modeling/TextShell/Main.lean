import TextShell.CommandLine.Program

/-!
# The executable

The program on the files of the machine. The trees below the working directory and the session
directory are read before the run, all of the input is taken in, and what the run has changed is
written back at its end.

* `main`: the program.
-/

namespace TextShell.Machine

/-- Put the directories on the way to a location, and the location itself as a directory. -/
def putDirectory (files : FileSystem) : Location → FileSystem
  | [] => files
  | name :: above => (putDirectory files above).put (name :: above) .directory

/-- Read what lies below a directory of the machine. A link is read as one to the place that it
leads to, and what is neither file, directory nor link is left out. -/
partial def readTree (files : FileSystem) (location : Location) : IO FileSystem := do
  let mut read := files
  for item in ← (IO.FS.DirEntry.mk (Location.path location) ".").path.readDir do
    let place := item.fileName :: location
    match (← item.path.symlinkMetadata).type with
    | .dir => read ← readTree (read.put place .directory) place
    | .file => read := read.put place (.file (← IO.FS.readBinFile item.path))
    | .symlink => read := read.put place (.link (← IO.FS.realPath item.path).toString)
    | .other => continue
  return read

/-- Read the tree below a directory of the machine, if there is one. -/
def readDirectory (files : FileSystem) (path : String) : IO FileSystem := do
  try
    let location := (Path.names (← IO.FS.realPath path).toString).reverse
    readTree (putDirectory files location) location
  catch _ => return files

/-- Make a location of the machine hold an entry. Links are never made. -/
def writeEntry (location : Location) : Entry → IO Unit
  | .directory => IO.FS.createDirAll (Location.path location)
  | .file content => IO.FS.writeBinFile (Location.path location) content
  | .link _ => return

/-- Write back what has changed between two states of the files: first what is gone or was a link,
then directories, then files. -/
def writeChanges (before after : FileSystem) : IO Unit := do
  for (location, entry) in before.entries.toList do
    let now := after.lookup location
    if now.isNone || entry.isLink && now != some entry then
      IO.FS.removeFile (Location.path location)
  let changed := after.entries.toList.filter fun (location, entry) =>
    before.lookup location != some entry
  let (directories, others) := changed.partition fun (_, entry) => entry == .directory
  for (location, entry) in directories ++ others do
    writeEntry location entry

/-- Run the program with the given arguments on the machine. -/
def runProgram (arguments : List String) : IO UInt32 := do
  let workingDirectory := toString (← IO.currentDir)
  let base ← readDirectory .empty workingDirectory
  let reached ← match Settings.read arguments with
    | .settings settings =>
      match settings.directory? with
      | some directory => readDirectory base directory
      | none => pure base
    | _ => pure base
  let files := { reached with workingDirectory := (Path.names workingDirectory).reverse }
  let invocation : Invocation :=
    { arguments
      noteFilter? := ← IO.getEnv "RUST_LOG"
      terminal := (← IO.getEnv "TERM").getD ""
      input := (← (← IO.getStdin).readBinToEnd).data.toList
      files }
  let result := Program.run invocation
  writeChanges files result.files
  (← IO.getStdout).putStr result.output
  (← IO.getStderr).putStr result.errorOutput
  return .ofNat result.status

end TextShell.Machine

/-- The program. -/
def main (arguments : List String) : IO UInt32 := TextShell.Machine.runProgram arguments
