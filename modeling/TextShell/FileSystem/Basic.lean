import Std.Data.ExtTreeMap.Lemmas
import TextShell.FileSystem.Path

/-!
# File systems

A tree of directories, files and symbolic links, kept as the finite map from locations to what is
there. Two file systems are equal exactly when every location holds the same in both.

* `FileSystem.lookup_put`, `FileSystem.lookup_remove`: what a location holds after one change.
* `FileSystem.ext_lookup`: file systems that agree at every location are equal.
* `FileSystem.WellFormed`: every entry lies in a directory.
-/

namespace TextShell

/-- A place in the tree: the names that lead to it from the root, the last one first. The root is
the empty list, and the directory of a location is its tail. -/
abbrev Location := List String

/-- The absolute path of a location. -/
def Location.path (location : Location) : String :=
  if location = [] then "/"
  else String.ofList (location.reverse.flatMap fun name => '/' :: name.toList)

/-- Contents are compared byte by byte. -/
local instance contentDecidableEq : DecidableEq ByteArray := ByteArray.decEq

/-- What a location holds. -/
inductive Entry where
  /-- A directory. -/
  | directory
  /-- A regular file with its content. -/
  | file (content : ByteArray)
  /-- A symbolic link with the path it stands for. -/
  | link (target : String)
  deriving DecidableEq

namespace Entry

/-- Whether this is a regular file. -/
def isFile : Entry → Bool
  | file _ => true
  | _ => false

/-- Whether this is a symbolic link. -/
def isLink : Entry → Bool
  | link _ => true
  | _ => false

end Entry

/-- A file system together with the directory in which relative paths start. -/
structure FileSystem where
  /-- What is at each location below the root. -/
  entries : Std.ExtTreeMap Location Entry
  /-- The location in which relative paths start. -/
  workingDirectory : Location

namespace FileSystem

/-- The file system with nothing below the root. -/
def empty : FileSystem where
  entries := ∅
  workingDirectory := []

/-- What is at a location; the root is always a directory. -/
def lookup (fs : FileSystem) : Location → Option Entry
  | [] => some .directory
  | location => fs.entries[location]?

/-- The file system with an entry put at a location, whatever was there before. -/
def put (fs : FileSystem) (location : Location) (entry : Entry) : FileSystem :=
  { fs with entries := fs.entries.insert location entry }

/-- The file system without the entry at a location. -/
def remove (fs : FileSystem) (location : Location) : FileSystem :=
  { fs with entries := fs.entries.erase location }

/-- Every entry lies in a directory, the root is not listed, and relative paths start in a
directory. -/
structure WellFormed (fs : FileSystem) : Prop where
  /-- The directory of every entry is there. -/
  directory_above {name : String} {location : Location} :
    name :: location ∈ fs.entries → fs.lookup location = some .directory
  /-- The root needs no entry. -/
  root_not_mem : [] ∉ fs.entries
  /-- Relative paths start in a directory. -/
  workingDirectory_isDirectory : fs.lookup fs.workingDirectory = some .directory

@[simp]
theorem lookup_nil (fs : FileSystem) : fs.lookup [] = some .directory := rfl

@[simp]
theorem lookup_cons (fs : FileSystem) (name : String) (location : Location) :
    fs.lookup (name :: location) = fs.entries[name :: location]? := rfl

@[simp]
theorem workingDirectory_put (fs : FileSystem) (location : Location) (entry : Entry) :
    (fs.put location entry).workingDirectory = fs.workingDirectory := rfl

@[simp]
theorem workingDirectory_remove (fs : FileSystem) (location : Location) :
    (fs.remove location).workingDirectory = fs.workingDirectory := rfl

/-- After an entry is put somewhere below the root, that place holds it and every other place what
it held. -/
theorem lookup_put (fs : FileSystem) {place : Location} (entry : Entry) (location : Location)
    (h : place ≠ []) :
    (fs.put place entry).lookup location = if location = place then some entry
      else fs.lookup location := by
  cases location with
  | nil => simp [Ne.symm h]
  | cons name above =>
    simp only [lookup_cons, put, Std.ExtTreeMap.getElem?_insert]
    by_cases heq : name :: above = place
    · simp [heq]
    · simp [heq, Ne.symm heq]

/-- After a place below the root is cleared, it holds nothing and every other place what it held. -/
theorem lookup_remove (fs : FileSystem) {place : Location} (location : Location)
    (h : place ≠ []) :
    (fs.remove place).lookup location = if location = place then none
      else fs.lookup location := by
  cases location with
  | nil => simp [Ne.symm h]
  | cons name above =>
    simp only [lookup_cons, remove, Std.ExtTreeMap.getElem?_erase]
    by_cases heq : name :: above = place
    · simp [heq]
    · simp [heq, Ne.symm heq]

/-- File systems with the same entries that start relative paths in the same place are equal. -/
theorem ext_entries {fs other : FileSystem}
    (h : ∀ location : Location, fs.entries[location]? = other.entries[location]?)
    (hdirectory : fs.workingDirectory = other.workingDirectory) : fs = other := by
  cases fs
  cases other
  congr
  exact Std.ExtTreeMap.ext_getElem? h

/-- File systems without an entry for the root that agree at every location and start relative
paths in the same place are equal. -/
theorem ext_lookup {fs other : FileSystem} (hroot : [] ∉ fs.entries) (hother : [] ∉ other.entries)
    (h : ∀ location, fs.lookup location = other.lookup location)
    (hdirectory : fs.workingDirectory = other.workingDirectory) : fs = other := by
  refine ext_entries (fun location => ?_) hdirectory
  cases location with
  | nil =>
    rw [Std.ExtTreeMap.getElem?_eq_none hroot, Std.ExtTreeMap.getElem?_eq_none hother]
  | cons name above => exact h (name :: above)

/-- What holds an entry is a directory. -/
theorem WellFormed.lookup_directory {fs : FileSystem} {name : String} {directory : Location}
    {entry : Entry} (hfs : fs.WellFormed) (h : fs.lookup (name :: directory) = some entry) :
    fs.lookup directory = some .directory := by
  rw [lookup_cons] at h
  have hmem : name :: directory ∈ fs.entries :=
    Std.ExtTreeMap.mem_iff_isSome_getElem?.mpr (by simp [h])
  exact hfs.directory_above hmem

/-- The empty file system is well formed. -/
theorem wellFormed_empty : empty.WellFormed where
  directory_above h := by simp [empty] at h
  root_not_mem := by simp [empty]
  workingDirectory_isDirectory := rfl

end FileSystem

end TextShell
