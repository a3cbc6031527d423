import TextShell.Proofs.FileSystem.PathsAlike
import TextShell.Proofs.Request.UpdateForm
import TextShell.Proofs.Request.WrittenForm

/-!
# The paths of commands

The texts that stand for paths in the arguments of commands, and what they stand for in a directory.
Each of them has a file name with the ending `.txt` and a path above it, wherever it is resolved, so
that what is made beside the file, or above it, is made in the directory in which the file is.

* `IsCommandPath`: a text stands for a path in the arguments of a command.
* `isCommandPath_iff`: which texts these are.
* `resolve_of_isCommandPath`: what such a text is resolved to.
-/

namespace TextShell

/-- A text stands for a path in the arguments of a copy, a creation, a deletion or an update. -/
inductive IsCommandPath (path : String) : Prop where
  /-- The source of a copy. -/
  | source {arguments : String} {destination : List Char} :
      Reading.copy? arguments.toList = some (path.toList, destination) → IsCommandPath path
  /-- The destination of a copy. -/
  | destination {arguments : String} {source : List Char} :
      Reading.copy? arguments.toList = some (source, path.toList) → IsCommandPath path
  /-- What is created. -/
  | created {arguments : String} {text : Option (List Char)} :
      Reading.create? arguments.toList = some (path.toList, text) → IsCommandPath path
  /-- What is deleted. -/
  | deleted {arguments : String} :
      Reading.delete? arguments.toList = some path.toList → IsCommandPath path
  /-- What is updated, also with a number that does not fit. -/
  | updated {arguments : String} {change : Reading.WrittenEdit} :
      Reading.update? arguments.toList = some (path.toList, change) → IsCommandPath path

/-- Commands accept as paths what has the ending `.txt` behind at least one character, and no
quote. -/
theorem isCommandPath_iff {path : String} : IsCommandPath path ↔ Reading.IsPath path.toList := by
  constructor
  · intro h
    cases h with
    | source hread => exact (Reading.copy?_eq_some_iff.mp hread).1.1
    | destination hread => exact (Reading.copy?_eq_some_iff.mp hread).1.2
    | @created arguments text hread =>
      cases text with
      | none => exact (Reading.create?_eq_some_none_iff.mp hread).1
      | some text => exact (Reading.create?_eq_some_some_iff.mp hread).1.1
    | deleted hread => exact (Reading.delete?_eq_some_iff.mp hread).1
    | updated hread =>
      obtain ⟨_, hform, -⟩ := Reading.update?_eq_some_iff.mp hread
      exact hform.path
  · intro h
    -- such a text can be deleted, for one
    have hread : Reading.delete? ("-f \"" ++ path ++ "\"").toList = some path.toList :=
      Reading.delete?_eq_some_iff.mpr ⟨h, [], rfl, by simp⟩
    exact .deleted hread

/-- What is accepted as a path ends in a name with the ending `.txt`, which stands behind its last
slash. -/
theorem IsCommandPath.exists_endsIn {path : String} (h : IsCommandPath path) :
    ∃ above, Path.EndsIn path above (Path.afterLastSlash path) ∧
      Path.IsTextName (Path.afterLastSlash path) := by
  obtain ⟨stem, -, htext⟩ := (isCommandPath_iff.mp h).exists_stem
  have hname : Path.IsTextName path := ⟨stem, htext.symm⟩
  obtain ⟨above, name, hends, hlast⟩ := Path.endsIn_of_extension hname
  rw [hends.afterLastSlash_eq]
  exact ⟨above, hends, hlast⟩

/-- What a path of a command stands for in a directory. An absolute path stands for itself, and any
other one continues the directory, behind one slash unless the directory is the empty text or ends
in a slash. In both cases the file name is what the path has behind its last slash; it has the
ending `.txt` and is not one of the names that stand for a place. There is a path above, and the
file name in that path leads where the path leads. -/
theorem resolve_of_isCommandPath (directory : String) {path : String} (h : IsCommandPath path) :
    (Path.isAbsolute path = true → Path.resolve directory path = path) ∧
      (Path.isAbsolute path = false → Path.resolve directory path =
        directory ++ (if directory = "" ∨ Path.endsInSlash directory then "" else "/") ++ path) ∧
      Path.fileName? (Path.resolve directory path) = some (Path.afterLastSlash path) ∧
      (Path.IsTextName (Path.afterLastSlash path) ∧ Path.afterLastSlash path ≠ "." ∧
        Path.afterLastSlash path ≠ "..") ∧
      ∃ parent, Path.parent? (Path.resolve directory path) = some parent ∧
        FileSystem.LeadsAs (Path.resolve directory path)
          (Path.join parent (Path.afterLastSlash path)) := by
  obtain ⟨above, hends, hname⟩ := h.exists_endsIn
  obtain ⟨before, hresolve⟩ := hends.resolve directory
  refine ⟨fun habsolute => if_pos habsolute, fun hrelative => ?_, hresolve.fileName?_eq,
    ⟨hname, hends.ne_dot, hends.ne_up⟩, FileSystem.exists_leadsAs_join_parent? hresolve⟩
  rw [Path.resolve, if_neg (by simp [hrelative]), Path.join]
  split
  · rw [String.append_empty]
  · rfl

/-- A detour and a name that begins with dots: the idle parts before the name are left out of the
path above, and those further up are kept. -/
theorem resolve_of_isCommandPath_detour :
    IsCommandPath "x/..//./..txt" ∧
      Path.resolve "./work/." "x/..//./..txt" = "./work/./x/..//./..txt" ∧
      Path.fileName? "./work/./x/..//./..txt" = some "..txt" ∧
      FileSystem.LeadsAs "./work/./x/..//./..txt" "./work/./x/../..txt" := by
  have hpath : IsCommandPath "x/..//./..txt" :=
    isCommandPath_iff.mpr ⟨⟨"x/..//./.".toList, by decide, by decide⟩, by decide⟩
  obtain ⟨-, hrelative, hname, -, parent, hparent, hleads⟩ :=
    resolve_of_isCommandPath "./work/." hpath
  have hlast : Path.afterLastSlash "x/..//./..txt" = "..txt" := by decide +kernel
  have hresolve : Path.resolve "./work/." "x/..//./..txt" = "./work/./x/..//./..txt" :=
    (hrelative (by decide)).trans (by decide +kernel)
  have habove : Path.parent? "./work/./x/..//./..txt" = some "./work/./x/.." := by decide +kernel
  have hjoin : Path.join "./work/./x/.." "..txt" = "./work/./x/../..txt" := by decide +kernel
  rw [hresolve] at hname hparent hleads
  obtain rfl := Option.some.inj (hparent.symm.trans habove)
  rw [hlast] at hname hleads
  rw [hjoin] at hleads
  exact ⟨hpath, hresolve, hname, hleads⟩

end TextShell
