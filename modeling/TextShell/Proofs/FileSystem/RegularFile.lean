import TextShell.Proofs.FileSystem.Effect
import TextShell.Text.Utf8

/-!
# Regular files at the end of a path

A path leads to a regular file through any links. What is read from it, and whether it is text,
depends on that file alone.

* `FileSystem.LeadsToFile`: the place and the content of the file that a path leads to.
* `FileSystem.isFile_eq_false_iff`: there is no file if the path leads to none.
* `FileSystem.LeadsToFile.readText_eq_ok_iff`: the text that is read.
-/

namespace TextShell.FileSystem

variable {fs : FileSystem} {path text : String} {place : Location} {content : ByteArray}

/-- A path leads, through any links, to a regular file at a place and with a content. -/
structure LeadsToFile (fs : FileSystem) (path : String) (place : Location) (content : ByteArray) :
    Prop where
  /-- The path leads to the place. -/
  locate_eq : fs.locate .target path = .ok (.found place)
  /-- The file is there. -/
  lookup_eq : fs.lookup place = some (.file content)

theorem exists_leadsToFile_iff :
    (∃ place, fs.LeadsToFile path place content) ↔ fs.readFile path = .ok content := by
  rw [readFile_eq_ok_iff]
  constructor
  · rintro ⟨place, h⟩
    exact ⟨place, h.locate_eq, h.lookup_eq⟩
  · rintro ⟨place, hlocate, hlookup⟩
    exact ⟨place, hlocate, hlookup⟩

/-- There is a file if the path leads to one. -/
theorem LeadsToFile.isFile (h : fs.LeadsToFile path place content) : fs.isFile path = true :=
  isFile_iff.mpr ⟨content, exists_leadsToFile_iff.mp ⟨place, h⟩⟩

theorem isFile_eq_false_iff :
    fs.isFile path = false ↔ ¬ ∃ place content, fs.LeadsToFile path place content := by
  rw [Bool.eq_false_iff, Ne, isFile_iff]
  refine not_congr ⟨?_, ?_⟩
  · rintro ⟨content, hread⟩
    obtain ⟨place, h⟩ := exists_leadsToFile_iff.mpr hread
    exact ⟨place, content, h⟩
  · rintro ⟨place, content, h⟩
    exact ⟨content, exists_leadsToFile_iff.mp ⟨place, h⟩⟩

/-- A text is read from the files that hold its bytes. -/
theorem LeadsToFile.readText_eq_ok_iff (h : fs.LeadsToFile path place content) :
    fs.readText path = .ok text ↔ text.toUTF8 = content := by
  rw [readText, exists_leadsToFile_iff.mp ⟨place, h⟩]
  dsimp only
  constructor
  · intro hread
    split at hread
    next found hfound =>
      obtain rfl := Except.ok.inj hread
      exact Text.toUTF8_of_fromUTF8? hfound
    next => cases hread
  · rintro rfl
    rw [Text.fromUTF8?_toUTF8]

end TextShell.FileSystem
