import TextShell.Proofs.FileSystem.SamePlace
import TextShell.Proofs.Path.Names
import TextShell.Proofs.Request.CarryOut
import Mathlib.Control.Monad.Basic

/-!
# Outcomes of copies

A copy finds out first whether there is a file, then whether the destination is that same file, and
only then writes. Where the absolute path of everything in the tree is short enough, no copy loses
anything: the source leads to what it led to, the destination leads to the same bytes, and nothing
else changes. A file whose own path is too long to be asked for is not recognised under a second
path, nor under the same, and copying it onto itself empties it.

* `FileCommand.copy_outcome`: what comes of a copy in a tree with short paths.
* `FileCommand.copy_of_long`: what comes of copying a file with a long path onto itself.
-/

namespace TextShell

namespace CopyRequest

variable {fs : FileSystem} {directory source destination : String} {request : CopyRequest}
  {place origin : Location} {content old : ByteArray}

/-- A file is said to be missing if and only if the source does not lead to one. -/
theorem missing_iff (hsource : Path.resolve directory request.source = source) :
    (request.carryOut directory fs).result = .error (.missingSource source) ↔
      fs.isFile source = false := by
  subst hsource
  have hcourse := request.course directory fs
  generalize request.carryOut directory fs = outcome at hcourse
  cases hcourse with
  | missing hmissing => simpa using hmissing
  | same hfile | fault hfile | copied hfile => simp [hfile]

/-- A file that is its own copy already is left alone. -/
theorem carryOut_of_same (hsource : Path.resolve directory request.source = source)
    (hdestination : Path.resolve directory request.destination = destination)
    (hfile : fs.isFile source = true) (hsame : fs.isSamePlace source destination = true) :
    (request.carryOut directory fs).result = .ok () ∧
      (request.carryOut directory fs).files = fs := by
  subst hsource hdestination
  simp [carryOut, hfile, hsame]

/-- A copy to another place leads to the same bytes as its source, which is what it was, and nothing
but the copy has changed. -/
theorem exists_place_of_other (hshort : fs.HasShortPaths)
    (hsource : Path.resolve directory request.source = source)
    (hdestination : Path.resolve directory request.destination = destination)
    (hok : (request.carryOut directory fs).result = .ok ())
    (hother : fs.isSamePlace source destination = false) :
    ∃ origin place content, fs.LeadsToFile source origin content ∧
      (request.carryOut directory fs).files.LeadsToFile source origin content ∧
      (request.carryOut directory fs).files.LeadsToFile destination place content ∧
      (∀ location, location ≠ place →
        (request.carryOut directory fs).files.lookup location = fs.lookup location) ∧
      (request.carryOut directory fs).files.workingDirectory = fs.workingDirectory := by
  subst hsource hdestination
  have hcourse := request.course directory fs
  generalize request.carryOut directory fs = outcome at hok hcourse
  cases hcourse with
  | missing | fault => cases hok
  | same _ hsame => simp [hsame] at hother
  | copied hfile _ hcopy =>
    obtain ⟨content, hread⟩ := FileSystem.isFile_iff.mp hfile
    obtain ⟨origin, hleads⟩ := FileSystem.exists_leadsToFile_iff.mpr hread
    obtain ⟨place, hafter⟩ := FileSystem.leadsToFile_of_copyFile hshort hleads hother hcopy
    exact ⟨origin, place, content, hleads, hafter⟩

/-- A copy that does not succeed, or has nothing to do, has changed nothing. -/
theorem files_eq_or_other (directory : String) (fs : FileSystem) (request : CopyRequest) :
    (request.carryOut directory fs).files = fs ∨
      (request.carryOut directory fs).result = .ok () ∧
        fs.isSamePlace (Path.resolve directory request.source)
          (Path.resolve directory request.destination) = false := by
  have hcourse := request.course directory fs
  generalize request.carryOut directory fs = outcome at hcourse
  cases hcourse with
  | missing | same | fault => exact .inl rfl
  | copied _ hother => exact .inr ⟨rfl, hother⟩

/-- Whatever comes of a copy, its source leads to the same bytes as before. -/
theorem readFile_source (hshort : fs.HasShortPaths)
    (hsource : Path.resolve directory request.source = source) :
    (request.carryOut directory fs).files.readFile source = .ok content ↔
      fs.readFile source = .ok content := by
  subst hsource
  obtain hsame | ⟨hok, hother⟩ := files_eq_or_other directory fs request
  · rw [hsame]
  · obtain ⟨origin, _, found, hbefore, hafter, -⟩ :=
      exists_place_of_other hshort rfl rfl hok hother
    rw [FileSystem.exists_leadsToFile_iff.mp ⟨origin, hbefore⟩,
      FileSystem.exists_leadsToFile_iff.mp ⟨origin, hafter⟩]

end CopyRequest

namespace FileCommand

variable {fs : FileSystem} {directory arguments source destination : String} {request : CopyRequest}
  {place : Location} {content : ByteArray}

/-- The command does what its arguments ask for. -/
theorem copy_eq (directory : String) (fs : FileSystem)
    (h : CopyRequest.read arguments = .ok request) :
    (copy directory arguments fs).result = (request.carryOut directory fs).result ∧
      (copy directory arguments fs).files = (request.carryOut directory fs).files :=
  run_of_ok h

/-- The outcome of a copy in a tree where the absolute path of everything is short enough. Whatever
the outcome is, the source leads to the bytes that it led to, or to no file as before. The source is
missing if and only if it leads to no file. Where both paths lead to one file, or have one location,
the copy succeeds and nothing changes. In every other case where it succeeds, the destination leads
to a file with the bytes of the source, and all else is unchanged. -/
theorem copy_outcome (hshort : fs.HasShortPaths) (hread : CopyRequest.read arguments = .ok request)
    (hsource : Path.resolve directory request.source = source)
    (hdestination : Path.resolve directory request.destination = destination) :
    (∀ content, (copy directory arguments fs).files.readFile source = .ok content ↔
      fs.readFile source = .ok content) ∧
    ((copy directory arguments fs).result = .error (.missingSource source) ↔
      ¬ ∃ place content, fs.LeadsToFile source place content) ∧
    (∀ place content old, fs.LeadsToFile source place content →
      fs.LeadsToFile destination place old →
      (copy directory arguments fs).result = .ok () ∧ (copy directory arguments fs).files = fs) ∧
    (∀ location, fs.isFile source = true → fs.canonicalize source = .ok location →
      fs.canonicalize destination = .ok location →
      (copy directory arguments fs).result = .ok () ∧ (copy directory arguments fs).files = fs) ∧
    ((copy directory arguments fs).result = .ok () →
      (¬ ∃ location, fs.canonicalize source = .ok location ∧
        fs.canonicalize destination = .ok location) →
      ∃ origin place content, fs.LeadsToFile source origin content ∧
        (copy directory arguments fs).files.LeadsToFile destination place content ∧
        (∀ location, location ≠ place →
          (copy directory arguments fs).files.lookup location = fs.lookup location) ∧
        (copy directory arguments fs).files.workingDirectory = fs.workingDirectory) := by
  obtain ⟨hresult, hfiles⟩ := copy_eq directory fs hread
  rw [hresult, hfiles]
  refine ⟨fun _ => CopyRequest.readFile_source hshort hsource, ?_, ?_, ?_, ?_⟩
  · rw [CopyRequest.missing_iff hsource, FileSystem.isFile_eq_false_iff]
  · intro place content old hleads hother
    exact CopyRequest.carryOut_of_same hsource hdestination hleads.isFile
      (FileSystem.isSamePlace_of_leadsToFile hshort hleads hother)
  · intro location hfile hlocation hother
    exact CopyRequest.carryOut_of_same hsource hdestination hfile
      (FileSystem.isSamePlace_iff.mpr ⟨location, hlocation, hother⟩)
  · intro hok hother
    rw [← FileSystem.isSamePlace_iff, Bool.not_eq_true] at hother
    obtain ⟨origin, place, content, hleads, -, hafter⟩ :=
      CopyRequest.exists_place_of_other hshort hsource hdestination hok hother
    exact ⟨origin, place, content, hleads, hafter⟩

/-- The destination is a link to a link that leads to nothing: the file is made where the last one
points to. -/
theorem copy_outcome_dangling :
    let fs := ((FileSystem.empty.put ["a.txt"] (.file "x".toUTF8)).put ["b.txt"]
      (.link "./c.txt")).put ["c.txt"] (.link "d.txt")
    let arguments := "\"a.txt\" \"b.txt\""
    fs.HasShortPaths ∧ (copy "/" arguments fs).result = .ok () ∧
      (copy "/" arguments fs).files.readFile "/a.txt" = .ok "x".toUTF8 ∧
      (copy "/" arguments fs).files.readFile "/b.txt" = .ok "x".toUTF8 := by
  intro fs arguments
  have hshort : fs.HasShortPaths :=
    ((FileSystem.hasShortPaths_empty.put (by simp) (by decide +kernel) _).put (by simp)
      (by decide +kernel) _).put (by simp) (by decide +kernel) _
  have hread : CopyRequest.read arguments = .ok ⟨"a.txt", "b.txt"⟩ := by decide +kernel
  have hcontent : fs.readFile "/a.txt" = .ok "x".toUTF8 := by decide +kernel
  have hok : (copy "/" arguments fs).result = .ok () := by decide +kernel
  have hmissing : fs.canonicalize "/b.txt" = .error .noEntry := by decide +kernel
  have hsource : Path.resolve "/" "a.txt" = "/a.txt" := by decide +kernel
  have hdestination : Path.resolve "/" "b.txt" = "/b.txt" := by decide +kernel
  obtain ⟨hkept, -, -, -, hother⟩ := copy_outcome hshort hread hsource hdestination
  obtain ⟨origin, place, content, hleads, hcopied, -⟩ := hother hok (by simp [hmissing])
  -- the bytes that the copy leads to are those of the source
  have hbytes : "x".toUTF8 = content :=
    Except.ok.inj (hcontent.symm.trans (FileSystem.exists_leadsToFile_iff.mp ⟨origin, hleads⟩))
  refine ⟨hshort, hok, (hkept _).mpr hcontent, ?_⟩
  rw [hbytes]
  exact FileSystem.exists_leadsToFile_iff.mp ⟨place, hcopied⟩

/-- A file with a path that is too long is emptied when it is copied onto itself, and the copy
succeeds. -/
theorem copy_of_long (hfs : fs.WellFormed) (hread : CopyRequest.read arguments = .ok request)
    (hsource : fs.LeadsToFile (Path.resolve directory request.source) place content)
    (hplace : fs.openPlace? (Path.resolve directory request.destination) = some place)
    (hlong : pathLimit ≤ (Location.path place).utf8ByteSize) :
    (copy directory arguments fs).result = .ok () ∧
      (copy directory arguments fs).files = fs.put place (.file .empty) := by
  obtain ⟨hresult, hfiles⟩ := copy_eq directory fs hread
  have hother := FileSystem.isSamePlace_of_long hfs hsource hlong
    (Path.resolve directory request.destination)
  have hcopy := FileSystem.copyFile_self hsource hplace
  rw [hresult, hfiles]
  simp [CopyRequest.carryOut, hsource.isFile, hother, hcopy]

end FileCommand

/-! ### A file with a long path -/

namespace FileSystem

/-- A name that is nearly as long as a name can be. -/
def longName : String := .ofList (List.replicate 254 'd')

/-- Directories with long names, each in the one before. -/
def nested : Nat → FileSystem
  | 0 => .empty
  | depth + 1 => (nested depth).put (List.replicate (depth + 1) longName) .directory

/-- A file in the last of these directories, where relative paths start. -/
def nestedFile (depth : Nat) (name : String) (content : ByteArray) : FileSystem :=
  { (nested depth).put (name :: List.replicate depth longName) (.file content) with
    workingDirectory := List.replicate depth longName }

/-- Each directory lies in one, and the last is empty. -/
theorem wellFormed_nested (depth : Nat) :
    (nested depth).WellFormed ∧
      (nested depth).lookup (List.replicate depth longName) = some .directory ∧
      ∀ name above, depth ≤ List.length above → (nested depth).lookup (name :: above) = none := by
  induction depth with
  | zero => exact ⟨wellFormed_empty, rfl, fun _ _ _ => by simp [nested, empty]⟩
  | succ depth ih =>
    obtain ⟨hfs, hlast, hempty⟩ := ih
    have hnone := hempty longName (List.replicate depth longName) (by simp)
    refine ⟨hfs.put hlast (by simp [hnone]) _, lookup_put_self _ (by simp), ?_⟩
    intro name above hlength
    have hne : name :: above ≠ List.replicate (depth + 1) longName := by
      intro heq
      have hlengths := congrArg List.length heq
      rw [List.length_cons, List.length_replicate] at hlengths
      omega
    rw [nested, lookup_put_of_ne _ (by simp) hne]
    exact hempty name above (by omega)

variable (depth : Nat) (name : String) (content : ByteArray)

theorem lookup_nestedFile (location : Location) :
    (nestedFile depth name content).lookup location =
      ((nested depth).put (name :: List.replicate depth longName) (.file content)).lookup
        location := by
  cases location <;> rfl

theorem wellFormed_nestedFile : (nestedFile depth name content).WellFormed := by
  obtain ⟨hfs, hlast, hempty⟩ := wellFormed_nested depth
  have hnone := hempty name (List.replicate depth longName) (by simp)
  have hput := hfs.put hlast (by rw [hnone]; simp) (.file content)
  constructor
  · intro other above hmem
    rw [lookup_nestedFile]
    exact hput.directory_above hmem
  · exact hput.root_not_mem
  · have hne : List.replicate depth longName ≠ name :: List.replicate depth longName := by simp
    rw [lookup_nestedFile]
    exact (lookup_put_of_ne _ (by simp) hne).trans hlast

variable {name}

/-- The name alone leads to the file, for reading and for writing. -/
theorem reaches_nestedFile (hname : Path.IsTextName name) (hslash : '/' ∉ name.toList)
    (hzero : '\x00' ∉ name.toList) (hshort : name.utf8ByteSize ≤ nameLimit) :
    (nestedFile depth name content).Reaches name (List.replicate depth longName) name := by
  have hends := Path.endsIn_of_isTextName hslash hname
  have hlimit : nameLimit < pathLimit := by decide
  have hrelative : Path.isAbsolute name = false := by
    simp only [Path.isAbsolute, decide_eq_false_iff_not]
    exact fun hfirst => hslash (List.mem_of_mem_head? hfirst)
  have hstart : (nestedFile depth name content).pathStart name =
      List.replicate depth longName := by
    rw [pathStart, hrelative]
    rfl
  exact
    { isFollowable := ⟨hzero, hends.ne_empty, fun hlong => by omega⟩
      isEntryName := ⟨hends.ne_dot, hends.ne_up, Nat.not_lt.mpr hshort⟩
      approach := ⟨[], linkLimit, hends, hstart ▸ .arrive⟩ }

end FileSystem

/-- A file in the last of sixteen nested directories is copied onto itself, by its name alone: it
could be read before, the copy succeeds, and afterwards the file is empty. -/
theorem FileCommand.copy_onto_itself_loses :
    let fs := FileSystem.nestedFile 16 "0123456789a.txt" "precious".toUTF8
    let arguments := "\"0123456789a.txt\" \"0123456789a.txt\""
    fs.WellFormed ∧
      CopyRequest.read arguments = .ok ⟨"0123456789a.txt", "0123456789a.txt"⟩ ∧
      Path.resolve "" "0123456789a.txt" = "0123456789a.txt" ∧
      fs.readFile "0123456789a.txt" = .ok "precious".toUTF8 ∧
      (copy "" arguments fs).result = .ok () ∧
      (copy "" arguments fs).files.readFile "0123456789a.txt" = .ok "".toUTF8 := by
  intro fs arguments
  have hfs : fs.WellFormed := FileSystem.wellFormed_nestedFile 16 _ _
  have hread : CopyRequest.read arguments = .ok ⟨"0123456789a.txt", "0123456789a.txt"⟩ := by
    decide +kernel
  have hresolve : Path.resolve "" "0123456789a.txt" = "0123456789a.txt" := by decide +kernel
  have hreaches : fs.Reaches "0123456789a.txt" (List.replicate 16 FileSystem.longName)
      "0123456789a.txt" :=
    FileSystem.reaches_nestedFile 16 _ (by decide +kernel) (by decide +kernel) (by decide +kernel)
      (by decide +kernel)
  have hlookup : fs.lookup ("0123456789a.txt" :: List.replicate 16 FileSystem.longName) =
      some (.file "precious".toUTF8) := by
    rw [FileSystem.lookup_nestedFile, FileSystem.lookup_put_self _ (by simp)]
  have hleads : fs.LeadsToFile "0123456789a.txt" _ "precious".toUTF8 :=
    ⟨hreaches.locate_of_file (by decide) hlookup, hlookup⟩
  have hplace : fs.openPlace? "0123456789a.txt" =
      some ("0123456789a.txt" :: List.replicate 16 FileSystem.longName) := by
    rw [FileSystem.openPlace?, hreaches.locate_of_file (by decide) hlookup]
    dsimp only
    rw [hlookup]
    rfl
  -- sixteen slashes and names of 254 bytes are just what makes the path too long
  have hlong : pathLimit ≤ (Location.path
      ("0123456789a.txt" :: List.replicate 16 FileSystem.longName)).utf8ByteSize := by
    rw [FileSystem.utf8ByteSize_path (by simp)]
    decide +kernel
  obtain ⟨hok, hfiles⟩ : (copy "" arguments fs).result = .ok () ∧
      (copy "" arguments fs).files = fs.put _ (.file .empty) :=
    copy_of_long hfs hread (hresolve.symm ▸ hleads) (hresolve.symm ▸ hplace) hlong
  have hempty := FileSystem.leadsToFile_of_openPlace? hplace .empty
  refine ⟨hfs, hread, hresolve, FileSystem.exists_leadsToFile_iff.mp ⟨_, hleads⟩, hok, ?_⟩
  rw [hfiles]
  exact FileSystem.exists_leadsToFile_iff.mp ⟨_, hempty⟩

end TextShell
