import TextShell.FileCommand

/-!
# The courses that requests take

All that can come of carrying out a request, with one rule for each course: the checks that led to it,
in the order in which they are made, and the outcome. Whatever is to be said about a request goes
through these rules.

* `CopyRequest.course`, `CreateRequest.course`, `DeleteRequest.course`, `UpdateRequest.course`.
-/

namespace TextShell

/-- What can come of a copy. -/
inductive CopyRequest.Course (fs : FileSystem) (source destination : String) : Outcome → Prop where
  /-- There is no file to copy. -/
  | missing : fs.isFile source = false →
      Course fs source destination (.failed fs (.missingSource source))
  /-- The source is the destination already. -/
  | same {note : Note} : fs.isFile source = true → fs.isSamePlace source destination = true →
      Course fs source destination (.done fs note)
  /-- The file cannot be copied. -/
  | fault {context : String} {fault : FileFault} : fs.isFile source = true →
      fs.isSamePlace source destination = false → fs.copyFile source destination = .error fault →
      Course fs source destination (.failed fs (.io context fault))
  /-- The file is copied. -/
  | copied {after : FileSystem} {note : Note} : fs.isFile source = true →
      fs.isSamePlace source destination = false → fs.copyFile source destination = .ok after →
      Course fs source destination (.done after note)

/-- What can come of a creation. -/
inductive CreateRequest.Course (fs : FileSystem) (path : String) (content : ByteArray) :
    Outcome → Prop where
  /-- Not all of the directories above the file can be made. Those that were made stay. -/
  | noDirectory {made : FileSystem} {context : String} {fault : FileFault} :
      fs.makeDirectories ((Path.parent? path).getD "") = (made, .error fault) →
      Course fs path content (.failed made (.io context fault))
  /-- The file cannot be written. The directories stay. -/
  | fault {made : FileSystem} {context : String} {fault : FileFault} :
      fs.makeDirectories ((Path.parent? path).getD "") = (made, .ok ()) →
      made.writeFile path content = .error fault →
      Course fs path content (.failed made (.io context fault))
  /-- The file is created. -/
  | created {made after : FileSystem} {note : Note} :
      fs.makeDirectories ((Path.parent? path).getD "") = (made, .ok ()) →
      made.writeFile path content = .ok after → Course fs path content (.done after note)

/-- What can come of a deletion. -/
inductive DeleteRequest.Course (fs : FileSystem) (path : String) : Outcome → Prop where
  /-- The file is removed. -/
  | removed {after : FileSystem} {note : Note} :
      fs.removeFile path = .ok after → Course fs path (.done after note)
  /-- There was no file, and that is all that was asked for. -/
  | absent {note : Note} : fs.removeFile path = .error .noEntry → Course fs path (.done fs note)
  /-- The file cannot be removed. -/
  | fault {context : String} {fault : FileFault} : fs.removeFile path = .error fault →
      fault ≠ .noEntry → Course fs path (.failed fs (.io context fault))

/-- What can come of an update. Nothing is written before the edit is known to be possible. -/
inductive UpdateRequest.Course (fs : FileSystem) (path : String) (edit : Edit) :
    Outcome → Prop where
  /-- There is no file to change. -/
  | missing : fs.isFile path = false → Course fs path edit (.failed fs (.missingFile path))
  /-- The file is not text. -/
  | unreadable {context : String} {fault : FileFault} : fs.isFile path = true →
      fs.readText path = .error fault → Course fs path edit (.failed fs (.io context fault))
  /-- The edit cannot be made. -/
  | refused {text : String} {failure : Failure} : fs.isFile path = true →
      fs.readText path = .ok text → edit.apply (Text.breakLines text) = .error failure →
      Course fs path edit (.failed fs failure)
  /-- The file cannot be replaced. -/
  | fault {text context : String} {edited : List String} {after : FileSystem} {fault : FileFault}
      {notes : List Note} : fs.isFile path = true → fs.readText path = .ok text →
      edit.apply (Text.breakLines text) = .ok edited →
      fs.replaceFile path (Text.joinLines edited).toUTF8 = (after, .error fault) →
      Course fs path edit ⟨after, .error (.io context fault), notes⟩
  /-- The file is changed. -/
  | updated {text : String} {edited : List String} {after : FileSystem} {notes : List Note} :
      fs.isFile path = true → fs.readText path = .ok text →
      edit.apply (Text.breakLines text) = .ok edited →
      fs.replaceFile path (Text.joinLines edited).toUTF8 = (after, .ok ()) →
      Course fs path edit ⟨after, .ok (), notes⟩

variable (directory : String) (fs : FileSystem)

/-- A copy takes one of its courses. -/
theorem CopyRequest.course (request : CopyRequest) :
    Course fs (Path.resolve directory request.source) (Path.resolve directory request.destination)
      (request.carryOut directory fs) := by
  unfold carryOut
  dsimp only
  split
  next hmissing => exact .missing (by simpa using hmissing)
  next hfile =>
    split
    next hsame => exact .same (by simpa using hfile) hsame
    next hother =>
      split
      next hcopy => exact .fault (by simpa using hfile) (by simpa using hother) hcopy
      next hcopy => exact .copied (by simpa using hfile) (by simpa using hother) hcopy

/-- A creation takes one of its courses. -/
theorem CreateRequest.course (request : CreateRequest) :
    Course fs (Path.resolve directory request.path) (request.text.getD "").toUTF8
      (request.carryOut directory fs) := by
  unfold carryOut
  dsimp only
  split
  next hmake => exact .noDirectory hmake
  next hmake =>
    split
    next hwrite => exact .fault hmake hwrite
    next hwrite => exact .created hmake hwrite

/-- A deletion takes one of its courses. -/
theorem DeleteRequest.course (request : DeleteRequest) :
    Course fs (Path.resolve directory request.path) (request.carryOut directory fs) := by
  unfold carryOut
  dsimp only
  split
  next hremove => exact .removed hremove
  next hremove =>
    split
    next hmissing =>
      rw [hmissing] at hremove
      exact .absent hremove
    next hother => exact .fault hremove hother

/-- An update takes one of its courses. -/
theorem UpdateRequest.course (request : UpdateRequest) :
    Course fs (Path.resolve directory request.path) request.edit (request.carryOut directory fs) := by
  unfold carryOut
  dsimp only
  split
  next hmissing => exact .missing (by simpa using hmissing)
  next hfile =>
    have hfile : fs.isFile (Path.resolve directory request.path) = true := by simpa using hfile
    split
    next hread => exact .unreadable hfile hread
    next hread =>
      split
      next hedit => exact .refused hfile hread hedit
      next hedit =>
        split
        next hreplace => exact .fault hfile hread hedit hreplace
        next hreplace => exact .updated hfile hread hedit hreplace

end TextShell
