import TextShell.Request.Basic
import TextShell.Text.Blank

/-!
# Reading requests

The arguments of each command have one exact form: words of options, quoted paths and texts with
single spaces between them, and any blank characters at the end. A quoted item holds at least one
character and no quote, and a path ends in `.txt` behind at least one character.

* `CopyRequest.read`, `CreateRequest.read`, `DeleteRequest.read`, `UpdateRequest.read`: the request
  in an argument text, or why there is none.
-/

namespace TextShell

namespace Reading

/-- Leave off a fixed beginning. -/
def skip? (beginning text : List Char) : Option (List Char) :=
  if beginning.isPrefixOf text then some (text.drop beginning.length) else none

/-- The characters before the next quote, at least one, and what follows the quote. -/
def quoted? (text : List Char) : Option (List Char × List Char) :=
  match text.takeWhile (· ≠ '"'), text.dropWhile (· ≠ '"') with
  | item, '"' :: rest => if item = [] then none else some (item, rest)
  | _, _ => none

/-- The ending that a file name must have. -/
def extension : List Char := ['.', 't', 'x', 't']

/-- Whether a quoted item can be a path: the ending stands behind at least one character. -/
def isPath (item : List Char) : Bool :=
  extension.isSuffixOf item && decide (extension.length < item.length)

/-- The path before the next quote and what follows the quote. -/
def path? (text : List Char) : Option (List Char × List Char) :=
  match quoted? text with
  | some (item, rest) => if isPath item then some (item, rest) else none
  | none => none

/-- The digits at the beginning, at least one, and what follows them. -/
def digits? (text : List Char) : Option (List Char × List Char) :=
  if text.takeWhile Char.isDigit = [] then none
  else some (text.takeWhile Char.isDigit, text.dropWhile Char.isDigit)

/-- Whether nothing but blank characters is left. -/
def isEnd (text : List Char) : Bool := text.all Text.isBlank

/-- The number written by digits. -/
def number (digits : List Char) : Nat :=
  digits.foldl (fun value digit => 10 * value + (digit.toNat - '0'.toNat)) 0

/-- The line number written by digits, if it fits. -/
def lineNumber? (digits : List Char) : Option UInt64 :=
  if number digits < UInt64.size then some (.ofNat (number digits)) else none

/-- A change as it is written, before its line number is known to fit. -/
inductive WrittenEdit where
  /-- One line in place of all. -/
  | replace (text : List Char)
  /-- A line at the end. -/
  | append (text : List Char)
  /-- A line with a number. -/
  | insertAt (digits text : List Char)
  /-- A line to take out. -/
  | deleteAt (digits : List Char)
  deriving DecidableEq, Repr

namespace WrittenEdit

/-- The change that is written, unless its line number does not fit. The number is reported as it
was written. -/
def edit : WrittenEdit → Except Failure Edit
  | replace text => .ok (.replace (.ofList text))
  | append text => .ok (.append (.ofList text))
  | insertAt digits text =>
    match lineNumber? digits with
    | some line => .ok (.insertAt line (.ofList text))
    | none => .error (.insertOutOfRange (.ofList digits))
  | deleteAt digits =>
    match lineNumber? digits with
    | some line => .ok (.deleteAt line)
    | none => .error (.deleteOutOfRange (.ofList digits))

end WrittenEdit

/-- The text of a change behind its option, at the end of the arguments. -/
def lastText? (text : List Char) : Option (List Char) := do
  let (item, rest) ← quoted? text
  if isEnd rest then some item else none

/-- The change at the end of the arguments of an update. -/
def writtenEdit? (text : List Char) : Option WrittenEdit :=
  match skip? "-a \"".toList text with
  | some rest => (lastText? rest).map .append
  | none =>
    match skip? "-nl ".toList text with
    | some rest => do
      let (digits, rest) ← digits? rest
      let rest ← skip? " \"".toList rest
      (lastText? rest).map (.insertAt digits)
    | none =>
      match skip? "-dl ".toList text with
      | some rest => do
        let (digits, rest) ← digits? rest
        if isEnd rest then some (.deleteAt digits) else none
      | none => do
        let rest ← skip? "\"".toList text
        (lastText? rest).map .replace

/-- The paths of a copy. -/
def copy? (text : List Char) : Option (List Char × List Char) := do
  let rest ← skip? "\"".toList text
  let (source, rest) ← path? rest
  let rest ← skip? " \"".toList rest
  let (destination, rest) ← path? rest
  if isEnd rest then some (source, destination) else none

/-- The path of a creation and its text, if any. -/
def create? (text : List Char) : Option (List Char × Option (List Char)) := do
  let rest ← skip? "-f \"".toList text
  let (path, rest) ← path? rest
  if isEnd rest then some (path, none)
  -- what follows the path and is not blank can only be the text
  else
    let rest ← skip? " \"".toList rest
    let item ← lastText? rest
    some (path, some item)

/-- The path of a deletion. -/
def delete? (text : List Char) : Option (List Char) := do
  let rest ← skip? "-f \"".toList text
  let (path, rest) ← path? rest
  if isEnd rest then some path else none

/-- The path of an update and its change. -/
def update? (text : List Char) : Option (List Char × WrittenEdit) := do
  let rest ← skip? "-f \"".toList text
  let (path, rest) ← path? rest
  let rest ← skip? " ".toList rest
  let edit ← writtenEdit? rest
  some (path, edit)

end Reading

/-- The copy that an argument text asks for. -/
def CopyRequest.read (arguments : String) : Except Failure CopyRequest :=
  match Reading.copy? arguments.toList with
  | some (source, destination) =>
    .ok { source := .ofList source, destination := .ofList destination }
  | none => .error CommandForm.copy.failure

/-- The creation that an argument text asks for. -/
def CreateRequest.read (arguments : String) : Except Failure CreateRequest :=
  match Reading.create? arguments.toList with
  | some (path, text) => .ok { path := .ofList path, text := text.map .ofList }
  | none => .error CommandForm.create.failure

/-- The deletion that an argument text asks for. -/
def DeleteRequest.read (arguments : String) : Except Failure DeleteRequest :=
  match Reading.delete? arguments.toList with
  | some path => .ok { path := .ofList path }
  | none => .error CommandForm.delete.failure

/-- The update that an argument text asks for. -/
def UpdateRequest.read (arguments : String) : Except Failure UpdateRequest :=
  match Reading.update? arguments.toList with
  | none => .error CommandForm.update.failure
  | some (path, written) =>
    match written.edit with
    | .ok edit => .ok { path := .ofList path, edit }
    | .error failure => .error failure

example : DeleteRequest.read "-f \"a.txt\" \u3000" = .ok ⟨"a.txt"⟩ := by rfl

example : UpdateRequest.read "-f \"a.txt\" -nl 007 \"x\"" = .ok ⟨"a.txt", .insertAt 7 "x"⟩ := by
  rfl

example : CopyRequest.read "\".txt\" \"b.txt\"" = .error CommandForm.copy.failure := by
  rfl

end TextShell
