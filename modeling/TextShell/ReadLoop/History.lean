import TextShell.FileSystem.Operations
import TextShell.Journal
import TextShell.Text.LineBreak
import TextShell.Text.Utf8

/-!
# History

The lines that a user has entered, the oldest first, without immediate repetitions and at most
`History.capacity` of them. A history is kept in a file: after a first line that tells the format,
one entry a line, in which a backslash and a line feed are escaped. A file without that first line
holds its entries as they are.

* `History.add`: one more entry.
* `History.render`, `History.read`: a history as the content of a file, and back.
* `unescape?_escape`: an escaped entry is read as that entry.
-/

namespace TextShell

/-- The lines entered so far. -/
structure History where
  /-- The entries, the oldest first. -/
  entries : List String
  /-- How many of the entries at the end are not in the history file. -/
  unsaved : Nat
  deriving DecidableEq, Repr

namespace History

/-- How many entries are kept. -/
def capacity : Nat := 100

/-- The history without entries. -/
def empty : History where
  entries := []
  unsaved := 0

/-- One more entry at the end. The empty line and a repetition of the last entry are left out, and
the oldest entry makes room if there are too many. -/
def add (history : History) (line : String) : History :=
  if line = "" ∨ history.entries.getLast? = some line then history
  else
    let entries := (history.entries ++ [line]).drop (history.entries.length + 1 - capacity)
    { entries, unsaved := min (history.unsaved + 1) entries.length }

/-- An entry as it stands in a history file. -/
def escape : List Char → List Char
  | [] => []
  | c :: rest =>
    if c = '\\' then '\\' :: '\\' :: escape rest
    else if c = '\n' then '\\' :: 'n' :: escape rest
    else c :: escape rest

/-- The entry that a line of a history file stands for, unless it has a backslash that escapes
nothing. -/
def unescape? : List Char → Option (List Char)
  | [] => some []
  | '\\' :: '\\' :: rest => (unescape? rest).map ('\\' :: ·)
  | '\\' :: 'n' :: rest => (unescape? rest).map ('\n' :: ·)
  | c :: rest => if c = '\\' then none else (unescape? rest).map (c :: ·)

/-- The first line of a history file with escaped entries. -/
def header : String := "#V2"

/-- The content of a history file. -/
def render (history : History) : String :=
  Text.joinLines (header :: history.entries.map fun entry => .ofList (escape entry.toList))

/-- What reading a history file gives: the history so far and notes. -/
structure ReadState where
  /-- The history so far. -/
  history : History
  /-- Notes on lines that are not escaped as they should be. -/
  notes : List Note

/-- Take in one line of a history file. -/
def ReadState.take (state : ReadState) (escaped : Bool) (line : String) : ReadState :=
  if line = "" then state
  else if escaped then
    match unescape? line.toList with
    | some entry => { state with history := state.history.add (.ofList entry) }
    | none =>
      { history := state.history.add line
        notes := state.notes ++
          [{ origin := .lineReader, level := .warn, text := "bad escaped line: " ++ line }] }
  else { state with history := state.history.add line }

/-- Take in lines of a history file up to one that is not UTF-8, if any. The answer tells whether
there was none. -/
def readPieces (escaped : Bool) : List (List UInt8) → ReadState → ReadState × Bool
  | [], state => (state, true)
  | piece :: others, state =>
    match Text.decode? piece with
    | none => (state, false)
    | some text =>
      readPieces escaped others
        (state.take escaped (.ofList (Text.dropLineEnding text.toList)))

/-- Add the entries of a history file. If all of it could be read, nothing is left to save. The
answer tells whether that is so. -/
def read (history : History) (content : ByteArray) : ReadState × Bool :=
  let pieces := Text.pieces 10 content.data.toList
  -- a first line that is not the header is an entry itself
  let isEscaped := match pieces with
    | first :: _ =>
      (Text.decode? first).map (fun text => String.ofList (Text.dropLineEnding text.toList))
        = some header
    | [] => false
  match readPieces isEscaped (if isEscaped then pieces.tail else pieces)
      { history, notes := [] } with
  | (state, true) => ({ state with history := { state.history with unsaved := 0 } }, true)
  | (state, false) => (state, false)

/-- Add the entries of the history file at a path. -/
def load (history : History) (fs : FileSystem) (path : String) :
    ReadState × Except FileFault Unit :=
  match fs.readFile path with
  | .error fault => ({ history, notes := [] }, .error fault)
  | .ok content =>
    match history.read content with
    | (state, true) => (state, .ok ())
    | (state, false) => (state, .error .notText)

/-- Write the history to the file at a path, if it has entries that are not there. -/
def save (history : History) (fs : FileSystem) (path : String) : Except FileFault FileSystem :=
  if history.entries = [] ∨ history.unsaved = 0 then .ok fs
  else fs.writeFile path history.render.toUTF8

/-- What is escaped can be read again. -/
theorem unescape?_escape (entry : List Char) : unescape? (escape entry) = some entry := by
  induction entry with
  | nil => rfl
  | cons c rest ih =>
    by_cases hslash : c = '\\'
    · simp [escape, unescape?, hslash, ih]
    · by_cases hfeed : c = '\n'
      · simp [escape, unescape?, hfeed, ih]
      · simp [escape, unescape?, hslash, hfeed, ih]

example : escape ['a', '\\', '\n'] = ['a', '\\', '\\', '\\', 'n'] := by decide

example : unescape? ['a', '\\', 'q'] = none := by decide

end History

end TextShell
