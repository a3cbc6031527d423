import TextShell.Text.Grapheme
import TextShell.Text.LineBreak
import TextShell.Text.Utf8

/-!
# Input lines

Input is a sequence of bytes. A line ends after a line feed, or at the end of the input. Its text
is what its bytes stand for, without the line ending and with its backspaces carried out. A line has
no text if its bytes are not UTF-8, or if a backspace would leave a part of a character.
-/

namespace TextShell

/-- Why a line of input has no text. -/
inductive LineFault where
  /-- Its bytes are not UTF-8. -/
  | notText
  /-- A backspace would leave a part of a character. -/
  | cutCharacter
  deriving DecidableEq, Repr

namespace Input

/-- The input cut after every line feed. -/
def lines (input : List UInt8) : List (List UInt8) := Text.pieces 10 input

/-- The text of a line of input, or why it has none. -/
def read (line : List UInt8) : Except LineFault String :=
  match Text.decode? line with
  | none => .error .notText
  | some text =>
    match Text.eraseBackspaces? (Text.dropLineEnding text.toList) with
    | none => .error .cutCharacter
    | some kept => .ok (.ofList kept)

/-- The bytes of lines not yet read. -/
def rest (lines : List (List UInt8)) : List UInt8 := lines.flatten

/-- The lines of an input hold all of its bytes. -/
theorem rest_lines (input : List UInt8) : rest (lines input) = input :=
  Text.pieces_flatten 10 input

end Input

end TextShell
