import TextShell.Pattern.Expression
import TextShell.Text.CaseFolding
import TextShell.Text.Property

/-!
# Modes

What the flags that are set mean for the parts of a pattern: which characters are words, which are
alike and which end a line.

* `Anchor.holds`: whether a condition holds between two characters.
-/

namespace TextShell.Pattern

open Text

/-- The flags that matter for what a pattern means. -/
structure Modes where
  /-- Case does not matter. -/
  ignoreCase : Bool
  /-- The start and end of a line count as those of the text. -/
  multiLine : Bool
  /-- The dot stands for line ends, too. -/
  dotAll : Bool
  /-- Characters beyond ASCII have properties. -/
  unicode : Bool
  /-- Carriage returns end lines, too. -/
  crlf : Bool
  deriving DecidableEq, Repr

namespace Modes

/-- The modes at the start of a pattern. -/
def start : Modes where
  ignoreCase := false
  multiLine := false
  dotAll := false
  unicode := true
  crlf := false

/-- The modes behind a list of flags. -/
def set (modes : Modes) (items : List FlagItem) : Modes :=
  let state (flag : Flag) (old : Bool) := (flagState? flag true items).getD old
  { ignoreCase := state .ignoreCase modes.ignoreCase
    multiLine := state .multiLine modes.multiLine
    dotAll := state .dotAll modes.dotAll
    unicode := state .unicode modes.unicode
    crlf := state .crlf modes.crlf }

/-- The letters of ASCII in upper case. -/
def asciiUpper : CodePointSet := .range 0x41 0x5A

/-- The letters of ASCII in lower case. -/
def asciiLower : CodePointSet := .range 0x61 0x7A

/-- The digits of ASCII. -/
def asciiDigits : CodePointSet := .range 0x30 0x39

/-- The characters of ASCII that words consist of. -/
def asciiWord : CodePointSet := .unions [asciiUpper, asciiLower, asciiDigits, .single 0x5F]

/-- The white space of ASCII. -/
def asciiSpace : CodePointSet := .union (.range 0x9 0xD) (.single 0x20)

/-- A set of characters moved by a distance. -/
def moved (offset : Int) (set : CodePointSet) : CodePointSet :=
  ⟨set.changes.map fun change : Nat => (change + offset).toNat⟩

/-- A set with the letters of ASCII that differ from a member in case only. -/
def withAsciiVariants (set : CodePointSet) : CodePointSet :=
  .unions [set, moved 32 (set.inter asciiUpper), moved (-32) (set.inter asciiLower)]

/-- A set with the characters that are like its members. -/
def fold (modes : Modes) (set : CodePointSet) : CodePointSet :=
  if !modes.ignoreCase then set
  else if modes.unicode then set.withCaseVariants
  else withAsciiVariants set

/-- The characters of a set with a short name. -/
def shorthand (modes : Modes) : Shorthand → CodePointSet
  | .digit => if modes.unicode then decimalDigits else asciiDigits
  | .space => if modes.unicode then whiteSpace else asciiSpace
  | .word => if modes.unicode then wordCharacters else asciiWord

/-- The characters that the dot does not stand for. -/
def lineEnds (modes : Modes) : CodePointSet :=
  if modes.dotAll then .empty
  else if modes.crlf then .union (.single 0xA) (.single 0xD)
  else .single 0xA

/-- Whether the character at a side of a place, if there is one, belongs to a word. -/
def isWord (modes : Modes) (side? : Option Char) : Bool :=
  side?.any (modes.shorthand .word).contains

/-- Whether a line starts between two characters. A line feed that follows a carriage return ends the
same line. -/
def startsLine (modes : Modes) (before? after? : Option Char) : Bool :=
  before?.isNone || (modes.multiLine && (before? = some '\n' ||
    (modes.crlf && before? = some '\r' && after? ≠ some '\n')))

/-- Whether a line ends between two characters. -/
def endsLine (modes : Modes) (before? after? : Option Char) : Bool :=
  after?.isNone || (modes.multiLine && (if modes.crlf then
    after? = some '\r' || (after? = some '\n' && before? ≠ some '\r')
    else after? = some '\n'))

end Modes

/-- Whether a condition holds between two characters, of which there is none at an end of the
text. -/
def Anchor.holds (modes : Modes) (before? after? : Option Char) : Anchor → Bool
  | lineStart => modes.startsLine before? after?
  | lineEnd => modes.endsLine before? after?
  | textStart => before?.isNone
  | textEnd => after?.isNone
  | wordBoundary => modes.isWord before? != modes.isWord after?
  | noWordBoundary => modes.isWord before? == modes.isWord after?
  | wordStart => !modes.isWord before? && modes.isWord after?
  | wordEnd => modes.isWord before? && !modes.isWord after?
  | wordStartHalf => !modes.isWord before?
  | wordEndHalf => !modes.isWord after?

/-- The characters of a set of ASCII characters. -/
def AsciiSet.members : AsciiSet → CodePointSet
  | alnum => .unions [Modes.asciiUpper, Modes.asciiLower, Modes.asciiDigits]
  | alpha => .union Modes.asciiUpper Modes.asciiLower
  | ascii => .range 0x0 0x7F
  | blank => .union (.single 0x9) (.single 0x20)
  | cntrl => .union (.range 0x0 0x1F) (.single 0x7F)
  | digit => Modes.asciiDigits
  | graph => .range 0x21 0x7E
  | lower => Modes.asciiLower
  | print => .range 0x20 0x7E
  | punct => .unions [.range 0x21 0x2F, .range 0x3A 0x40, .range 0x5B 0x60, .range 0x7B 0x7E]
  | space => Modes.asciiSpace
  | upper => Modes.asciiUpper
  | word => Modes.asciiWord
  | xdigit => .unions [Modes.asciiDigits, .range 0x41 0x46, .range 0x61 0x66]

end TextShell.Pattern
