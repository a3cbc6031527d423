import TextShell.Text.LineBreak

/-!
# Faults of patterns

Why a text is no pattern, and where. A fault is told with the text of the pattern, in which the
place is marked.

* `Pattern.Fault.message`: what is told about a fault.
-/

namespace TextShell.Pattern

/-- A place in a text. Lines and columns count from one. -/
structure Place where
  /-- The line. -/
  line : Nat
  /-- The column. -/
  column : Nat
  deriving DecidableEq, Repr

namespace Place

/-- The start of a text. -/
def start : Place := ⟨1, 1⟩

/-- The place behind a character. -/
def after (place : Place) (c : Char) : Place :=
  if c = '\n' then ⟨place.line + 1, 1⟩ else ⟨place.line, place.column + 1⟩

/-- Whether a place comes before another or is the same. -/
def le (place other : Place) : Bool :=
  place.line < other.line || (place.line = other.line && place.column ≤ other.column)

end Place

/-- A part of a text. -/
structure Span where
  /-- Where it starts. -/
  start : Place
  /-- The place behind its last character. -/
  stop : Place
  deriving DecidableEq, Repr

namespace Span

/-- The empty part at a place. -/
def point (place : Place) : Span := ⟨place, place⟩

/-- Whether a part lies within one line. -/
def isOnOneLine (span : Span) : Bool := span.start.line = span.stop.line

/-- Whether a part comes before another in a list of parts. -/
def le (span other : Span) : Bool :=
  if span.start = other.start then span.stop.le other.stop else span.start.le other.start

end Span

/-- What can be wrong with a pattern. -/
inductive Cause where
  /-- An escape that is no set of characters stands among the members of a set. -/
  | escapeInSet
  /-- A range ends before it starts. -/
  | emptyRange
  /-- An end of a range is no single character. -/
  | rangeEnd
  /-- A set of characters has no end. -/
  | unclosedSet
  /-- A number is too great. -/
  | badNumber
  /-- A code point in braces has no digits. -/
  | noHexDigits
  /-- A code point is no character. -/
  | noCharacter
  /-- Something else stands in place of a hexadecimal digit. -/
  | badHexDigit
  /-- The text ends within an escape. -/
  | unfinishedEscape
  /-- There is no such escape. -/
  | unknownEscape
  /-- No flag follows the sign that turns flags off. -/
  | danglingNegation
  /-- A flag is given twice. -/
  | repeatedFlag
  /-- The sign that turns flags off is given twice. -/
  | repeatedNegation
  /-- The text ends among flags. -/
  | unfinishedFlags
  /-- There is no such flag. -/
  | unknownFlag
  /-- Two groups have one name. -/
  | repeatedName
  /-- The name of a group is empty. -/
  | emptyName
  /-- A character may not stand in the name of a group. -/
  | badNameCharacter
  /-- The name of a group has no end. -/
  | unclosedName
  /-- A group has no end. -/
  | unclosedGroup
  /-- A group ends that has not begun. -/
  | unopenedGroup
  /-- The pattern is nested too deeply. -/
  | tooDeep
  /-- A repetition has a greatest number below its least. -/
  | emptyRepetition
  /-- A repetition has something else in place of a number. -/
  | repetitionNumber
  /-- The numbers of a repetition have no closing brace. -/
  | unclosedRepetition
  /-- There is nothing to repeat. -/
  | nothingToRepeat
  /-- The name of a kind of word boundary has no end. -/
  | unclosedBoundary
  /-- There is no such kind of word boundary. -/
  | unknownBoundary
  /-- The text ends behind the brace that follows a word boundary. -/
  | unfinishedBoundary
  /-- A property has a name that no property can have. -/
  | badPropertyName
  /-- An earlier group is referred to. -/
  | backreference
  /-- What is around a match is looked at. -/
  | lookAround
  /-- A character or property beyond ASCII is asked for where only ASCII is meant. -/
  | beyondAscii
  /-- What is not a character could match. -/
  | notText
  /-- There is no such property. -/
  | unknownProperty
  /-- A property has no such value. -/
  | unknownPropertyValue
  deriving DecidableEq, Repr

/-- How deeply a pattern may be nested. -/
def depthLimit : Nat := 250

/-- How many bytes a pattern may take when its repetitions are written out. -/
def sizeLimit : Nat := 10 * Nat.pow 2 20

/-- What is told about a cause. -/
def Cause.message : Cause → String
  | escapeInSet => "invalid escape sequence found in character class"
  | emptyRange => "invalid character class range, the start must be <= the end"
  | rangeEnd => "invalid range boundary, must be a literal"
  | unclosedSet => "unclosed character class"
  | badNumber => "decimal literal invalid"
  | noHexDigits => "hexadecimal literal empty"
  | noCharacter => "hexadecimal literal is not a Unicode scalar value"
  | badHexDigit => "invalid hexadecimal digit"
  | unfinishedEscape => "incomplete escape sequence, reached end of pattern prematurely"
  | unknownEscape => "unrecognized escape sequence"
  | danglingNegation => "dangling flag negation operator"
  | repeatedFlag => "duplicate flag"
  | repeatedNegation => "flag negation operator repeated"
  | unfinishedFlags => "expected flag but got end of regex"
  | unknownFlag => "unrecognized flag"
  | repeatedName => "duplicate capture group name"
  | emptyName => "empty capture group name"
  | badNameCharacter => "invalid capture group character"
  | unclosedName => "unclosed capture group name"
  | unclosedGroup => "unclosed group"
  | unopenedGroup => "unopened group"
  | tooDeep =>
    "exceed the maximum number of nested parentheses/brackets (" ++ depthLimit.repr ++ ")"
  | emptyRepetition => "invalid repetition count range, the start must be <= the end"
  | repetitionNumber => "repetition quantifier expects a valid decimal"
  | unclosedRepetition => "unclosed counted repetition"
  | nothingToRepeat => "repetition operator missing expression"
  | unclosedBoundary =>
    "special word boundary assertion is either unclosed or contains an invalid character"
  | unknownBoundary =>
    "unrecognized special word boundary assertion, valid choices are: start, end, start-half " ++
      "or end-half"
  | unfinishedBoundary =>
    "found either the beginning of a special word boundary or a bounded repetition on a \\b with " ++
      "an opening brace, but no closing brace"
  | badPropertyName => "invalid Unicode character class"
  | backreference => "backreferences are not supported"
  | lookAround => "look-around, including look-ahead and look-behind, is not supported"
  | beyondAscii => "Unicode not allowed here"
  | notText => "pattern can match invalid UTF-8"
  | unknownProperty => "Unicode property not found"
  | unknownPropertyValue => "Unicode property value not found"

/-- Why a text is no pattern. -/
inductive Fault where
  /-- Something is wrong in a part of it, perhaps because of an earlier part. -/
  | malformed (cause : Cause) (span : Span) (earlier? : Option Span)
  /-- It would take too much room. -/
  | tooLarge
  deriving DecidableEq, Repr

namespace Fault

/-- The marks of parts of one line, from a column on. -/
def marksFrom (column : Nat) : List Span → List Char
  | [] => []
  | span :: others =>
    let width := max 1 (span.stop.column - span.start.column)
    List.replicate (span.start.column - column) ' ' ++ List.replicate width '^' ++
      marksFrom (max column span.start.column + width) others

/-- The lines under a margin, each with the marks of the parts that lie within it below. -/
def markedLines (margin : Nat → String) (spans : List Span) (lines : List String) : List String :=
  (lines.mapIdx fun index line =>
    let here := spans.filter fun span => span.isOnOneLine && span.start.line = index + 1
    let shown := margin (index + 1) ++ line
    if here = [] then [shown]
    else
      [shown, String.ofList (List.replicate (margin (index + 1)).length ' ' ++ marksFrom 1 here)]
    ).flatten

/-- What is told about a part that spreads over several lines. -/
def spreadNote (span : Span) : String :=
  "on line " ++ span.start.line.repr ++ " (column " ++ span.start.column.repr ++
    ") through line " ++ span.stop.line.repr ++ " (column " ++ (span.stop.column - 1).repr ++ ")"

/-- The margin of a line, its number in a text of several lines. -/
def margin (count line : Nat) : String :=
  String.ofList (line.repr.toList.leftpad count.repr.length ' ') ++ ": "

/-- The lines that are told about something wrong in parts of a text. -/
def report (text : String) (spans : List Span) (cause : Cause) : List String :=
  let lines := Text.breakLines text
  let count := lines.length + (if text.toList.getLast? = some '\n' then 1 else 0)
  let told := ["error: " ++ cause.message]
  let shown :=
    markedLines (if count ≤ 1 then fun _ => "    " else margin count) spans lines
  if '\n' ∈ text.toList then
    let divider := String.ofList (List.replicate 79 '~')
    [divider] ++ shown ++ [divider] ++ (spans.filter (!·.isOnOneLine)).map spreadNote ++ told
  else shown ++ told

/-- What is told about why a text is no pattern. -/
def message (text : String) : Fault → String
  | malformed cause span earlier? =>
    let spans := (span :: earlier?.toList).mergeSort Span.le
    "\n".intercalate ("regex parse error:" :: report text spans cause)
  | tooLarge => "Compiled regex exceeds size limit of " ++ sizeLimit.repr ++ " bytes."

example : message "([" (.malformed .unclosedSet ⟨⟨1, 2⟩, ⟨1, 3⟩⟩ none) =
    "regex parse error:\n    ([\n     ^\nerror: unclosed character class" := by decide +kernel

end Fault

end TextShell.Pattern
