import TextShell.Pattern.Fault

/-!
# Pattern expressions

A pattern as it is written: which parts it consists of and where they stand. What the parts mean,
which depends on the flags that are set, is told elsewhere.

* `Expression.tooDeep?`: the first part that is nested too deeply.
-/

namespace TextShell.Pattern

/-- A way in which patterns are read. -/
inductive Flag where
  /-- Case does not matter. -/
  | ignoreCase
  /-- The start and end of a line count as those of the text. -/
  | multiLine
  /-- The dot stands for line ends, too. -/
  | dotAll
  /-- Repetitions prefer fewer matches. -/
  | swapGreed
  /-- Characters beyond ASCII have properties. -/
  | unicode
  /-- Carriage returns end lines, too. -/
  | crlf
  /-- Blank characters and comments do not count. -/
  | ignoreSpace
  deriving DecidableEq, Repr

/-- An item in a list of flags. -/
inductive FlagItem where
  /-- The flags behind this sign are turned off. -/
  | negation
  /-- A flag. -/
  | flag (flag : Flag)
  deriving DecidableEq, Repr

/-- Whether a list of flags turns a flag on or off, if it does either. -/
def flagState? (flag : Flag) : Bool → List FlagItem → Option Bool
  | _, [] => none
  | _, .negation :: items => flagState? flag false items
  | on, .flag other :: items => if other = flag then some on else flagState? flag on items

/-- A single character as it is written. -/
structure Letter where
  /-- Where it stands. -/
  span : Span
  /-- The character. -/
  char : Char
  /-- Whether it is written as two hexadecimal digits, which can stand for a byte. -/
  isByte : Bool
  deriving DecidableEq, Repr

/-- A set of characters with a short name. -/
inductive Shorthand where
  /-- Digits. -/
  | digit
  /-- White space. -/
  | space
  /-- Characters of words. -/
  | word
  deriving DecidableEq, Repr

/-- A set of ASCII characters that can be a member of a set. -/
inductive AsciiSet where
  /-- Letters and digits. -/
  | alnum
  /-- Letters. -/
  | alpha
  /-- All of ASCII. -/
  | ascii
  /-- The space and the tab. -/
  | blank
  /-- Control characters. -/
  | cntrl
  /-- Digits. -/
  | digit
  /-- Characters that are shown. -/
  | graph
  /-- Letters in lower case. -/
  | lower
  /-- Characters that are shown, and the space. -/
  | print
  /-- Punctuation. -/
  | punct
  /-- White space. -/
  | space
  /-- Letters in upper case. -/
  | upper
  /-- Characters of words. -/
  | word
  /-- Hexadecimal digits. -/
  | xdigit
  deriving DecidableEq, Repr

/-- A property that characters are asked for. -/
inductive PropertyQuery where
  /-- A property without a value, or a value of one of the best known properties. -/
  | named (name : List Char)
  /-- A property with a value. -/
  | valued (name value : List Char)
  deriving DecidableEq, Repr

/-- A member of a set of characters that is a set or character of its own. -/
inductive Member where
  /-- A character. -/
  | letter (letter : Letter)
  /-- A set with a short name, or all other characters. -/
  | shorthand (span : Span) (negated : Bool) (kind : Shorthand)
  /-- The characters with a property, or all others. -/
  | property (span : Span) (negated : Bool) (query : PropertyQuery)
  deriving DecidableEq, Repr

/-- Where a member stands. -/
def Member.span : Member → Span
  | letter single => single.span
  | shorthand span _ _ => span
  | property span _ _ => span

/-- How two sets of characters are put together. -/
inductive SetOperation where
  /-- What is in both. -/
  | inter
  /-- What is in the first only. -/
  | diff
  /-- What is in one of them only. -/
  | symmDiff
  deriving DecidableEq, Repr

/-- What stands between the brackets of a set of characters. -/
inductive SetExpression where
  /-- Nothing. -/
  | empty (span : Span)
  /-- A character, a set with a short name or a property. -/
  | member (member : Member)
  /-- The characters between two others. -/
  | range (span : Span) (first last : Letter)
  /-- A set of ASCII characters, or all other characters. -/
  | ascii (span : Span) (negated : Bool) (kind : AsciiSet)
  /-- A set in brackets of its own, or all other characters. -/
  | bracketed (span : Span) (negated : Bool) (set : SetExpression)
  /-- Several of these one after the other. -/
  | union (span : Span) (parts : List SetExpression)
  /-- Two of these put together. -/
  | combined (span : Span) (operation : SetOperation) (left right : SetExpression)

/-- Where a part of a set stands. -/
def SetExpression.span : SetExpression → Span
  | empty span => span
  | member part => part.span
  | range span _ _ => span
  | ascii span _ _ => span
  | bracketed span _ _ => span
  | union span _ => span
  | combined span _ _ _ => span

/-- A condition on the place in a text. -/
inductive Anchor where
  /-- The start of a line, or of the text. -/
  | lineStart
  /-- The end of a line, or of the text. -/
  | lineEnd
  /-- The start of the text. -/
  | textStart
  /-- The end of the text. -/
  | textEnd
  /-- The start or end of a word. -/
  | wordBoundary
  /-- No start or end of a word. -/
  | noWordBoundary
  /-- The start of a word. -/
  | wordStart
  /-- The end of a word. -/
  | wordEnd
  /-- No word goes up to here. -/
  | wordStartHalf
  /-- No word goes on from here. -/
  | wordEndHalf
  deriving DecidableEq, Repr

/-- A pattern as it is written. -/
inductive Expression where
  /-- Nothing. -/
  | empty (span : Span)
  /-- Flags for what follows in the same group. -/
  | flags (span : Span) (items : List FlagItem)
  /-- A character, a set with a short name or a property. -/
  | member (member : Member)
  /-- Any character. -/
  | dot (span : Span)
  /-- A condition on the place. -/
  | anchor (span : Span) (anchor : Anchor)
  /-- A set of characters in brackets, or all other characters. -/
  | bracketed (span : Span) (negated : Bool) (set : SetExpression)
  /-- A part from a least to a greatest number of times, if there is one. -/
  | repetition (span : Span) (least : Nat) (greatest? : Option Nat) (body : Expression)
  /-- A part in parentheses with flags of its own; what it matches may be kept. -/
  | group (span : Span) (items : List FlagItem) (keeps : Bool) (body : Expression)
  /-- Parts of which one is to match. -/
  | alternation (span : Span) (branches : List Expression)
  /-- Parts one after the other. -/
  | sequence (span : Span) (parts : List Expression)

/-- Where a part of a pattern stands. -/
def Expression.span : Expression → Span
  | empty span => span
  | flags span _ => span
  | member part => part.span
  | dot span => span
  | anchor span _ => span
  | bracketed span _ _ => span
  | repetition span _ _ _ => span
  | group span _ _ _ => span
  | alternation span _ => span
  | sequence span _ => span

mutual

/-- The first part of a set below which there are more than the given number of levels. -/
def SetExpression.tooDeep? (levels : Nat) : SetExpression → Option Span
  | empty _ | member _ | range _ _ _ | ascii _ _ _ => none
  | bracketed span _ set =>
    match levels with
    | 0 => some span
    | levels + 1 => set.tooDeep? levels
  | union span parts =>
    match levels with
    | 0 => some span
    | levels + 1 => SetExpression.anyTooDeep? levels parts
  | combined span _ left right =>
    match levels with
    | 0 => some span
    | levels + 1 => (left.tooDeep? levels).or (right.tooDeep? levels)

/-- The first of several parts of a set below which there are too many levels. -/
def SetExpression.anyTooDeep? (levels : Nat) : List SetExpression → Option Span
  | [] => none
  | part :: parts => (part.tooDeep? levels).or (SetExpression.anyTooDeep? levels parts)

end

mutual

/-- The first part of a pattern below which there are more than the given number of levels. -/
def Expression.tooDeep? (levels : Nat) : Expression → Option Span
  | empty _ | flags _ _ | member _ | dot _ | anchor _ _ => none
  | bracketed span _ set =>
    match levels with
    | 0 => some span
    | levels + 1 => set.tooDeep? levels
  | repetition span _ _ body | group span _ _ body =>
    match levels with
    | 0 => some span
    | levels + 1 => body.tooDeep? levels
  | alternation span parts | sequence span parts =>
    match levels with
    | 0 => some span
    | levels + 1 => Expression.anyTooDeep? levels parts

/-- The first of several parts of a pattern below which there are too many levels. -/
def Expression.anyTooDeep? (levels : Nat) : List Expression → Option Span
  | [] => none
  | part :: parts => (part.tooDeep? levels).or (Expression.anyTooDeep? levels parts)

end

end TextShell.Pattern
