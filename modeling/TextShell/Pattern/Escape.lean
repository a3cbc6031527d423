import TextShell.Pattern.Cursor

/-!
# Escapes

What a backslash and the characters behind it stand for: a character, a set of characters or a
condition on the place.

* `readEscape`: the escape at a cursor.
-/

namespace TextShell.Pattern

/-- Something wrong in a part of the text. -/
def fault (cause : Cause) (span : Span) : Fault := .malformed cause span none

/-- What an escape stands for. -/
inductive Escaped where
  /-- A character or a set of characters. -/
  | member (member : Member)
  /-- A condition on the place. -/
  | anchor (span : Span) (anchor : Anchor)
  deriving DecidableEq, Repr

/-- Where an escape stands. -/
def Escaped.span : Escaped → Span
  | member part => part.span
  | anchor span _ => span

/-- Whether a character is a hexadecimal digit. -/
def isHexDigit (c : Char) : Bool :=
  c.isDigit || ('a' ≤ c && c ≤ 'f') || ('A' ≤ c && c ≤ 'F')

/-- The value of a hexadecimal digit. -/
def hexDigitValue (c : Char) : Nat :=
  if c.isDigit then c.toNat - '0'.toNat else c.toLower.toNat - 'a'.toNat + 10

/-- The number that hexadecimal digits stand for. -/
def hexValue (digits : List Char) : Nat :=
  digits.foldl (fun value digit => value * 16 + hexDigitValue digit) 0

/-- The character whose code point the digits in a part of the text give. -/
def hexChar (digits : List Char) (span : Span) : Except Fault Char :=
  if (hexValue digits).isValidChar then .ok (Char.ofNat (hexValue digits))
  else .error (fault .noCharacter span)

/-- The given number of hexadecimal digits. -/
def readHexDigits : Nat → Cursor → Except Fault (List Char × Cursor)
  | 0, cursor => .ok ([], cursor)
  | count + 1, cursor =>
    match cursor.char? with
    | none => .error (fault .unfinishedEscape cursor.point)
    | some c =>
      if isHexDigit c then
        match readHexDigits count cursor.next with
        | .error fault => .error fault
        | .ok (digits, after) => .ok (c :: digits, after)
      else .error (fault .badHexDigit cursor.charSpan)

/-- A code point in braces, from the opening brace on. -/
def readBracedHex (start : Place) (cursor : Cursor) : Except Fault (Letter × Cursor) := do
  let (digits, atStop) := cursor.next.collect isHexDigit
  match atStop.char? with
  | none => .error (fault .unfinishedEscape (atStop.since cursor.place))
  | some '\x7d' =>
    let after := atStop.next
    if digits = [] then .error (fault .noHexDigits (after.since cursor.place))
    else
      let char ← hexChar digits ⟨cursor.charSpan.stop, atStop.place⟩
      .ok (⟨after.since start, char, false⟩, after)
  | some _ => .error (fault .badHexDigit atStop.charSpan)

/-- How many digits a code point has behind the letter that announces it. -/
def hexDigitCount (kind : Char) : Nat := if kind = 'x' then 2 else if kind = 'u' then 4 else 8

/-- A code point, from the letter that announces it on. -/
def readHex (start : Place) (kind : Char) (cursor : Cursor) : Except Fault (Letter × Cursor) := do
  let first := cursor.next
  if first.atEnd then .error (fault .unfinishedEscape first.point)
  else if first.char? = some '\x7b' then readBracedHex start first
  else
    let (digits, after) ← readHexDigits (hexDigitCount kind) first
    let char ← hexChar digits (after.since first.place)
    .ok (⟨after.since start, char, kind = 'x'⟩, after)

/-- The two parts of a text around the first place where another text stands, if it does. -/
def splitAt? (mark : List Char) : List Char → Option (List Char × List Char)
  | [] => none
  | c :: rest =>
    if mark.isPrefixOf (c :: rest) then some ([], (c :: rest).drop mark.length)
    else (splitAt? mark rest).map fun (front, back) => (c :: front, back)

/-- The property that a text in braces asks for. A value may stand behind any of three signs, which
all mean the same. -/
def queryOfText (text : List Char) : PropertyQuery :=
  match splitAt? ['!', '='] text, splitAt? [':'] text, splitAt? ['='] text with
  | some (name, value), _, _ | none, some (name, value), _ | none, none, some (name, value) =>
    .valued name value
  | none, none, none => .named text

/-- A property, from the letter that announces it on. -/
def readProperty (start : Place) (negated : Bool) (cursor : Cursor) :
    Except Fault (Member × Cursor) :=
  let first := cursor.next
  match first.char? with
  | none => .error (fault .unfinishedEscape first.point)
  | some '\x7b' =>
    let (text, atStop) := first.next.collect (· ≠ '\x7d')
    if atStop.atEnd then .error (fault .unfinishedEscape atStop.point)
    else
      let after := atStop.bump
      .ok (.property (after.since start) negated (queryOfText text), after)
  | some '\\' => .error (fault .badPropertyName first.charSpan)
  | some c =>
    let after := first.next
    .ok (.property (after.since start) negated (.named [c]), after)

/-- Whether a character can be part of the name of a kind of word boundary. -/
def isBoundaryCharacter (c : Char) : Bool := c.isAlpha || c = '-'

/-- The kind of word boundary with a name. -/
def boundary? (name : List Char) : Option Anchor :=
  match String.ofList name with
  | "start" => some .wordStart
  | "end" => some .wordEnd
  | "start-half" => some .wordStartHalf
  | "end-half" => some .wordEndHalf
  | _ => none

/-- A word boundary, from behind its letter on. A name in braces tells its kind; other braces do not
belong to it. -/
def readBoundary (start : Place) (cursor : Cursor) : Except Fault (Escaped × Cursor) :=
  let plain := (Escaped.anchor (cursor.since start) .wordBoundary, cursor)
  if cursor.char? = some '\x7b' then
    let first := cursor.next
    match first.char? with
    | none => .error (fault .unfinishedBoundary (first.since start))
    | some c =>
      if isBoundaryCharacter c then
        let (name, atStop) := first.collect isBoundaryCharacter
        if atStop.char? = some '\x7d' then
          match boundary? name with
          | some anchor => .ok (.anchor (atStop.bump.since start) anchor, atStop.bump)
          | none => .error (fault .unknownBoundary (atStop.since first.place))
        else .error (fault .unclosedBoundary (atStop.since cursor.place))
      else .ok plain
  else .ok plain

/-- Whether a backslash before a character only makes it stand for itself. -/
def isEscapable (c : Char) : Bool :=
  c.toNat < 0x80 && !c.isAlphanum && c ≠ '<' && c ≠ '>'

/-- The character that a letter behind a backslash stands for. -/
def escapedChar? : Char → Option Char
  | 'a' => some '\x07'
  | 'f' => some '\x0c'
  | 't' => some '\t'
  | 'n' => some '\n'
  | 'r' => some '\r'
  | 'v' => some '\x0b'
  | c => if isEscapable c then some c else none

/-- The condition that a character behind a backslash stands for. -/
def escapedAnchor? : Char → Option Anchor
  | 'A' => some .textStart
  | 'z' => some .textEnd
  | 'B' => some .noWordBoundary
  | '<' => some .wordStart
  | '>' => some .wordEnd
  | _ => none

/-- The set that a letter behind a backslash stands for, and whether all others are meant. -/
def escapedShorthand? : Char → Option (Bool × Shorthand)
  | 'd' => some (false, .digit)
  | 'D' => some (true, .digit)
  | 's' => some (false, .space)
  | 'S' => some (true, .space)
  | 'w' => some (false, .word)
  | 'W' => some (true, .word)
  | _ => none

/-- What one character behind a backslash stands for, from that character on. -/
def readSimpleEscape (start : Place) (c : Char) (cursor : Cursor) :
    Except Fault (Escaped × Cursor) :=
  let after := cursor.bump
  let span := after.since start
  match escapedChar? c, escapedAnchor? c, escapedShorthand? c with
  | some char, _, _ => .ok (.member (.letter ⟨span, char, false⟩), after)
  | none, some anchor, _ => .ok (.anchor span anchor, after)
  | none, none, some (negated, kind) => .ok (.member (.shorthand span negated kind), after)
  | none, none, none => .error (fault .unknownEscape span)

/-- What an escape stands for, from the backslash on. -/
def readEscape (cursor : Cursor) : Except Fault (Escaped × Cursor) := do
  let start := cursor.place
  let cursor := cursor.bump
  match cursor.char? with
  | none => .error (fault .unfinishedEscape (cursor.since start))
  | some c =>
    if c.isDigit then .error (fault .backreference ⟨start, cursor.charSpan.stop⟩)
    else if c = 'x' ∨ c = 'u' ∨ c = 'U' then
      let (letter, after) ← readHex start c cursor
      .ok (.member (.letter letter), after)
    else if c = 'p' ∨ c = 'P' then
      let (property, after) ← readProperty start (c = 'P') cursor
      .ok (.member property, after)
    else if c = 'b' then readBoundary start cursor.bump
    else readSimpleEscape start c cursor

end TextShell.Pattern
