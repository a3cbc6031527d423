import TextShell.Pattern.Group
import TextShell.Pattern.SetReading

/-!
# Reading patterns

A pattern is read part by part. Parts follow one another in branches, branches make up a group or
the whole pattern, and groups that have been opened are kept until they are closed.

* `Expression.read`: the pattern that a text describes, or what is wrong with it.
-/

namespace TextShell.Pattern

/-- A group or the whole pattern as far as it has been read. -/
structure Level where
  /-- Where the first branch starts. -/
  start : Place
  /-- The branches that are complete, the last one first. -/
  branches : List Expression
  /-- Where the branch under way starts. -/
  branchStart : Place
  /-- The parts of the branch under way, the last one first. -/
  parts : List Expression

namespace Level

/-- Nothing yet at a place. -/
def startAt (place : Place) : Level := ⟨place, [], place, []⟩

/-- One more part. -/
def push (level : Level) (part : Expression) : Level := { level with parts := part :: level.parts }

/-- The branch under way, which ends at a place. -/
def branch (level : Level) (stop : Place) : Expression :=
  match level.parts with
  | [] => .empty ⟨level.branchStart, stop⟩
  | [part] => part
  | parts => .sequence ⟨level.branchStart, stop⟩ parts.reverse

/-- The start of another branch at a place behind the sign between them. -/
def alternate (level : Level) (stop next : Place) : Level :=
  ⟨level.start, level.branch stop :: level.branches, next, []⟩

/-- All that has been read as one expression, which ends at a place. -/
def close (level : Level) (stop : Place) : Expression :=
  match level.branches with
  | [] => level.branch stop
  | branches => .alternation ⟨level.start, stop⟩ (level.branch stop :: branches).reverse

end Level

/-- A group that has been opened and not closed. -/
structure OpenGroup where
  /-- Its opening parenthesis. -/
  opening : Span
  /-- Its flags. -/
  items : List FlagItem
  /-- Whether what it matches is kept. -/
  keeps : Bool
  /-- Whether blank characters were passed over before it. -/
  ignoredSpace : Bool
  /-- What it stands in. -/
  around : Level

/-- What has been read of a pattern: the innermost group, and the open groups from the inside to the
outside. -/
structure Progress where
  /-- The innermost group, or the pattern if no group is open. -/
  level : Level
  /-- The groups that are open. -/
  groups : List OpenGroup

/-- The same with one more part. -/
def Progress.push (progress : Progress) (part : Expression) : Progress :=
  { progress with level := progress.level.push part }

/-- The greatest number that a repetition may have. -/
def countLimit : Nat := Nat.pow 2 32 - 1

/-- The number that decimal digits stand for. -/
def decimalValue (digits : List Char) : Nat :=
  digits.foldl (fun value digit => value * 10 + (digit.toNat - '0'.toNat)) 0

/-- A number of a repetition, with blanks around it. -/
def readCount (cursor : Cursor) : Except Fault Nat × Cursor :=
  let first := (cursor.collect Text.isBlank).2
  let (digits, atStop) := first.collect (·.isDigit)
  let span := atStop.since first.place
  let count :=
    if digits = [] then .error (fault .repetitionNumber span)
    else if decimalValue digits ≤ countLimit then .ok (decimalValue digits)
    else .error (fault .badNumber span)
  (count, (atStop.collect Text.isBlank).2)

/-- The numbers of a repetition, from the opening brace up to the closing one. -/
def readCounts (cursor : Cursor) : Except Fault ((Nat × Option Nat) × Cursor) := do
  let unclosed (stop : Cursor) := fault .unclosedRepetition (stop.since cursor.place)
  let first := cursor.next
  if first.atEnd then throw (unclosed first)
  let (least, cursor) := readCount first
  match cursor.char? with
  | none => .error (unclosed cursor)
  | some ',' =>
    let cursor := cursor.next
    match cursor.char? with
    | none => .error (unclosed cursor)
    | some '\x7d' =>
      let least ← least
      .ok ((least, none), cursor)
    | some _ =>
      let least ← least
      let (greatest, cursor) := readCount cursor
      let greatest ← greatest
      if cursor.char? ≠ some '\x7d' then throw (unclosed cursor)
      .ok ((least, some greatest), cursor)
  | some c =>
    let least ← least
    if c ≠ '\x7d' then throw (unclosed cursor)
    .ok ((least, some least), cursor)

/-- The cursor behind a question mark, if one comes next. It tells that fewer matches are preferred,
which does not matter here. -/
def passLazy (cursor : Cursor) : Cursor := if cursor.char? = some '?' then cursor.bump else cursor

/-- The last part of a branch and those before it, if it can be repeated. -/
def Level.repeatable (level : Level) (cursor : Cursor) :
    Except Fault (Expression × List Expression) :=
  match level.parts with
  | [] | .empty _ :: _ | .flags _ _ :: _ => .error (fault .nothingToRepeat cursor.point)
  | part :: parts => .ok (part, parts)

/-- The last part repeated as often as the numbers in braces say. -/
def readCounted (progress : Progress) (cursor : Cursor) : Except Fault (Progress × Cursor) := do
  let (body, parts) ← progress.level.repeatable cursor
  let ((least, greatest?), atStop) ← readCounts cursor
  let after := passLazy atStop.next
  if greatest?.any (· < least) then throw (fault .emptyRepetition (after.since cursor.place))
  let part := .repetition (after.since body.span.start) least greatest? body
  .ok ({ progress with level := { progress.level with parts := part :: parts } }, after)

/-- The last part repeated as often as a single sign says. -/
def readUncounted (least : Nat) (greatest? : Option Nat) (progress : Progress) (cursor : Cursor) :
    Except Fault (Progress × Cursor) := do
  let (body, parts) ← progress.level.repeatable cursor
  let after := passLazy cursor.bump
  let part := .repetition (after.since body.span.start) least greatest? body
  .ok ({ progress with level := { progress.level with parts := part :: parts } }, after)

/-- What an opening parenthesis begins. -/
def readGroup (progress : Progress) (cursor : Cursor) : Except Fault (Progress × Cursor) := do
  match ← readOpening cursor with
  | (.flags span items, after) =>
    let ignoresSpace := (flagState? .ignoreSpace true items).getD after.ignoresSpace
    .ok (progress.push (.flags span items), { after with ignoresSpace })
  | (.group opening items keeps, after) =>
    let group : OpenGroup := ⟨opening, items, keeps, after.ignoresSpace, progress.level⟩
    let ignoresSpace := (flagState? .ignoreSpace true items).getD after.ignoresSpace
    .ok (⟨.startAt after.place, group :: progress.groups⟩, { after with ignoresSpace })

/-- The innermost group closed at a closing parenthesis. -/
def closeGroup (progress : Progress) (cursor : Cursor) : Except Fault (Progress × Cursor) :=
  match progress.groups with
  | [] => .error (fault .unopenedGroup cursor.charSpan)
  | group :: groups =>
    let after := { cursor.bump with ignoresSpace := group.ignoredSpace }
    let part := .group (after.since group.opening.start) group.items group.keeps
      (progress.level.close cursor.place)
    .ok (⟨group.around.push part, groups⟩, after)

/-- What an escape is as a part of a pattern. -/
def Escaped.asPart : Escaped → Expression
  | member part => .member part
  | anchor span kind => .anchor span kind

/-- A part that no sign with another meaning begins. -/
def readPlain (cursor : Cursor) (c : Char) : Except Fault (Expression × Cursor) := do
  let span := cursor.charSpan
  match c with
  | '\\' =>
    let (escaped, after) ← readEscape cursor
    .ok (escaped.asPart, after)
  | '.' => .ok (.dot span, cursor.bump)
  | '^' => .ok (.anchor span .lineStart, cursor.bump)
  | '$' => .ok (.anchor span .lineEnd, cursor.bump)
  | c => .ok (.member (.letter ⟨span, c, false⟩), cursor.bump)

/-- One more part of a pattern, or the start or end of a group or branch. -/
def readStep (progress : Progress) (cursor : Cursor) (c : Char) :
    Except Fault (Progress × Cursor) := do
  match c with
  | '(' => readGroup progress cursor
  | ')' => closeGroup progress cursor
  | '|' =>
    let after := cursor.bump
    .ok ({ progress with level := progress.level.alternate cursor.place after.place }, after)
  | '[' =>
    let (part, after) ← readBracketed cursor
    .ok (progress.push part, after)
  | '?' => readUncounted 0 (some 1) progress cursor
  | '*' => readUncounted 0 none progress cursor
  | '+' => readUncounted 1 none progress cursor
  | '\x7b' => readCounted progress cursor
  | c =>
    let (part, after) ← readPlain cursor c
    .ok (progress.push part, after)

/-- The whole pattern at the end of its text. -/
def Progress.finish (progress : Progress) (stop : Place) : Except Fault Expression :=
  match progress.groups with
  | [] => .ok (progress.level.close stop)
  | group :: _ => .error (fault .unclosedGroup group.opening)

/-- The pattern from a cursor on. -/
def readFrom (progress : Progress) (cursor : Cursor) : Except Fault Expression :=
  match cursor.skip.char? with
  | none => progress.finish cursor.skip.place
  | some c =>
    match readStep progress cursor.skip c with
    | .error fault => .error fault
    | .ok (progress, after) =>
      -- every step takes at least one character
      if after.rest.length < cursor.rest.length then readFrom progress after
      else progress.finish after.place
termination_by cursor.rest.length

/-- The pattern that a text describes. -/
def Expression.read (text : String) : Except Fault Expression := do
  let cursor := Cursor.ofText text
  let expression ← readFrom ⟨.startAt cursor.place, []⟩ cursor
  match expression.tooDeep? depthLimit with
  | some span => .error (fault .tooDeep span)
  | none => .ok expression

end TextShell.Pattern
