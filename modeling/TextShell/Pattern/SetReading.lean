import TextShell.Pattern.Escape

/-!
# Reading sets in brackets

A set of characters in brackets is read member by member. Sets may stand within sets, and two sets
may be put together by an operation between them.

* `readBracketed`: the set at a cursor.
-/

namespace TextShell.Pattern

/-- Members of a set one after the other, as far as they have been read. -/
structure MemberRun where
  /-- Where the members stand. -/
  span : Span
  /-- The members, the last one first. -/
  parts : List SetExpression

namespace MemberRun

/-- No members yet at a place. -/
def start (place : Place) : MemberRun := ⟨.point place, []⟩

/-- One more member. -/
def push (run : MemberRun) (part : SetExpression) : MemberRun where
  span := ⟨if run.parts = [] then part.span.start else run.span.start, part.span.stop⟩
  parts := part :: run.parts

/-- The members as one expression. -/
def close (run : MemberRun) : SetExpression :=
  match run.parts with
  | [] => .empty run.span
  | [part] => part
  | parts => .union run.span parts.reverse

end MemberRun

/-- A set that has been opened and not closed. -/
structure OpenSet where
  /-- Its opening bracket and what belongs to it. -/
  opening : Span
  /-- Whether all characters but its members are meant. -/
  negated : Bool
  /-- What comes before an operation, and the operation. -/
  pending? : Option (SetExpression × SetOperation)
  /-- The members since then. -/
  run : MemberRun

namespace OpenSet

/-- One more member. -/
def push (set : OpenSet) (part : SetExpression) : OpenSet :=
  { set with run := set.run.push part }

/-- What has been read so far as one expression. Operations are carried out from left to right. -/
def content (set : OpenSet) : SetExpression :=
  match set.pending? with
  | none => set.run.close
  | some (left, operation) =>
    .combined ⟨left.span.start, set.run.close.span.stop⟩ operation left set.run.close

/-- The set before the members behind an operation. -/
def operate (set : OpenSet) (operation : SetOperation) (place : Place) : OpenSet :=
  { set with
    pending? := some (set.content, operation)
    run := .start place }

end OpenSet

/-- The hyphens at the start of a set, which stand for themselves. -/
def readHyphens (start : Place) (run : MemberRun) (cursor : Cursor) :
    Except Fault (MemberRun × Cursor) :=
  match _h : cursor.rest with
  | '-' :: _ =>
    let run := run.push (.member (.letter ⟨cursor.charSpan, '-', false⟩))
    if cursor.next.atEnd then .error (fault .unclosedSet (.point start))
    else readHyphens start run cursor.next
  | _ => .ok (run, cursor)
termination_by cursor.rest.length
decreasing_by exact Cursor.length_next_lt _h

/-- The start of a set, from the opening bracket on. A closing bracket right behind it stands for
itself. -/
def openSet (cursor : Cursor) : Except Fault (OpenSet × Cursor) := do
  let start := cursor.place
  let cursor := cursor.next
  if cursor.atEnd then throw (fault .unclosedSet (cursor.since start))
  let negated := cursor.char? = some '^'
  let cursor := if negated then cursor.next else cursor
  if cursor.atEnd then throw (fault .unclosedSet (cursor.since start))
  let (run, cursor) ← readHyphens start (.start cursor.place) cursor
  if run.parts.isEmpty && cursor.char? = some ']' then
    let run := run.push (.member (.letter ⟨cursor.charSpan, ']', false⟩))
    let cursor := cursor.next
    if cursor.atEnd then throw (fault .unclosedSet (cursor.since start))
    .ok (⟨cursor.since start, negated, none, run⟩, cursor)
  else .ok (⟨cursor.since start, negated, none, run⟩, cursor)

/-- The set of ASCII characters with a name. -/
def asciiSet? (name : List Char) : Option AsciiSet :=
  match String.ofList name with
  | "alnum" => some .alnum
  | "alpha" => some .alpha
  | "ascii" => some .ascii
  | "blank" => some .blank
  | "cntrl" => some .cntrl
  | "digit" => some .digit
  | "graph" => some .graph
  | "lower" => some .lower
  | "print" => some .print
  | "punct" => some .punct
  | "space" => some .space
  | "upper" => some .upper
  | "word" => some .word
  | "xdigit" => some .xdigit
  | _ => none

/-- A set of ASCII characters by its name, from the opening bracket on, if there is one. -/
def readAsciiSet? (cursor : Cursor) : Option (SetExpression × Cursor) := do
  let inside ← cursor.pass? "[:"
  let negated := inside.char? = some '^'
  let (name, atStop) := (if negated then inside.bump else inside).take (· ≠ ':')
  let after ← atStop.pass? ":]"
  let kind ← asciiSet? name
  some (.ascii (after.since cursor.place) negated kind, after)

/-- A character or an escape among the members of a set. -/
def readSetItem (cursor : Cursor) : Except Fault (Escaped × Cursor) :=
  match cursor.char? with
  | some '\\' => readEscape cursor
  | some c => .ok (.member (.letter ⟨cursor.charSpan, c, false⟩), cursor.bump)
  | none => .error (fault .unclosedSet cursor.point)

/-- What an escape is as a member of a set. -/
def Escaped.asMember : Escaped → Except Fault SetExpression
  | member part => .ok (.member part)
  | anchor span _ => .error (fault .escapeInSet span)

/-- What an escape is as the end of a range. -/
def Escaped.asRangeEnd : Escaped → Except Fault Letter
  | member (.letter letter) => .ok letter
  | other => .error (fault .rangeEnd other.span)

/-- A member of a set or a range of characters. A hyphen before the closing bracket or another
hyphen makes no range. -/
def readSetPart (opening : Span) (cursor : Cursor) : Except Fault (SetExpression × Cursor) := do
  let (first, cursor) ← readSetItem cursor
  let cursor := cursor.skip
  if cursor.atEnd then throw (fault .unclosedSet opening)
  if cursor.char? ≠ some '-' ∨ cursor.peek? = some ']' ∨ cursor.peek? = some '-' then
    let part ← first.asMember
    .ok (part, cursor)
  else
    let cursor := cursor.next
    if cursor.atEnd then throw (fault .unclosedSet opening)
    let (last, cursor) ← readSetItem cursor
    let span : Span := ⟨first.span.start, last.span.stop⟩
    let low ← first.asRangeEnd
    let high ← last.asRangeEnd
    if high.char < low.char then throw (fault .emptyRange span)
    .ok (.range span low high, cursor)

/-- What comes of one more item of a set. -/
inductive SetStep where
  /-- The sets that are open, the innermost one and those around it. -/
  | inside (set : OpenSet) (outer : List OpenSet)
  /-- The outermost set is closed. -/
  | closed (set : Expression)

/-- The set closed at a closing bracket. -/
def closeSet (set : OpenSet) (outer : List OpenSet) (cursor : Cursor) : SetStep × Cursor :=
  let after := cursor.bump
  let span := after.since set.opening.start
  match outer with
  | [] => (.closed (.bracketed span set.negated set.content), after)
  | parent :: outer =>
    (.inside (parent.push (.bracketed span set.negated set.content)) outer, after)

/-- A set or the name of a set within a set. -/
def readInnerSet (set : OpenSet) (outer : List OpenSet) (cursor : Cursor) :
    Except Fault (SetStep × Cursor) := do
  match readAsciiSet? cursor with
  | some (part, after) => .ok (.inside (set.push part) outer, after)
  | none =>
    let (inner, after) ← openSet cursor
    .ok (.inside inner (set :: outer), after)

/-- The operation at a cursor and the cursor behind it, if there is one. -/
def setOperation? (cursor : Cursor) : Option (SetOperation × Cursor) :=
  ((cursor.pass? "&&").map (.inter, ·)).or
    (((cursor.pass? "--").map (.diff, ·)).or ((cursor.pass? "~~").map (.symmDiff, ·)))

/-- One more item of a set. -/
def readSetStep (set : OpenSet) (outer : List OpenSet) (cursor : Cursor) :
    Except Fault (SetStep × Cursor) := do
  match cursor.char? with
  | none => .error (fault .unclosedSet set.opening)
  | some '[' => readInnerSet set outer cursor
  | some ']' => .ok (closeSet set outer cursor)
  | some _ =>
    match setOperation? cursor with
    | some (operation, after) => .ok (.inside (set.operate operation after.place) outer, after)
    | none =>
      let (part, after) ← readSetPart set.opening cursor
      .ok (.inside (set.push part) outer, after)

/-- The items of a set up to its closing bracket. -/
def readSetItems (set : OpenSet) (outer : List OpenSet) (cursor : Cursor) :
    Except Fault (Expression × Cursor) :=
  match readSetStep set outer cursor.skip with
  | .error fault => .error fault
  | .ok (.closed expression, after) => .ok (expression, after)
  | .ok (.inside set outer, after) =>
    -- every item takes at least one character
    if after.rest.length < cursor.rest.length then readSetItems set outer after
    else .error (fault .unclosedSet set.opening)
termination_by cursor.rest.length

/-- A set in brackets, from the opening bracket on. -/
def readBracketed (cursor : Cursor) : Except Fault (Expression × Cursor) := do
  let (set, cursor) ← openSet cursor
  readSetItems set [] cursor

end TextShell.Pattern
