import TextShell.Pattern.Escape
import TextShell.Text.Property

/-!
# Openings of groups

What stands between an opening parenthesis and the first part of the group: nothing, a name or
flags. Flags that are closed at once are no group but hold for what follows.

* `readOpening`: the opening at a cursor.
-/

namespace TextShell.Pattern

/-- What an opening parenthesis begins. -/
inductive Opening where
  /-- Flags for what follows in the same group. -/
  | flags (span : Span) (items : List FlagItem)
  /-- A group with flags of its own; what it matches may be kept. -/
  | group (span : Span) (items : List FlagItem) (keeps : Bool)
  deriving DecidableEq, Repr

/-- Whether a character can be the first one in the name of a group. -/
def isNameStart (c : Char) : Bool := c = '_' || Text.isAlphabetic c

/-- Whether a character can be a later one in the name of a group. -/
def isNamePart (c : Char) : Bool :=
  c = '_' || c = '.' || c = '[' || c = ']' || Text.isAlphanumeric c

/-- The name of a group up to the sign that closes it, which is passed over. -/
def readName (cursor : Cursor) : Except Fault Cursor := do
  let start := cursor.place
  let (name, atStop) :=
    if cursor.char?.any isNameStart then cursor.take isNamePart else ([], cursor)
  match atStop.char? with
  | none => .error (fault .unclosedName atStop.point)
  | some '>' =>
    let span := atStop.since start
    if name = [] then .error (fault .emptyName span)
    else match atStop.names.find? (·.1 = name) with
      | some (_, earlier) => .error (.malformed .repeatedName span (some earlier))
      | none => .ok { atStop.bump with names := atStop.names ++ [(name, span)] }
  | some _ => .error (fault .badNameCharacter atStop.charSpan)

/-- The flag that a letter stands for. -/
def flag? : Char → Option Flag
  | 'i' => some .ignoreCase
  | 'm' => some .multiLine
  | 's' => some .dotAll
  | 'U' => some .swapGreed
  | 'u' => some .unicode
  | 'R' => some .crlf
  | 'x' => some .ignoreSpace
  | _ => none

/-- The item of a list of flags that a character stands for. -/
def flagItem? (c : Char) : Option FlagItem :=
  if c = '-' then some .negation else (flag? c).map .flag

/-- What is wrong if an item is given twice. -/
def FlagItem.repeatedCause : FlagItem → Cause
  | negation => .repeatedNegation
  | flag _ => .repeatedFlag

/-- The items of a list of flags, from a character on and with those before it, up to a colon or a
closing parenthesis. -/
def readFlagItems (items : List (FlagItem × Span)) : List Char → Place →
    Except Fault (List (FlagItem × Span))
  | [], place => .error (fault .unfinishedFlags (.point place))
  | c :: rest, place =>
    if c = ':' ∨ c = ')' then
      match items.getLast? with
      | some (.negation, span) => .error (fault .danglingNegation span)
      | _ => .ok items
    else
      let span : Span := ⟨place, place.after c⟩
      match flagItem? c with
      | none => .error (fault .unknownFlag span)
      | some item =>
        match items.find? (·.1 = item) with
        | some (_, earlier) => .error (.malformed item.repeatedCause span (some earlier))
        | none => readFlagItems (items ++ [(item, span)]) rest (place.after c)

/-- The flags of a group or for what follows, from behind the question mark on. -/
def readFlags (opening inner : Span) (cursor : Cursor) : Except Fault (Opening × Cursor) := do
  let items := (← readFlagItems [] cursor.rest cursor.place).map (·.1)
  let atStop := (cursor.take fun c => c ≠ ':' && c ≠ ')').2
  let after := atStop.bump
  if atStop.char? = some ':' then .ok (.group opening items false, after)
  else if items = [] then .error (fault .nothingToRepeat inner)
  else .ok (.flags (after.since opening.start) items, after)

/-- The cursor behind the sign for looking at what is around a match, if it comes next. -/
def passLookAround? (cursor : Cursor) : Option Cursor :=
  ["?=", "?!", "?<=", "?<!"].findSome? cursor.pass?

/-- What an opening parenthesis begins, from there on. -/
def readOpening (cursor : Cursor) : Except Fault (Opening × Cursor) := do
  let opening := cursor.charSpan
  let inner := cursor.next
  match passLookAround? inner with
  | some after => .error (fault .lookAround (after.since opening.start))
  | none =>
    match (inner.pass? "?P<").or (inner.pass? "?<"), inner.pass? "?" with
    | some name, _ =>
      let after ← readName name
      .ok (.group opening [] true, after)
    | none, some items =>
      if items.atEnd then .error (fault .unclosedGroup opening)
      else readFlags opening inner.point items
    | none, none => .ok (.group opening [] true, inner)

end TextShell.Pattern
