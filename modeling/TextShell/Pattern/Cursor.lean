import TextShell.Pattern.Expression
import TextShell.Text.Blank

/-!
# Cursors

A cursor is a place in the text of a pattern with what is left of the text and what has been read
that matters for the rest.

* `Cursor.length_next_lt`: moving on leaves less of the text.
-/

namespace TextShell.Pattern

/-- A place in the text of a pattern. -/
structure Cursor where
  /-- What is left of the text. -/
  rest : List Char
  /-- Where it starts. -/
  place : Place
  /-- Whether blank characters and comments are passed over. -/
  ignoresSpace : Bool
  /-- The names of the groups so far. -/
  names : List (List Char × Span)

namespace Cursor

/-- The start of a text. -/
def ofText (text : String) : Cursor where
  rest := text.toList
  place := .start
  ignoresSpace := false
  names := []

/-- The next character. -/
def char? (cursor : Cursor) : Option Char := cursor.rest.head?

/-- Whether nothing is left. -/
def atEnd (cursor : Cursor) : Bool := cursor.rest.isEmpty

/-- The empty part at the cursor. -/
def point (cursor : Cursor) : Span := .point cursor.place

/-- The part from a place up to the cursor. -/
def since (cursor : Cursor) (start : Place) : Span := ⟨start, cursor.place⟩

/-- The next character as a part of the text. -/
def charSpan (cursor : Cursor) : Span :=
  ⟨cursor.place, (cursor.char?.map cursor.place.after).getD cursor.place⟩

/-- The cursor behind the next character. -/
def bump (cursor : Cursor) : Cursor :=
  match cursor.rest with
  | [] => cursor
  | c :: rest => { cursor with rest, place := cursor.place.after c }

/-- The cursor behind a text that comes next. -/
def pass? (cursor : Cursor) (text : String) : Option Cursor :=
  if text.toList.isPrefixOf cursor.rest then some (text.toList.foldl (fun c _ => c.bump) cursor)
  else none

/-- What is left of a text behind blank characters and comments, and where it starts. A comment goes
from a number sign to the end of its line. -/
def dropSpace (inComment : Bool) : List Char → Place → List Char × Place
  | [], place => ([], place)
  | c :: rest, place =>
    if inComment then dropSpace (c ≠ '\n') rest (place.after c)
    else if Text.isBlank c then dropSpace false rest (place.after c)
    else if c = '#' then dropSpace true rest (place.after c)
    else (c :: rest, place)

/-- The cursor behind blank characters and comments, if they are passed over. -/
def skip (cursor : Cursor) : Cursor :=
  if cursor.ignoresSpace then
    { cursor with
      rest := (dropSpace false cursor.rest cursor.place).1
      place := (dropSpace false cursor.rest cursor.place).2 }
  else cursor

/-- The cursor behind the next character and what is passed over after it. -/
def next (cursor : Cursor) : Cursor := cursor.bump.skip

/-- Passing over blank characters leaves no more than there was. -/
theorem length_dropSpace_le (inComment : Bool) (text : List Char) (place : Place) :
    (dropSpace inComment text place).1.length ≤ text.length := by
  induction text generalizing inComment place with
  | nil => simp [dropSpace]
  | cons c rest ih =>
    simp only [dropSpace]
    repeat' split
    all_goals first
      | exact Nat.le_trans (ih _ _) (Nat.le_succ _)
      | exact Nat.le_refl _

/-- Passing over blank characters leaves no more than there was. -/
theorem length_skip_le (cursor : Cursor) : cursor.skip.rest.length ≤ cursor.rest.length := by
  unfold skip
  split
  · exact length_dropSpace_le _ _ _
  · exact Nat.le_refl _

/-- Moving on leaves less of the text. -/
theorem length_next_lt {cursor : Cursor} {c : Char} {rest : List Char}
    (h : cursor.rest = c :: rest) : cursor.next.rest.length < cursor.rest.length := by
  refine Nat.lt_of_le_of_lt (length_skip_le _) ?_
  simp [bump, h]

/-- The next characters for which something holds, and the cursor behind them. -/
def collect (accepts : Char → Bool) (cursor : Cursor) : List Char × Cursor :=
  match _h : cursor.rest with
  | [] => ([], cursor)
  | c :: _ =>
    if accepts c then (c :: (collect accepts cursor.next).1, (collect accepts cursor.next).2)
    else ([], cursor)
termination_by cursor.rest.length
decreasing_by all_goals exact length_next_lt _h

/-- The next characters up to the first for which something does not hold, blank or not, and the
cursor behind them. -/
def take (accepts : Char → Bool) (cursor : Cursor) : List Char × Cursor :=
  let text := cursor.rest.takeWhile accepts
  (text, text.foldl (fun cursor _ => cursor.bump) cursor)

/-- What comes behind blank characters in a text of which comments may be a part. Behind the start
of a comment nothing else is taken for one. -/
def peekFrom (inComment : Bool) : List Char → Option Char
  | [] => none
  | c :: rest =>
    if Text.isBlank c then peekFrom inComment rest
    else if !inComment && c = '#' then peekFrom true rest
    else some c

/-- The character behind the next one and what is passed over after it. -/
def peek? (cursor : Cursor) : Option Char :=
  if cursor.ignoresSpace then peekFrom false cursor.rest.tail else cursor.rest.tail.head?

end Cursor

end TextShell.Pattern
