import TextShell.Pattern.Basic
import TextShell.Text.EncodedRanges

/-!
# Sizes of patterns

How much room a pattern takes when its repetitions are written out. Every state that a search for it
could be in takes room, and so does every way on from a state that has several.

* `Pattern.size`: the room that a pattern takes.
-/

namespace TextShell.Pattern

open Text

/-- The bytes that a state takes. -/
def stateSize : Nat := 32

/-- The bytes that a way on from a state takes. -/
def waySize : Nat := 4

/-- How many places at the start of two lists are the same. -/
def sharedLength {α : Type} [DecidableEq α] : List α → List α → Nat
  | x :: xs, y :: ys => if x = y then sharedLength xs ys + 1 else 0
  | _, _ => 0

/-- The bytes that rows take that share their starts with the rows before them. -/
def rowsSize : List EncodedRow → EncodedRow → Nat
  | [], _ => 0
  | row :: rows, last =>
    waySize + stateSize * (row.length - sharedLength row last) + rowsSize rows row

/-- The bytes that a step over one of several characters takes. -/
def stepSize (set : CodePointSet) : Nat :=
  match set.encodedRows with
  | [row] => if row.all (fun (low, high) => low = high) then stateSize * row.length
    else 2 * stateSize + rowsSize [row] []
  | rows =>
    if rows.all (·.length = 1) then 2 * stateSize + 2 * waySize * rows.length
    else 2 * stateSize + rowsSize rows []

section

variable {Step Condition : Type}

/-- Whether a pattern cannot take any character. -/
def takesNothing : Pattern Step Condition → Bool
  | nothing | condition _ => true
  | step _ => false
  | sequence first second | choice first second => first.takesNothing && second.takesNothing
  | repetition _ greatest? body => greatest? = some 0 || body.takesNothing
  | kept body => body.takesNothing

/-- Whether a pattern can do without any character. -/
def canTakeNothing : Pattern Step Condition → Bool
  | nothing | condition _ => true
  | step _ => false
  | sequence first second => first.canTakeNothing && second.canTakeNothing
  | choice first second => first.canTakeNothing || second.canTakeNothing
  | repetition least _ body => least = 0 || body.canTakeNothing
  | kept body => body.canTakeNothing

/-- The bytes that a choice takes for itself. Choices between several parts share all but the ways to
them. -/
def choiceSize : Pattern Step Condition → Nat
  | choice _ _ => waySize
  | _ => 2 * (stateSize + waySize)

end

/-- The bytes that a repetition takes of a part with the given number of bytes. -/
def repetitionSize (size : Nat) (canTakeNothing : Bool) (least : Nat) : Option Nat → Nat
  | none =>
    let loop := stateSize + 2 * waySize
    if least = 0 then if canTakeNothing then 2 * loop + stateSize + size else loop + size
    else least * size + loop
  | some greatest =>
    if greatest = 0 then stateSize
    else if least = greatest then least * size
    else least * size + stateSize + (greatest - least) * (size + stateSize + 2 * waySize)

/-- The bytes that a pattern takes for itself. -/
def partSize : TextPattern → Nat
  | nothing | condition _ => stateSize
  | step set => stepSize set
  | sequence first second => partSize first + partSize second
  | choice first second => partSize first + partSize second + choiceSize second
  | repetition least greatest? body =>
    -- what takes no character need not be done twice
    if body.takesNothing then
      repetitionSize (partSize body) true (min least 1) (some (min 1 (greatest?.getD 1)))
    else repetitionSize (partSize body) body.canTakeNothing least greatest?
  | kept body => partSize body + 2 * stateSize

/-- The bytes that the start of a search takes. -/
def startSize : Nat := 6 * stateSize + 4 * waySize

/-- The bytes that a pattern takes. -/
def size (pattern : TextPattern) : Nat := startSize + partSize pattern

end TextShell.Pattern
