/-!
# Lines of text

A line ends in a line feed, and one carriage return before that line feed belongs to the ending.
A carriage return anywhere else belongs to the line. The last line of a text may lack an ending.

* `pieces_flatten`: the pieces of a sequence, put together, are the sequence.
* `breakLines`, `joinLines`: the lines of a text and the text of lines, each line ended.
-/

namespace TextShell.Text

section Pieces

variable {α : Type} [DecidableEq α]

/-- The pieces of a sequence after one more item in front of it: the item stands alone if it is
the stop, and otherwise joins the first piece. -/
def pushPiece (stop item : α) (pieces : List (List α)) : List (List α) :=
  if item = stop then [item] :: pieces
  else match pieces with
    | [] => [[item]]
    | piece :: others => (item :: piece) :: others

/-- A sequence cut after every stop. Each piece but the last ends in the stop; the last does too
if the sequence does. -/
def pieces (stop : α) (items : List α) : List (List α) :=
  items.foldr (pushPiece stop) []

@[simp]
theorem pieces_nil (stop : α) : pieces stop [] = [] := rfl

@[simp]
theorem pieces_cons (stop item : α) (items : List α) :
    pieces stop (item :: items) = pushPiece stop item (pieces stop items) := rfl

/-- An item in front adds itself and nothing else. -/
@[simp]
theorem pushPiece_flatten (stop item : α) (parts : List (List α)) :
    (pushPiece stop item parts).flatten = item :: parts.flatten := by
  unfold pushPiece
  split
  · simp
  · split <;> simp

/-- Cutting loses nothing and adds nothing. -/
theorem pieces_flatten (stop : α) (items : List α) : (pieces stop items).flatten = items := by
  induction items with
  | nil => rfl
  | cons item items ih => simp [ih]

end Pieces

/-- A piece of text without its line ending. -/
def dropLineEnding (piece : List Char) : List Char :=
  match piece.reverse with
  | '\n' :: '\r' :: reversed => reversed.reverse
  | '\n' :: reversed => reversed.reverse
  | _ => piece

/-- The lines of a text. -/
def breakLines (text : String) : List String :=
  (pieces '\n' text.toList).map fun piece => String.ofList (dropLineEnding piece)

/-- The text that holds the given lines, each ended by a line feed. -/
def joinLines (lines : List String) : String :=
  String.ofList (lines.flatMap fun line => line.toList ++ ['\n'])

example : breakLines "a\r\nb\r" = ["a", "b\r"] := by cbv

example : breakLines "\n\r\r\n" = ["", "\r"] := by cbv

example : joinLines ["a", ""] = "a\n\n" := by cbv

end TextShell.Text
