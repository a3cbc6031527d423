import TextShell.Failure

/-!
# Edits

The changes that can be made to the lines of a file. Line numbers start at one. Inserting behind
the end fills the gap with empty lines, as long as there are not too many of them.

* `Edit.apply`: the lines after an edit, or why it cannot be made.
* `Edit.padding`: how many empty lines an edit adds.
-/

namespace TextShell

/-- One change to the lines of a file. -/
inductive Edit where
  /-- Put one line in place of all. -/
  | replace (text : String)
  /-- Add a line at the end. -/
  | append (text : String)
  /-- Make a text the line with this number. -/
  | insertAt (line : UInt64) (text : String)
  /-- Take out the line with this number. -/
  | deleteAt (line : UInt64)
  deriving DecidableEq, Repr

namespace Edit

/-- The most empty lines that an insertion may add. -/
def maxPadding : Nat := Nat.pow 2 20

/-- How many empty lines lie between the lines and an insertion behind their end. -/
def gap (line : UInt64) (lines : List String) : Nat := line.toNat - 1 - lines.length

/-- The lines after an edit. -/
def apply : Edit → List String → Except Failure (List String)
  | replace text, _ => .ok [text]
  | append text, lines => .ok (lines ++ [text])
  | insertAt line text, lines =>
    if line = 0 ∨ maxPadding < gap line lines then .error (.insertOutOfRange line.toNat.repr)
    else
      .ok (lines.take (line.toNat - 1) ++ List.replicate (gap line lines) "" ++
        text :: lines.drop (line.toNat - 1))
  | deleteAt line, lines =>
    if line = 0 ∨ lines.length < line.toNat then .error (.deleteOutOfRange line.toNat.repr)
    else .ok (lines.eraseIdx (line.toNat - 1))

/-- How many empty lines an edit adds besides its text, and the number of the line that they come
before; nothing if it adds none. -/
def padding? : Edit → List String → Option (Nat × UInt64)
  | insertAt line _, lines =>
    if line = 0 ∨ maxPadding < gap line lines ∨ gap line lines = 0 then none
    else some (gap line lines, line)
  | _, _ => none

example : apply (.insertAt 3 "c") ["a"] = .ok ["a", "", "c"] := by rfl

example : apply (.deleteAt 2) ["a"] = .error (.deleteOutOfRange "2") := by rfl

end Edit

end TextShell
