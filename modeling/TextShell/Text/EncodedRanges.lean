import TextShell.Text.CodePointSet

/-!
# Encoded ranges

A range of characters as ranges of bytes: the bytes of its characters are those of a few rows, in
each of which every byte runs through a range of its own.

* `CodePointSet.encodedRows`: the rows of a set.
-/

namespace TextShell.Text

/-- A range of bytes for each byte of a character. -/
abbrev EncodedRow := List (Nat × Nat)

/-- The ranges of characters that are encoded with the same number of bytes, each with the number of
bytes behind the first. No character has a code point between the two of three bytes. -/
def encodedLengths : List (CodePointSet × Nat) := [
  (.range 0x0 0x7F, 0), (.range 0x80 0x7FF, 1), (.range 0x800 0xD7FF, 2), (.range 0xE000 0xFFFF, 2),
  (.range 0x10000 0x10FFFF, 3)]

/-- The pieces of a range that lie within one block of the given size or consist of whole blocks. -/
def alignedPieces (block : Nat) (span : Nat × Nat) : List (Nat × Nat) :=
  let (first, last) := span
  if first / block = last / block then [span]
  else
    let low := (first + block - 1) / block * block
    let high := (last + 1) / block * block
    (if first < low then [(first, low - 1)] else []) ++
      (if low < high then [(low, high - 1)] else []) ++
      (if high ≤ last then [(high, last)] else [])

/-- The number that the first byte of a character is counted from. -/
def leadingByte : Nat → Nat
  | 0 => 0
  | 1 => 0xC0
  | 2 => 0xE0
  | _ => 0xF0

/-- The bytes of a character behind the first. -/
def trailingBytes : Nat → Nat → List Nat
  | 0, _ => []
  | count + 1, point => (0x80 + point / Nat.pow 64 count % 64) :: trailingBytes count point

/-- The bytes of a character with the given number of them behind the first. -/
def encodedBytes (count point : Nat) : List Nat :=
  (leadingByte count + point / Nat.pow 64 count) :: trailingBytes count point

/-- The rows of a range of characters with the given number of bytes behind the first. -/
def encodedRowsOfRange (count : Nat) (span : Nat × Nat) : List EncodedRow :=
  let pieces := (List.range count).foldl
    (fun pieces index => pieces.flatMap (alignedPieces (Nat.pow 64 (index + 1)))) [span]
  pieces.map fun (first, last) => (encodedBytes count first).zip (encodedBytes count last)

/-- The rows of a set, in increasing order. -/
def CodePointSet.encodedRows (set : CodePointSet) : List EncodedRow :=
  encodedLengths.flatMap fun (characters, count) =>
    (set.inter characters).ranges.flatMap (encodedRowsOfRange count)

example : (CodePointSet.range 0x7F 0x801).encodedRows =
    [[(0x7F, 0x7F)], [(0xC2, 0xDF), (0x80, 0xBF)], [(0xE0, 0xE0), (0xA0, 0xA0), (0x80, 0x81)]] := by
  decide +kernel

end TextShell.Text
