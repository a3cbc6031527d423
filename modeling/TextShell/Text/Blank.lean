import TextShell.Text.CodePointSet

/-!
# Blank characters

A character is blank when it has the Unicode property White_Space: 25 code points, from the
horizontal tab to the ideographic space. Blank characters may end a command line without changing
its meaning, and a line of nothing else is no command.

* `isBlank_of_isWhitespace`: the ASCII white space of the core library is blank.
-/

namespace TextShell.Text

/-- The characters with the property White_Space. -/
def whiteSpace : CodePointSet where
  changes := [
    0x9, 0xE, 0x20, 0x21, 0x85, 0x86, 0xA0, 0xA1, 0x1680, 0x1681, 0x2000, 0x200B, 0x2028, 0x202A,
    0x202F, 0x2030, 0x205F, 0x2060, 0x3000, 0x3001]

/-- Whether a character is blank. -/
def isBlank (c : Char) : Bool := whiteSpace.contains c

/-- Whether a text has no character that is not blank. -/
def isBlankText (text : String) : Bool := text.toList.all isBlank

/-- The white space known to the core library is blank. -/
theorem isBlank_of_isWhitespace {c : Char} (h : c.isWhitespace = true) : isBlank c = true := by
  simp only [Char.isWhitespace, Bool.or_eq_true, decide_eq_true_eq] at h
  rcases h with ((rfl | rfl) | rfl) | rfl <;> decide

example : isBlank '\u3000' = true ∧ isBlank '\u200b' = false ∧ isBlank '"' = false := by decide

end TextShell.Text
