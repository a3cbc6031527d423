import TextShell.Text.GraphemeExtend
import TextShell.Text.Printable

/-!
# Quoted text

A text between double quotes, on one line and without invisible characters: quotes and backslashes
are escaped, the common control characters have letters, and whatever cannot be seen or would melt
into the character before it is written by its code point.
-/

namespace TextShell.Text

/-- The digits of a code point in hexadecimal, in lower case. -/
def hexadecimal (point : Nat) : List Char := Nat.toDigits 16 point

/-- Whether a character is one of the two halfwidth sound marks: they extend a grapheme, yet they
are letters that take up a place of their own. -/
def isHalfwidthSoundMark (c : Char) : Bool := c = '\uff9e' || c = '\uff9f'

/-- Whether a character can be seen apart from the one before it. -/
def isSeenAlone (c : Char) : Bool :=
  isPrintable c && (!isGraphemeExtend c || isHalfwidthSoundMark c)

/-- One character as it stands in a quoted text. -/
def quoteChar (c : Char) : List Char :=
  match c with
  | '\x00' => ['\\', '0']
  | '\t' => ['\\', 't']
  | '\r' => ['\\', 'r']
  | '\n' => ['\\', 'n']
  | '"' => ['\\', '"']
  | '\\' => ['\\', '\\']
  | c =>
    if isSeenAlone c then [c] else ['\\', 'u', '\x7b'] ++ hexadecimal c.toNat ++ ['\x7d']

/-- A text between quotes. -/
def quote (text : String) : String :=
  String.ofList ('"' :: text.toList.flatMap quoteChar ++ ['"'])

example : quoteChar '\x7f' = ['\\', 'u', '\x7b', '7', 'f', '\x7d'] := by decide +kernel

example : quoteChar 'é' = ['é'] ∧ quoteChar '\x27' = ['\x27'] := by decide +kernel

/-- One character as it stands in a quoted path, where the apostrophe is escaped, too. -/
def quotePathChar (c : Char) : List Char :=
  if c = '\x27' then ['\\', '\x27'] else quoteChar c

/-- A path between quotes. -/
def quotePath (path : String) : String :=
  String.ofList ('"' :: path.toList.flatMap quotePathChar ++ ['"'])

end TextShell.Text
