import TextShell.Text.GeneralCategory.Letters
import TextShell.Text.GeneralCategory.Marks
import TextShell.Text.GeneralCategory.Signs
import TextShell.Text.NamedSet

/-!
# General categories

Every character has one general category, and categories of one kind make up a larger one.

* `generalCategories`: the categories under the names that they may be asked for.
-/

namespace TextShell.Text

open CodePointSet

/-- Letters of any case. -/
def casedLetters : CodePointSet := unions [upperLetters, lowerLetters, titleLetters]

/-- Letters. -/
def letters : CodePointSet := unions [casedLetters, modifierLetters, otherLetters]

/-- Marks. -/
def marks : CodePointSet := unions [nonspacingMarks, combiningSpacingMarks, enclosingMarks]

/-- Numbers. -/
def numbers : CodePointSet := unions [decimalDigits, letterNumbers, otherNumbers]

/-- Punctuation. -/
def punctuation : CodePointSet :=
  unions [connectorPunctuation, dashPunctuation, openPunctuation, closePunctuation,
    initialPunctuation, finalPunctuation, otherPunctuation]

/-- Symbols. -/
def symbols : CodePointSet := unions [mathSymbols, currencySymbols, modifierSymbols, otherSymbols]

/-- Separators. -/
def separators : CodePointSet := unions [spaceSeparators, lineSeparators, paragraphSeparators]

/-- Characters that are shown, and separators. -/
def visibleCharacters : CodePointSet :=
  unions [letters, marks, numbers, punctuation, symbols, separators]

/-- Characters that have been given a meaning or are set aside for private use. -/
def assigned : CodePointSet :=
  unions [visibleCharacters, controlCharacters, formatCharacters, privateUse]

/-- Code points without a meaning. -/
def unassigned : CodePointSet := compl assigned

/-- Characters that are not shown. -/
def otherCharacters : CodePointSet := compl visibleCharacters

/-- The general categories by name. -/
def generalCategories : List NamedSet := [
  ⟨["lu", "uppercaseletter"], upperLetters⟩,
  ⟨["ll", "lowercaseletter"], lowerLetters⟩,
  ⟨["lt", "titlecaseletter"], titleLetters⟩,
  ⟨["lm", "modifierletter"], modifierLetters⟩,
  ⟨["lo", "otherletter"], otherLetters⟩,
  ⟨["l", "letter"], letters⟩,
  ⟨["lc", "casedletter"], casedLetters⟩,
  ⟨["mn", "nonspacingmark"], nonspacingMarks⟩,
  ⟨["mc", "spacingmark"], combiningSpacingMarks⟩,
  ⟨["me", "enclosingmark"], enclosingMarks⟩,
  ⟨["m", "mark", "combiningmark"], marks⟩,
  ⟨["nd", "decimalnumber", "digit"], decimalDigits⟩,
  ⟨["nl", "letternumber"], letterNumbers⟩,
  ⟨["no", "othernumber"], otherNumbers⟩,
  ⟨["n", "number"], numbers⟩,
  ⟨["pc", "connectorpunctuation"], connectorPunctuation⟩,
  ⟨["pd", "dashpunctuation"], dashPunctuation⟩,
  ⟨["ps", "openpunctuation"], openPunctuation⟩,
  ⟨["pe", "closepunctuation"], closePunctuation⟩,
  ⟨["pi", "initialpunctuation"], initialPunctuation⟩,
  ⟨["pf", "finalpunctuation"], finalPunctuation⟩,
  ⟨["po", "otherpunctuation"], otherPunctuation⟩,
  ⟨["p", "punctuation", "punct"], punctuation⟩,
  ⟨["sm", "mathsymbol"], mathSymbols⟩,
  ⟨["sc", "currencysymbol"], currencySymbols⟩,
  ⟨["sk", "modifiersymbol"], modifierSymbols⟩,
  ⟨["so", "othersymbol"], otherSymbols⟩,
  ⟨["s", "symbol"], symbols⟩,
  ⟨["zs", "spaceseparator"], spaceSeparators⟩,
  ⟨["zl", "lineseparator"], lineSeparators⟩,
  ⟨["zp", "paragraphseparator"], paragraphSeparators⟩,
  ⟨["z", "separator"], separators⟩,
  ⟨["cc", "control", "cntrl"], controlCharacters⟩,
  ⟨["cf", "format"], formatCharacters⟩,
  ⟨["co", "privateuse"], privateUse⟩,
  ⟨["cn", "unassigned"], unassigned⟩,
  ⟨["c", "other"], otherCharacters⟩,
  ⟨["any"], .all⟩,
  ⟨["assigned"], assigned⟩,
  ⟨["ascii"], .range 0 0x7F⟩]

/-- The names of categories that no character has. -/
def vacantCategories : List String := ["cs", "surrogate"]

end TextShell.Text
