import TextShell.Text.Blank
import TextShell.Text.GeneralCategory
import TextShell.Text.GraphemeClass
import TextShell.Text.PropertyTables
import TextShell.Text.Script

/-!
# Character properties

The properties of Unicode that a character has or has not, by name: those of the tables and those
that follow from the general category and a table of exceptions.

* `wordCharacters`: the characters of words.
* `binaryProperties`: the properties under the names that they may be asked for.
-/

namespace TextShell.Text

open CodePointSet

/-- Characters of alphabets in the widest sense. -/
def alphabetic : CodePointSet := unions [letters, letterNumbers, otherAlphabetic]

/-- Characters in upper case. -/
def uppercaseCharacters : CodePointSet := union upperLetters otherUppercase

/-- Characters in lower case. -/
def lowercaseCharacters : CodePointSet := union lowerLetters otherLowercase

/-- Characters of any case. -/
def casedCharacters : CodePointSet :=
  unions [uppercaseCharacters, lowercaseCharacters, titleLetters]

/-- Characters that do not separate words by their case. -/
def caseIgnorable : CodePointSet :=
  unions [nonspacingMarks, enclosingMarks, formatCharacters, modifierLetters, modifierSymbols,
    otherCaseIgnorable]

/-- Characters of mathematics. -/
def mathematical : CodePointSet := union mathSymbols otherMath

/-- Characters that may start a name. -/
def nameStarts : CodePointSet :=
  diff (unions [letters, letterNumbers, otherNameStarts]) noNameStarts

/-- Characters that may continue a name. -/
def nameParts : CodePointSet :=
  unions [nameStarts, nonspacingMarks, combiningSpacingMarks, decimalDigits, connectorPunctuation,
    otherNameParts]

/-- Characters that may start a name, normalised or not. -/
def stableNameStarts : CodePointSet := diff nameStarts unstableNameStarts

/-- Characters that may continue a name, normalised or not. -/
def stableNameParts : CodePointSet := diff nameParts unstableNameParts

/-- Characters that begin a grapheme. -/
def graphemeBases : CodePointSet :=
  diff (unions [letters, marks, numbers, punctuation, symbols, spaceSeparators]) graphemeExtend

/-- The characters of words: letters, marks, digits, connectors and joiners. -/
def wordCharacters : CodePointSet :=
  unions [alphabetic, marks, decimalDigits, connectorPunctuation, joinControls]

/-- Whether a character is alphabetic. -/
def isAlphabetic (c : Char) : Bool := alphabetic.contains c

/-- Whether a character is alphabetic or a number. -/
def isAlphanumeric (c : Char) : Bool := alphabetic.contains c || numbers.contains c

/-- The properties that a character has or has not, by name. -/
def binaryProperties : List NamedSet := [
  ⟨["ahex", "asciihexdigit"], asciiHexDigits⟩,
  ⟨["bidic", "bidicontrol"], bidiControls⟩,
  ⟨["bidim", "bidimirrored"], bidiMirrored⟩,
  ⟨["dash"], dashes⟩,
  ⟨["di", "defaultignorablecodepoint"], defaultIgnorables⟩,
  ⟨["dep", "deprecated"], deprecatedCharacters⟩,
  ⟨["dia", "diacritic"], diacritics⟩,
  ⟨["emoji"], emoji⟩,
  ⟨["ecomp", "emojicomponent"], emojiComponents⟩,
  ⟨["emod", "emojimodifier"], emojiModifiers⟩,
  ⟨["ebase", "emojimodifierbase"], emojiModifierBases⟩,
  ⟨["epres", "emojipresentation"], emojiPresentations⟩,
  ⟨["ext", "extender"], extenders⟩,
  ⟨["hex", "hexdigit"], hexDigits⟩,
  ⟨["idsb", "idsbinaryoperator"], binaryOperators⟩,
  ⟨["idst", "idstrinaryoperator"], ternaryOperators⟩,
  ⟨["ideo", "ideographic"], ideographic⟩,
  ⟨["joinc", "joincontrol"], joinControls⟩,
  ⟨["loe", "logicalorderexception"], logicalOrderExceptions⟩,
  ⟨["nchar", "noncharactercodepoint"], noncharacters⟩,
  ⟨["patsyn", "patternsyntax"], patternSigns⟩,
  ⟨["patws", "patternwhitespace"], patternSpaces⟩,
  ⟨["qmark", "quotationmark"], quotationMarks⟩,
  ⟨["radical"], radicals⟩,
  ⟨["ri", "regionalindicator"], regionalIndicators⟩,
  ⟨["sterm", "sentenceterminal"], sentenceTerminals⟩,
  ⟨["sd", "softdotted"], softDotted⟩,
  ⟨["term", "terminalpunctuation"], terminalPunctuation⟩,
  ⟨["uideo", "unifiedideograph"], unifiedIdeographs⟩,
  ⟨["vs", "variationselector"], variationSelectors⟩,
  ⟨["alpha", "alphabetic"], alphabetic⟩,
  ⟨["upper", "uppercase"], uppercaseCharacters⟩,
  ⟨["lower", "lowercase"], lowercaseCharacters⟩,
  ⟨["math"], mathematical⟩,
  ⟨["cased"], casedCharacters⟩,
  ⟨["ci", "caseignorable"], caseIgnorable⟩,
  ⟨["ids", "idstart"], nameStarts⟩,
  ⟨["idc", "idcontinue"], nameParts⟩,
  ⟨["xids", "xidstart"], stableNameStarts⟩,
  ⟨["xidc", "xidcontinue"], stableNameParts⟩,
  ⟨["grbase", "graphemebase"], graphemeBases⟩,
  ⟨["grext", "graphemeextend"], graphemeExtend⟩,
  ⟨["extpict", "extendedpictographic"], pictographs⟩,
  ⟨["wspace", "whitespace", "space"], whiteSpace⟩]

/-- The names of properties that are no sets of characters. -/
def otherProperties : List String := [
  "age", "bc", "bidiclass", "bidimirroringglyph", "bidipairedbracket", "bidipairedbrackettype",
  "blk", "block", "bmg", "bpb", "bpt", "canonicalcombiningclass", "casefolding", "ccc", "ce",
  "cf", "changeswhencasefolded", "changeswhencasemapped", "changeswhenlowercased",
  "changeswhennfkccasefolded", "changeswhentitlecased", "changeswhenuppercased", "compex",
  "compositionexclusion", "cwcf", "cwcm", "cwkcf", "cwl", "cwt", "cwu", "decompositionmapping",
  "decompositiontype", "dm", "dt", "ea", "eastasianwidth", "equideo",
  "equivalentunifiedideograph", "expandsonnfc", "expandsonnfd", "expandsonnfkc", "expandsonnfkd",
  "fcnfkc", "fcnfkcclosure", "fullcompositionexclusion", "gc", "gcb", "generalcategory",
  "graphemeclusterbreak", "graphemelink", "grlink", "hangulsyllabletype", "hst", "hyphen",
  "idcompatmathcontinue", "idcompatmathstart", "idsu", "idsunaryoperator", "incb",
  "indicconjunctbreak", "indicpositionalcategory", "indicsyllabiccategory", "inpc", "insc", "isc",
  "isocomment", "jamoshortname", "jg", "joininggroup", "joiningtype", "jsn", "jt",
  "kaccountingnumeric", "kothernumeric", "kprimarynumeric", "krsunicode", "lb", "lc", "linebreak",
  "lowercasemapping", "mcm", "modifiercombiningmark", "na", "na1", "name", "namealias", "nfcqc",
  "nfcquickcheck", "nfdqc", "nfdquickcheck", "nfkccasefold", "nfkccf", "nfkcqc", "nfkcquickcheck",
  "nfkcscf", "nfkcsimplecasefold", "nfkdqc", "nfkdquickcheck", "nt", "numerictype",
  "numericvalue", "nv", "oalpha", "odi", "ogrext", "oidc", "oids", "olower", "omath",
  "otheralphabetic", "otherdefaultignorablecodepoint", "othergraphemeextend", "otheridcontinue",
  "otheridstart", "otherlowercase", "othermath", "otheruppercase", "oupper", "pcm",
  "prependedconcatenationmark", "sb", "sc", "scf", "script", "scriptextensions", "scx",
  "sentencebreak", "sfc", "simplecasefolding", "simplelowercasemapping", "simpletitlecasemapping",
  "simpleuppercasemapping", "slc", "stc", "suc", "tc", "titlecasemapping", "uc", "unicode1name",
  "unicoderadicalstroke", "uppercasemapping", "urs", "verticalorientation", "vo", "wb",
  "wordbreak", "xonfc", "xonfd", "xonfkc", "xonfkd"]

end TextShell.Text
