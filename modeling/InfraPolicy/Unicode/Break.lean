import InfraPolicy.Unicode.Property
import InfraPolicy.Unicode.Script

/-!
# Boundaries in text

The classes of characters by which a text is cut into user-perceived characters, words and
sentences. Most classes follow from the general category and from other properties; what remains is
listed. Characters in no class are left out.
-/

namespace InfraPolicy.Unicode

def carriageReturn : CodeSet := .ofTable "d"

def lineFeed : CodeSet := .ofTable "a"

def zeroWidthJoiner : CodeSet := .ofTable "200d"

/-! ### User-perceived characters -/

def graphemeExtenders : CodeSet := graphemeExtend.union emojiModifiers

def graphemePrepend : CodeSet :=
  prependedMarks.union (.ofTable
    "d4e,111c2-111c3,113d1,1193f,11941,11a3a,11a84-11a89,11d46,11f02")

/-- Control characters, and code points without a character that are never shown. -/
def graphemeControl : CodeSet :=
  ((categories ["Cc", "Cf", "Zl", "Zp"]).union ((categories ["Cn"]).inter defaultIgnorable)).diff
    ((prependedMarks.union graphemeExtenders).union (.ofTable "a,d,200c-200d"))

/-- Marks that take space of their own, with some vowels that follow their consonant, and without
those that may follow a break. -/
def graphemeSpacing : CodeSet :=
  ((categories ["Mc"]).union (.ofTable "e33,eb3")).diff (graphemeExtenders.union (.ofTable
    "102b-102c,1038,1062-1064,1067-106d,1083,1087-108c,108f,109a-109c,1a61,1a63-1a64,aa7b,aa7d,
    11720-11721"))

/-- Syllables without a final consonant: one of every 28. -/
def hangulOpen : CodeSet :=
  .ofRanges ((List.range 399).map fun i => (0xAC00 + 28 * i, 0xAC00 + 28 * i))

/-- Syllables with a final consonant. -/
def hangulClosed : CodeSet :=
  (CodeSet.ofTable "ac00-d7a3").diff hangulOpen

/-- The classes for user-perceived characters, with their names. -/
def graphemeBreaks : List (List String × CodeSet) :=
  [(["CN", "Control"], graphemeControl),
    (["CR"], carriageReturn),
    (["EX", "Extend"], graphemeExtenders),
    (["L"], .ofTable "1100-115f,a960-a97c"),
    (["LF"], lineFeed),
    (["LV"], hangulOpen),
    (["LVT"], hangulClosed),
    (["PP", "Prepend"], graphemePrepend),
    (["RI", "Regional_Indicator"], regionalIndicators),
    (["SM", "SpacingMark"], graphemeSpacing),
    (["T"], .ofTable "11a8-11ff,d7cb-d7fb"),
    (["V"], .ofTable "1160-11a7,d7b0-d7c6,16d63,16d67-16d6a"),
    (["ZWJ"], zeroWidthJoiner)]

/-! ### Words -/

/-- Signs that span digits count as digits, all but one, which counts as a letter. -/
def digitSpans : CodeSet := prependedMarks.diff (.ofTable "70f")

def wordExtend : CodeSet :=
  (graphemeExtenders.union (categories ["Mc"])).diff zeroWidthJoiner

def wordFormat : CodeSet :=
  (categories ["Cf"]).diff ((prependedMarks.union wordExtend).union (.ofTable "200b-200d"))

def wordKatakana : CodeSet :=
  (script "Kana").union (.ofTable "3031-3035,309b-309c,30a0,30fc,ff70")

def hebrewLetters : CodeSet := (script "Hebr").inter (categories ["Lo"])

def wordNumeric : CodeSet := (decimalDigits.union digitSpans).union (.ofTable "66b")

/-- Scripts that part words by rules of their own. -/
def complexScripts : List String :=
  ["Ahom", "Khmr", "Lana", "Laoo", "Mymr", "Tale", "Talu", "Tavt", "Thai"]

/-- Letters of words that need no dictionary, and some signs that count as letters. -/
def wordLetters : CodeSet :=
  let apart :=
    (((complexScripts.foldl (fun s name => s.union (script name)) (script "Hira")).union
      ideographic).union wordKatakana).union (wordExtend.union hebrewLetters)
  (alphabetic.union (.ofTable
    "2c2-2c5,2d2-2d7,2de-2df,2e5-2eb,2ed,2ef-2ff,55a-55c,55e,58a,5f3,70f,a708-a716,a720-a721,
    a789-a78a,ab5b")).diff apart

/-- The classes for words, with their names. -/
def wordBreaks : List (List String × CodeSet) :=
  [(["LE", "ALetter"], wordLetters),
    (["CR"], carriageReturn),
    (["DQ", "Double_Quote"], .ofTable "22"),
    (["Extend"], wordExtend),
    (["EX", "ExtendNumLet"], (categories ["Pc"]).union (.ofTable "202f")),
    (["FO", "Format"], wordFormat),
    (["HL", "Hebrew_Letter"], hebrewLetters),
    (["KA", "Katakana"], wordKatakana),
    (["LF"], lineFeed),
    (["ML", "MidLetter"], .ofTable "3a,b7,387,55f,5f4,2027,fe13,fe55,ff1a"),
    (["MN", "MidNum"], .ofTable "2c,3b,37e,589,60c-60d,66c,7f8,2044,fe10,fe14,fe50,fe54,ff0c,ff1b"),
    (["MB", "MidNumLet"], .ofTable "2e,2018-2019,2024,fe52,ff07,ff0e"),
    (["NL", "Newline"], .ofTable "b-c,85,2028-2029"),
    (["NU", "Numeric"], wordNumeric),
    (["RI", "Regional_Indicator"], regionalIndicators),
    (["SQ", "Single_Quote"], .ofTable "27"),
    (["WSegSpace"], .ofTable "20,1680,2000-2006,2008-200a,205f,3000"),
    (["ZWJ"], zeroWidthJoiner)]

/-! ### Sentences -/

def sentenceExtend : CodeSet :=
  (graphemeExtend.union (categories ["Mc"])).union zeroWidthJoiner

def sentenceFormat : CodeSet :=
  (categories ["Cf"]).diff (prependedMarks.union sentenceExtend)

def sentenceNumeric : CodeSet := (decimalDigits.union digitSpans).union (.ofTable "66b-66c")

/-- Small letters, without those of a script that has capitals for headings only. -/
def sentenceLower : CodeSet :=
  lowercase.diff (graphemeExtend.union (.ofTable "10d0-10fa,10fd-10ff"))

def sentenceUpper : CodeSet :=
  (uppercase.union (categories ["Lt"])).diff (.ofTable "1c90-1cba,1cbd-1cbf")

def sentenceLetters : CodeSet :=
  (alphabetic.union (.ofTable "5f3,70f")).diff
    ((sentenceLower.union sentenceUpper).union (sentenceExtend.union sentenceNumeric))

/-- Full stops, which may also end an abbreviation. -/
def fullStops : CodeSet := .ofTable "2e,2024,fe52,ff0e"

def sentenceTerminators : CodeSet := sentenceTerminal.diff fullStops

/-- Brackets and quotation marks. -/
def sentenceClose : CodeSet :=
  ((categories ["Pe", "Pf", "Pi", "Ps"]).union (.ofTable
    "22,27,275b-2760,2e00-2e01,2e06-2e08,2e0b,1f676-1f678")).diff
      (sentenceTerminators.union fullStops)

/-- The classes for sentences, with their names. -/
def sentenceBreaks : List (List String × CodeSet) :=
  [(["AT", "ATerm"], fullStops),
    (["CR"], carriageReturn),
    (["CL", "Close"], sentenceClose),
    (["EX", "Extend"], sentenceExtend),
    (["FO", "Format"], sentenceFormat),
    (["LF"], lineFeed),
    (["LO", "Lower"], sentenceLower),
    (["NU", "Numeric"], sentenceNumeric),
    (["LE", "OLetter"], sentenceLetters),
    (["SC", "SContinue"], .ofTable
      "2c-2d,3a-3b,37e,55d,60c-60d,7f8,1802,1808,2013-2014,3001,fe10-fe11,fe13-fe14,fe31-fe32,
      fe50-fe51,fe54-fe55,fe58,fe63,ff0c-ff0d,ff1a-ff1b,ff64"),
    (["SE", "Sep"], .ofTable "85,2028-2029"),
    (["SP", "Sp"], whiteSpace.diff (.ofTable "a,d,85,2028-2029")),
    (["ST", "STerm"], sentenceTerminators),
    (["UP", "Upper"], sentenceUpper)]

end InfraPolicy.Unicode
