import PostalAddress.Text.LetterCase
import PostalAddress.Text.Script

/-!
# Boundary classes

The classes of characters by which the boundaries of graphemes, words and sentences are found,
each under its code and its name. The rest of the characters has no class.
-/

namespace PostalAddress.Text.Segment

/-- A class with its code and its name. -/
abbrev Entry := List String × CodeSet

/-- Digits, the signs that frame numbers, and the separators inside them. -/
def numeric : CodeSet :=
  decimalDigits.union (.ofCodes [0x600, 0x601, 0x602, 0x603, 0x604, 0x605, 0x66b, 0x66c, 0x6dd,
    0x890, 0x891, 0x8e2, 0x19da, 0x110bd, 0x110cd])

def zeroWidthJoiner : CodeSet := .range 0x200d 0x200d

section Grapheme

def hangul : CodeSet := .range 0xac00 0xd7a3

/-- Hangul syllables without a final consonant. -/
def openHangul : CodeSet := .ofCodes ((List.range 399).map fun n => 0xac00 + 28 * n)

/-- Signs that belong to the character after them. -/
def prepended : CodeSet :=
  Listed.prependedConcatenationMark.union (.ofRuns [(0xd4e, 0xd4e), (0x111c2, 0x111c3),
    (0x113d1, 0x113d1), (0x1193f, 0x1193f), (0x11941, 0x11941), (0x11a3a, 0x11a3a),
    (0x11a84, 0x11a89), (0x11d46, 0x11d46), (0x11f02, 0x11f02)])

def graphemeControl : CodeSet :=
  (CodeSet.unions [Category.among ["Zl", "Zp", "Cc", "Cf"],
    (Category.among ["Cn"]).inter defaultIgnorable]).diff
      (.unions [.ofCodes [10, 13, 0x200c, 0x200d], prepended, graphemeExtend])

/-- Spacing marks of scripts whose syllables are no single grapheme. -/
def separateMarks : CodeSet :=
  .ofRuns [(0x102b, 0x102c), (0x1038, 0x1038), (0x1062, 0x1064), (0x1067, 0x106d),
    (0x1083, 0x1083), (0x1087, 0x108c), (0x108f, 0x108f), (0x109a, 0x109c), (0x1a61, 0x1a61),
    (0x1a63, 0x1a64), (0xaa7b, 0xaa7b), (0xaa7d, 0xaa7d), (0x11720, 0x11721)]

def spacingMark : CodeSet :=
  ((Category.among ["Mc"]).union (.ofCodes [0xe33, 0xeb3])).diff
    (graphemeExtend.union separateMarks)

def grapheme : List Entry :=
  [(["CN", "Control"], graphemeControl), (["CR"], .range 13 13), (["LF"], .range 10 10),
   (["EX", "Extend"], graphemeExtend.union Listed.emojiModifier),
   (["L"], .ofRuns [(0x1100, 0x115f), (0xa960, 0xa97c)]), (["LV"], openHangul),
   (["LVT"], hangul.diff openHangul), (["PP", "Prepend"], prepended),
   (["RI", "Regional_Indicator"], Listed.regionalIndicator), (["SM", "SpacingMark"], spacingMark),
   (["T"], .ofRuns [(0x11a8, 0x11ff), (0xd7cb, 0xd7fb)]),
   (["V"], .ofRuns [(0x1160, 0x11a7), (0xd7b0, 0xd7c6), (0x16d63, 0x16d63), (0x16d67, 0x16d6a)]),
   (["ZWJ"], zeroWidthJoiner)]

end Grapheme

section Word

/-- Scripts without spaces between words. -/
def unspacedScripts : CodeSet :=
  .unions (["Thai", "Laoo", "Mymr", "Khmr", "Tale", "Talu", "Lana", "Tavt", "Ahom", "Hira"].map
    fun code => Script.having code.toList)

def katakana : CodeSet :=
  .ofRuns [(0x3031, 0x3035), (0x309b, 0x309c), (0x30a0, 0x30fa), (0x30fc, 0x30ff),
    (0x31f0, 0x31ff), (0x32d0, 0x32fe), (0x3300, 0x3357), (0xff66, 0xff9d), (0x1aff0, 0x1aff3),
    (0x1aff5, 0x1affb), (0x1affd, 0x1affe), (0x1b000, 0x1b000), (0x1b120, 0x1b122),
    (0x1b155, 0x1b155), (0x1b164, 0x1b167)]

def hebrewLetter : CodeSet := (Category.among ["Lo"]).inter (Script.having "Hebr".toList)

/-- Signs that are used like letters. -/
def letterSigns : CodeSet :=
  .ofRuns [(0xb8, 0xb8), (0x2c2, 0x2c5), (0x2d2, 0x2d7), (0x2de, 0x2df), (0x2e5, 0x2eb),
    (0x2ed, 0x2ed), (0x2ef, 0x2ff), (0x55a, 0x55c), (0x55e, 0x55e), (0x58a, 0x58a),
    (0x5f3, 0x5f3), (0x70f, 0x70f), (0xa708, 0xa716), (0xa720, 0xa721), (0xa789, 0xa78a),
    (0xab5b, 0xab5b)]

def wordExtend : CodeSet :=
  .unions [graphemeExtend, Category.among ["Mc"], Listed.emojiModifier]

def wordLetter : CodeSet :=
  (alphabetic.diff (.unions [unspacedScripts, Listed.ideographic, wordExtend, katakana,
    hebrewLetter])).union letterSigns

def wordNumeric : CodeSet := numeric.diff (.range 0x66c 0x66c)

def wordFormat : CodeSet :=
  (Category.among ["Cf"]).diff
    (.unions [.ofCodes [0x70f, 0x200b, 0x200c, 0x200d], wordNumeric, graphemeExtend])

def word : List Entry :=
  [(["LE", "ALetter"], wordLetter), (["CR"], .range 13 13), (["DQ", "Double_Quote"], .range 34 34),
   (["Extend"], wordExtend),
   (["EX", "ExtendNumLet"], .ofRuns [(0x5f, 0x5f), (0x202f, 0x202f), (0x203f, 0x2040),
     (0x2054, 0x2054), (0xfe33, 0xfe34), (0xfe4d, 0xfe4f), (0xff3f, 0xff3f)]),
   (["FO", "Format"], wordFormat), (["HL", "Hebrew_Letter"], hebrewLetter),
   (["KA", "Katakana"], katakana), (["LF"], .range 10 10),
   (["ML", "MidLetter"], .ofCodes [0x3a, 0xb7, 0x387, 0x55f, 0x5f4, 0x2027, 0xfe13, 0xfe55,
     0xff1a]),
   (["MN", "MidNum"], .ofCodes [0x2c, 0x3b, 0x37e, 0x589, 0x60c, 0x60d, 0x66c, 0x7f8, 0x2044,
     0xfe50, 0xfe54, 0xff0c, 0xff1b]),
   (["MB", "MidNumLet"], .ofCodes [0x2e, 0x2018, 0x2019, 0x2024, 0xfe52, 0xff07, 0xff0e]),
   (["NL", "Newline"], .ofCodes [0xb, 0xc, 0x85, 0x2028, 0x2029]),
   (["NU", "Numeric"], wordNumeric), (["RI", "Regional_Indicator"], Listed.regionalIndicator),
   (["SQ", "Single_Quote"], .range 39 39),
   (["WSegSpace"], .ofRuns [(0x20, 0x20), (0x1680, 0x1680), (0x2000, 0x2006), (0x2008, 0x200a),
     (0x205f, 0x205f), (0x3000, 0x3000)]),
   (["ZWJ"], zeroWidthJoiner)]

end Word

section Sentence

def sentenceExtend : CodeSet :=
  .unions [graphemeExtend, Category.among ["Mc"], zeroWidthJoiner]

def separators : CodeSet := .ofCodes [0x85, 0x2028, 0x2029]

/-- Full stops, which may also end an abbreviation. -/
def stops : CodeSet := .ofCodes [0x2e, 0x2024, 0xfe52, 0xff0e]

def sentenceLower : CodeSet :=
  lowercase.diff (graphemeExtend.union (.ofRuns [(0x10d0, 0x10fa), (0x10fd, 0x10ff)]))

def sentenceUpper : CodeSet :=
  (uppercase.union (Category.among ["Lt"])).diff (.range 0x1c90 0x1cbf)

def sentenceLetter : CodeSet :=
  (alphabetic.union (.range 0x5f3 0x5f3)).diff
    (.unions [sentenceLower, sentenceUpper, sentenceExtend])

/-- Commas, dashes, colons and semicolons, after which a sentence goes on. -/
def sentencePause : CodeSet :=
  .ofRuns [(0x2c, 0x2d), (0x3a, 0x3b), (0x37e, 0x37e), (0x55d, 0x55d), (0x60c, 0x60d),
    (0x7f8, 0x7f8), (0x1802, 0x1802), (0x1808, 0x1808), (0x2013, 0x2014), (0x3001, 0x3001),
    (0xfe10, 0xfe11), (0xfe13, 0xfe14), (0xfe31, 0xfe32), (0xfe50, 0xfe51), (0xfe54, 0xfe55),
    (0xfe58, 0xfe58), (0xfe63, 0xfe63), (0xff0c, 0xff0d), (0xff1a, 0xff1b), (0xff64, 0xff64)]

def sentenceClose : CodeSet :=
  .unions [Category.among ["Ps", "Pe", "Pi", "Pf"], .ofRuns [(0x22, 0x22), (0x27, 0x27),
    (0x275b, 0x2760), (0x2e00, 0x2e01), (0x2e06, 0x2e08), (0x2e0b, 0x2e0b), (0x1f676, 0x1f678)]]

def sentenceFormat : CodeSet :=
  (Category.among ["Cf"]).diff (.unions [.range 0x200c 0x200d, numeric, sentenceExtend])

def sentence : List Entry :=
  [(["AT", "ATerm"], stops), (["CR"], .range 13 13), (["CL", "Close"], sentenceClose),
   (["EX", "Extend"], sentenceExtend), (["FO", "Format"], sentenceFormat), (["LF"], .range 10 10),
   (["LO", "Lower"], sentenceLower), (["NU", "Numeric"], numeric),
   (["LE", "OLetter"], sentenceLetter), (["SC", "SContinue"], sentencePause),
   (["SE", "Sep"], separators), (["SP", "Sp"], Listed.whiteSpace.diff (separators.union
     (.ofCodes [10, 13]))), (["ST", "STerm"], Listed.sentenceTerminal.diff stops),
   (["UP", "Upper"], sentenceUpper)]

end Sentence

end PostalAddress.Text.Segment
