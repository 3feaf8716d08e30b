import PostalAddress.Text.Category
import PostalAddress.Text.Listed

/-!
# Classes of characters

The properties of characters that derive from the general category and the listed properties.
The tests of single characters answer ASCII without a table.
-/

namespace PostalAddress.Text

def isAscii (c : Char) : Bool := c.toNat < 128

def alphabetic : CodeSet := (Category.among ["L", "Nl"]).union Listed.otherAlphabetic

def lowercase : CodeSet := (Category.among ["Ll"]).union Listed.otherLowercase

def uppercase : CodeSet := (Category.among ["Lu"]).union Listed.otherUppercase

def cased : CodeSet := .unions [lowercase, uppercase, Category.among ["Lt"]]

/-- The zeros of all scripts. -/
def zeros : List Nat :=
  [0x30, 0x660, 0x6f0, 0x7c0, 0x966, 0x9e6, 0xa66, 0xae6, 0xb66, 0xbe6, 0xc66, 0xce6, 0xd66,
   0xde6, 0xe50, 0xed0, 0xf20, 0x1040, 0x1090, 0x17e0, 0x1810, 0x1946, 0x19d0, 0x1a80, 0x1a90,
   0x1b50, 0x1bb0, 0x1c40, 0x1c50, 0xa620, 0xa8d0, 0xa900, 0xa9d0, 0xa9f0, 0xaa50, 0xabf0,
   0xff10, 0x104a0, 0x10d30, 0x10d40, 0x11066, 0x110f0, 0x11136, 0x111d0, 0x112f0, 0x11450,
   0x114d0, 0x11650, 0x116c0, 0x116d0, 0x116da, 0x11730, 0x118e0, 0x11950, 0x11bf0, 0x11c50,
   0x11d50, 0x11da0, 0x11f50, 0x16130, 0x16a60, 0x16ac0, 0x16b50, 0x16d70, 0x1ccf0, 0x1d7ce,
   0x1d7d8, 0x1d7e2, 0x1d7ec, 0x1d7f6, 0x1e140, 0x1e2f0, 0x1e4f0, 0x1e5f1, 0x1e950, 0x1fbf0]

/-- After a zero come the digits from one to nine. -/
def decimalDigits : CodeSet := ⟨CodeSet.join (zeros.map fun n => (n, n + 9))⟩

/-- Word characters: letters, marks, decimal digits, connecting punctuation and the two joiners. -/
def wordCharacters : CodeSet :=
  .unions [alphabetic, Category.among ["M", "Nd", "Pc"], Listed.joinControl]

/-- Punctuation that may stand inside a word. -/
def wordPunctuation : CodeSet :=
  .ofCodes [0x27, 0x2e, 0x3a, 0xb7, 0x387, 0x55f, 0x5f4, 0x2018, 0x2019, 0x2024, 0x2027, 0xfe13,
    0xfe52, 0xfe55, 0xff07, 0xff0e, 0xff1a]

/-- Characters that do not end a word when case is decided. -/
def caseIgnorable : CodeSet :=
  (Category.among ["Mn", "Me", "Cf", "Lm", "Sk"]).union wordPunctuation

/-- Characters that extend the character before them instead of standing on their own. -/
def graphemeExtend : CodeSet := (Category.among ["Mn", "Me"]).union Listed.otherGraphemeExtend

def graphemeBase : CodeSet :=
  ((Category.among ["C", "Zl", "Zp"]).union graphemeExtend).compl

def math : CodeSet := (Category.among ["Sm"]).union Listed.otherMath

/-- Annotation marks and signs that build hieroglyphs: formats that are not ignorable. -/
def visibleFormats : CodeSet := .ofRuns [(0xfff9, 0xfffb), (0x13430, 0x13440)]

def defaultIgnorable : CodeSet :=
  (CodeSet.unions [Category.among ["Cf"], Listed.otherDefaultIgnorable,
    Listed.variationSelector]).diff
    (.unions [Listed.whiteSpace, visibleFormats, Listed.prependedConcatenationMark])

/-- Characters reserved for the syntax of patterns, which stand in no identifier. -/
def patternCharacters : CodeSet := Listed.patternSyntax.union Listed.patternWhiteSpace

def idStart : CodeSet :=
  ((Category.among ["L", "Nl"]).union Listed.otherIdStart).diff patternCharacters

def idContinue : CodeSet :=
  (CodeSet.unions [idStart, Category.among ["Mn", "Mc", "Nd", "Pc"],
    Listed.otherIdContinue]).diff patternCharacters

/-- Letters that begin no identifier because a compatible spelling of them does not. -/
def unstableStarts : CodeSet :=
  .read "890 1 2744 1 127 1 8679 2 52161 6 406 2 116 1 1 1 1 1 1 1 1 1 1 1 1 1 1 1 287 2"

def unstableContinues : CodeSet :=
  .read "890 1 11552 2 52161 6 406 2 116 1 1 1 1 1 1 1 1 1 1 1 1 1 1 1"

def xidStart : CodeSet := idStart.diff unstableStarts

def xidContinue : CodeSet := idContinue.diff unstableContinues

def isLowercase (c : Char) : Bool := if isAscii c then c.isLower else lowercase.contains c

def isUppercase (c : Char) : Bool := if isAscii c then c.isUpper else uppercase.contains c

def isAlphabetic (c : Char) : Bool := if isAscii c then c.isAlpha else alphabetic.contains c

def isAlphanumeric (c : Char) : Bool :=
  if isAscii c then c.isAlphanum else alphabetic.contains c || (Category.of c).major = 'N'

/-- Decimal digits of any script. -/
def isDigit (c : Char) : Bool :=
  if isAscii c then c.isDigit else Category.of c = ⟨'N', 'd'⟩

def isWord (c : Char) : Bool :=
  if isAscii c then c.isAlphanum || c = '_' else wordCharacters.contains c

def isCased (c : Char) : Bool := if isAscii c then c.isAlpha else cased.contains c

def isCaseIgnorable (c : Char) : Bool := caseIgnorable.contains c

def extendsGrapheme (c : Char) : Bool := !isAscii c && graphemeExtend.contains c

def isPrintable (c : Char) : Bool :=
  c = ' ' || !((Category.of c).major = 'C' || (Category.of c).major = 'Z')

end PostalAddress.Text
