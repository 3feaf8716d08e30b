/-!
# Places in a YAML text

A YAML text is read line by line and column by column. A `Cursor` is what is left of the text and
the place where that begins. A `Gap` is white space between two words of a scalar; it folds, so
that one line break counts as a space and of several the first is dropped.
-/

namespace PostalAddress.Yaml

/-- Line ends other than the two separators count as `\n`. -/
def isBreak (c : Char) : Bool := c = '\n' || c = '\u2028' || c = '\u2029'

def isBlank (c : Char) : Bool := c = ' ' || c = '\t'

/-- White space or the end of the text is next. -/
def endsWord : List Char → Bool
  | [] => true
  | c :: _ => isBlank c || isBreak c

/-- A mark between documents is next. -/
def isDocumentMark (t : List Char) : Bool :=
  let mark := t.take 3
  (mark = ['-', '-', '-'] || mark = ['.', '.', '.']) && endsWord (t.drop 3)

/-- Writes every line end that is no separator as `\n`. -/
def normalizeBreaks : List Char → List Char
  | [] => []
  | '\r' :: '\n' :: r => '\n' :: normalizeBreaks r
  | '\r' :: r => '\n' :: normalizeBreaks r
  | '\u0085' :: r => '\n' :: normalizeBreaks r
  | c :: r => c :: normalizeBreaks r

/-- Characters that may stand in a text. -/
def isAllowed (c : Char) : Bool :=
  let n := c.toNat
  n = 9 || n = 10 || n = 13 || (0x20 ≤ n && n ≤ 0x7E) || n = 0x85 ||
    (0xA0 ≤ n && n ≤ 0xFFFD) || 0x10000 ≤ n

structure Place where
  line : Nat
  column : Nat
  index : Nat
deriving DecidableEq

namespace Place

def start : Place := ⟨0, 0, 0⟩

def right (p : Place) : Place := ⟨p.line, p.column + 1, p.index + 1⟩

def nextLine (p : Place) : Place := ⟨p.line + 1, 0, p.index + 1⟩

/-- The place `n` characters further on the same line. -/
def move (p : Place) (n : Nat) : Place := ⟨p.line, p.column + n, p.index + n⟩

end Place

structure Cursor where
  rest : List Char
  place : Place
deriving DecidableEq

/-- Passes over `n` characters of the line. -/
def Cursor.drop (k : Cursor) (n : Nat) : Cursor := ⟨k.rest.drop n, k.place.move n⟩

/-- White space inside a scalar: blanks of one line, or line breaks, the first of them apart.
There is no first break after a backslash at the end of a line. -/
inductive Gap
  | blanks (cs : List Char)
  | breaks (first : Option Char) (others : List Char)
deriving DecidableEq

namespace Gap

def none : Gap := .blanks []

def isNone : Gap → Bool
  | .blanks cs => cs.isEmpty
  | .breaks _ _ => false

def isBroken : Gap → Bool
  | .blanks _ => false
  | .breaks _ _ => true

/-- Blanks after a break are indentation. -/
def addBlank (c : Char) : Gap → Gap
  | .blanks cs => .blanks (cs ++ [c])
  | .breaks first others => .breaks first others

def addBreak (c : Char) : Gap → Gap
  | .blanks _ => .breaks (some c) []
  | .breaks first others => .breaks first (others ++ [c])

/-- What the gap stands for. -/
def fold : Gap → List Char
  | .blanks cs => cs
  | .breaks first others =>
    if first = some '\n' then if others.isEmpty then [' '] else others
    else first.toList ++ others

end Gap

end PostalAddress.Yaml
