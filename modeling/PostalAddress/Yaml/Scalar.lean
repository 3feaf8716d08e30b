import PostalAddress.Yaml.Cursor

/-!
# Scalars

The readers of plain, quoted and block scalars. Each gives the text a scalar stands for and the
cursor after it, or nothing when the scalar is malformed. A plain scalar takes the white space
after it along, since only what follows tells whether it goes on.
-/

namespace PostalAddress.Yaml.Scalar

/-- Puts what was read in front of what is read next. -/
def before {α : Type} (t : List Char) : Option (List Char × α) → Option (List Char × α)
  | some (s, a) => some (t ++ s, a)
  | none => none

/-- What ends a plain scalar: a colon before white space, and brackets and commas in a flow. -/
def endsPlain (inFlow : Bool) (c : Char) (r : List Char) : Bool :=
  (c = ':' && endsWord r) || (inFlow && ",[]\x7b\x7d".toList.contains c)

/-- In a flow a colon must not touch a bracket, comma or question mark. -/
def isAmbiguousColon (inFlow : Bool) (c : Char) (r : List Char) : Bool :=
  inFlow && c = ':' && r.head?.any ",?[]\x7b\x7d".toList.contains

/-- After white space a plain scalar also ends at a lesser indentation, a comment or a mark. -/
def endsPlainAfterGap (inFlow : Bool) (indent : Nat) (p : Place) (t : List Char) : Bool :=
  (!inFlow && p.column < indent) || t.head? = some '#' || (p.column = 0 && isDocumentMark t)

/-- A plain scalar, whose further lines are indented by `indent` at least. -/
def plain (inFlow : Bool) (indent : Nat) : Gap → Place → List Char →
    Option (List Char × Gap × Cursor)
  | gap, p, [] => some ([], gap, ⟨[], p⟩)
  | gap, p, c :: r =>
    if isBlank c then
      if gap.isBroken && p.column < indent && c = '\t' then none
      else plain inFlow indent (gap.addBlank c) p.right r
    else if isBreak c then plain inFlow indent (gap.addBreak c) p.nextLine r
    else if !gap.isNone && endsPlainAfterGap inFlow indent p (c :: r) then
      some ([], gap, ⟨c :: r, p⟩)
    else if isAmbiguousColon inFlow c r then none
    else if endsPlain inFlow c r then some ([], gap, ⟨c :: r, p⟩)
    else before (gap.fold ++ [c]) (plain inFlow indent .none p.right r)

/-- A scalar in single quotes, after the opening quote. A quote inside is written twice. -/
def singleQuoted : Gap → Place → List Char → Option (List Char × Cursor)
  | _, _, [] => none
  | gap, p, c :: r =>
    if p.column = 0 && isDocumentMark (c :: r) then none
    else if isBlank c then singleQuoted (gap.addBlank c) p.right r
    else if isBreak c then singleQuoted (gap.addBreak c) p.nextLine r
    else if c = '\x27' then
      match r with
      | '\x27' :: r => before (gap.fold ++ [c]) (singleQuoted .none (p.move 2) r)
      | r => some (gap.fold, ⟨r, p.right⟩)
    else before (gap.fold ++ [c]) (singleQuoted .none p.right r)

def hexValue? (c : Char) : Option Nat :=
  if '0' ≤ c && c ≤ '9' then some (c.toNat - 48)
  else if 'a' ≤ c && c ≤ 'f' then some (c.toNat - 87)
  else if 'A' ≤ c && c ≤ 'F' then some (c.toNat - 55)
  else none

/-- How many hexadecimal digits follow a letter that introduces a code. -/
def codeLength? (c : Char) : Option Nat :=
  if c = 'x' then some 2 else if c = 'u' then some 4 else if c = 'U' then some 8 else none

def escapeTable : List (Char × Char) :=
  [('0', '\x00'), ('a', '\x07'), ('b', '\x08'), ('t', '\t'), ('\t', '\t'), ('n', '\n'),
   ('v', '\x0b'), ('f', '\x0c'), ('r', '\r'), ('e', '\x1b'), (' ', ' '), ('\x22', '\x22'),
   ('/', '/'), ('\\', '\\'), ('N', '\u0085'), ('_', '\u00a0'), ('L', '\u2028'), ('P', '\u2029')]

/-- Where in an escape a reader stands: before it, after the backslash, or in a code of which
`left` digits and one more are to come. -/
inductive EscapeState
  | outside
  | backslash
  | code (left value : Nat)
deriving DecidableEq

def charOfCode? (n : Nat) : Option Char := if n.isValidChar then some (Char.ofNat n) else none

/-- A scalar in double quotes, after the opening quote. -/
def doubleQuoted : EscapeState → Gap → Place → List Char → Option (List Char × Cursor)
  | _, _, _, [] => none
  | .outside, gap, p, c :: r =>
    if p.column = 0 && isDocumentMark (c :: r) then none
    else if isBlank c then doubleQuoted .outside (gap.addBlank c) p.right r
    else if isBreak c then doubleQuoted .outside (gap.addBreak c) p.nextLine r
    else if c = '\x22' then some (gap.fold, ⟨r, p.right⟩)
    else if c = '\\' then before gap.fold (doubleQuoted .backslash .none p.right r)
    else before (gap.fold ++ [c]) (doubleQuoted .outside .none p.right r)
  | .backslash, _, p, c :: r =>
    if isBreak c then doubleQuoted .outside (.breaks none []) p.nextLine r
    else
      match codeLength? c with
      | some n => doubleQuoted (.code (n - 1) 0) .none p.right r
      | none =>
        match escapeTable.lookup c with
        | some d => before [d] (doubleQuoted .outside .none p.right r)
        | none => none
  | .code left value, _, p, c :: r =>
    match hexValue? c with
    | none => none
    | some d =>
      let value := 16 * value + d
      match left with
      | left + 1 => doubleQuoted (.code left value) .none p.right r
      | 0 =>
        match charOfCode? value with
        | some ch => before [ch] (doubleQuoted .outside .none p.right r)
        | none => none

/-- What becomes of the line breaks at the end of a block scalar. -/
inductive Chomping
  | clip
  | strip
  | keep
deriving DecidableEq

def chomping? (c : Char) : Option Chomping :=
  if c = '-' then some .strip else if c = '+' then some .keep else none

/-- The digit that sets the indentation of a block scalar; zero sets none. -/
def indentDigit? (c : Char) : Option Nat :=
  if '1' ≤ c && c ≤ '9' then some (c.toNat - 48) else none

/-- The marks after `|` or `>`, in either order. -/
def blockMarks (t : List Char) : Chomping × Nat × List Char :=
  match t.head?.bind chomping? with
  | some chomp =>
    match (t.drop 1).head?.bind indentDigit? with
    | some n => (chomp, n, t.drop 2)
    | none => (chomp, 0, t.drop 1)
  | none =>
    match t.head?.bind indentDigit? with
    | some n =>
      match (t.drop 1).head?.bind chomping? with
      | some chomp => (chomp, n, t.drop 2)
      | none => (.clip, n, t.drop 1)
    | none => (.clip, 0, t)

/-- The line after the marks may hold a comment only. -/
def restOfHeader? (t : List Char) : Option (List Char) :=
  let t := t.dropWhile isBlank
  let t := if t.head? = some '#' then t.dropWhile (!isBreak ·) else t
  match t with
  | [] => some []
  | c :: r => if isBreak c then some r else none

/-- The empty lines before a line of a block scalar, and the indentation of that line: the widest
indentation met, the line breaks and the cursor. -/
def blockGap (indent : Nat) : (widest : Nat) → Place → List Char →
    Option (Nat × List Char × Cursor)
  | w, p, [] => some (max w p.column, [], ⟨[], p⟩)
  | w, p, c :: r =>
    let isIndentation := indent = 0 || p.column < indent
    if c = ' ' && isIndentation then blockGap indent w p.right r
    else if c = '\t' && isIndentation then none
    else if isBreak c then
      match blockGap indent (max w p.column) p.nextLine r with
      | some (w, breaks, k) => some (w, c :: breaks, k)
      | none => none
    else some (max w p.column, [], ⟨c :: r, p⟩)

/-- What stands between two lines. Lines that begin with a blank are not folded. -/
def blockJoint (folded besideBlank : Bool) (leading breaks : List Char) : List Char :=
  if folded && leading = ['\n'] && !besideBlank then if breaks.isEmpty then [' '] else breaks
  else leading ++ breaks

/-- A line without its break, the break, and the cursor after it. -/
def takeLine (k : Cursor) : List Char × List Char × Cursor :=
  let line := k.rest.takeWhile (!isBreak ·)
  match k.rest.dropWhile (!isBreak ·) with
  | [] => (line, [], ⟨[], k.place.move line.length⟩)
  | c :: r => (line, [c], ⟨r, (k.place.move line.length).nextLine⟩)

/-- The lines of a block scalar: the text up to the last line, the break that ends that line, the
breaks after it and the cursor. The fuel bounds the number of lines. -/
def blockLines (folded : Bool) (indent : Nat) : (fuel : Nat) → (afterBlank : Bool) →
    (leading breaks : List Char) → Cursor → Option (List Char × List Char × List Char × Cursor)
  | 0, _, _, _, _ => none
  | fuel + 1, afterBlank, leading, breaks, k =>
    if k.place.column = indent && !k.rest.isEmpty then
      let blank := k.rest.head?.any isBlank
      let joint := blockJoint folded (afterBlank || blank) leading breaks
      let (line, leading, k) := takeLine k
      match blockGap indent 0 k.place k.rest with
      | some (_, breaks, k) =>
        before (joint ++ line) (blockLines folded indent fuel blank leading breaks k)
      | none => none
    else some ([], leading, breaks, k)

/-- A block scalar after its `|` or `>`, in a collection whose nodes are indented by `base`. -/
def block (folded : Bool) (base : Nat) (k : Cursor) : Option (List Char × Cursor) := do
  let (chomp, digit, t) := blockMarks k.rest
  let t ← restOfHeader? t
  let indent := if digit = 0 then 0 else base - 1 + digit
  let (widest, breaks, k) ← blockGap indent 0 k.place.nextLine t
  let indent := if indent = 0 then max (max widest base) 1 else indent
  let (text, leading, breaks, k) ←
    blockLines folded indent (k.rest.length + 1) false [] breaks k
  match chomp with
  | .strip => some (text, k)
  | .clip => some (text ++ leading, k)
  | .keep => some (text ++ leading ++ breaks, k)

end PostalAddress.Yaml.Scalar
