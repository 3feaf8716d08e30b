import PostalAddress.Yaml.Scalar

/-!
# Tokens of YAML

`Token.read?` cuts a text into tokens. Outside flow collections the indentation of the lines opens
and closes block collections. Whether a scalar is a key shows only at the colon after it, so its
place is remembered until then: the colon must come on the same line and within 1024 characters.
Tags and directives are refused.
-/

namespace PostalAddress.Yaml

inductive Token
  | documentStart
  | documentEnd
  | blockSequence
  | blockMapping
  | blockEnd
  | flowSequence
  | flowSequenceEnd
  | flowMapping
  | flowMappingEnd
  | entry
  | separator
  | key
  | value
  | anchor (name : String)
  | reference (name : String)
  | scalar (text : String) (plain : Bool)
deriving DecidableEq

/-- A scalar or collection that may turn out to be a key: how many tokens precede it, where it
begins, and whether nothing else could stand there. -/
structure PossibleKey where
  slot : Nat
  place : Place
  required : Bool
deriving DecidableEq

/-- What has been read so far. Tokens, block collections by their column, and flow levels by the
key that may begin in them are kept innermost or latest first. -/
structure TokenReader where
  cursor : Cursor
  tokens : List Token
  columns : List Nat
  keyAllowed : Bool
  pending : Option PossibleKey
  outer : List (Option PossibleKey)

namespace TokenReader

def ofText (t : List Char) : TokenReader := ⟨⟨t, .start⟩, [], [], true, none, []⟩

def inFlow (r : TokenReader) : Bool := !r.outer.isEmpty

def column (r : TokenReader) : Nat := r.cursor.place.column

/-- The least column of nodes inside the innermost block collection. -/
def base (r : TokenReader) : Nat := r.columns.head?.elim 0 (· + 1)

def push (t : Token) (r : TokenReader) : TokenReader := { r with tokens := t :: r.tokens }

def drop (n : Nat) (r : TokenReader) : TokenReader := { r with cursor := r.cursor.drop n }

/-- Puts tokens in after the first `slot` ones. -/
def insertAt (slot : Nat) (ts : List Token) (r : TokenReader) : TokenReader :=
  let n := r.tokens.length - slot
  { r with tokens := r.tokens.take n ++ ts.reverse ++ r.tokens.drop n }

/-- White space, comments and line breaks are passed over, and a byte order mark before the text; a
line break allows keys again. Tabs do not indent block collections. -/
def skipGap (inFlow : Bool) : (keyAllowed inComment : Bool) → Place → List Char → Bool × Cursor
  | allowed, _, p, [] => (allowed, ⟨[], p⟩)
  | allowed, comment, p, c :: r =>
    if isBreak c then skipGap inFlow (allowed || !inFlow) false p.nextLine r
    else if comment then skipGap inFlow allowed true p.right r
    else if c = ' ' || (c = '\t' && (inFlow || !allowed)) then
      skipGap inFlow allowed false p.right r
    else if c = '#' then skipGap inFlow allowed true p.right r
    else if c = '\ufeff' && p.index = 0 then skipGap inFlow allowed false p.right r
    else (allowed, ⟨c :: r, p⟩)

def toNextToken (r : TokenReader) : TokenReader :=
  let (allowed, k) := skipGap r.inFlow r.keyAllowed false r.cursor.place r.cursor.rest
  { r with keyAllowed := allowed, cursor := k }

def keyReach : Nat := 1024

/-- Forgets a key whose colon can no longer come; nothing if there had to be one. -/
def expire? (p : Place) : Option PossibleKey → Option (Option PossibleKey)
  | none => some none
  | some k =>
    if k.place.line < p.line || k.place.index + keyReach < p.index then
      if k.required then none else some none
    else some (some k)

def expireKeys? (r : TokenReader) : Option TokenReader := do
  let pending ← expire? r.cursor.place r.pending
  let outer ← r.outer.mapM (expire? r.cursor.place)
  some { r with pending := pending, outer := outer }

/-- Ends the block collections that are indented by more than `column`. -/
def closeBlocks (column : Nat) (tokens : List Token) : List Nat → List Token × List Nat
  | [] => (tokens, [])
  | n :: ns =>
    if column < n then closeBlocks column (.blockEnd :: tokens) ns else (tokens, n :: ns)

def dedent (r : TokenReader) : TokenReader :=
  if r.inFlow then r
  else
    let (tokens, columns) := closeBlocks r.column r.tokens r.columns
    { r with tokens := tokens, columns := columns }

/-- Ends all block collections. -/
def dedentAll (r : TokenReader) : TokenReader :=
  if r.inFlow then r
  else { r with tokens := r.columns.map (fun _ => .blockEnd) ++ r.tokens, columns := [] }

def opensBlock (r : TokenReader) (column : Nat) : Bool :=
  !r.inFlow && r.columns.head?.all (· < column)

/-- Begins a block collection when the line is indented further. -/
def indent (t : Token) (r : TokenReader) : TokenReader :=
  if r.opensBlock r.column then push t { r with columns := r.column :: r.columns } else r

/-- Gives up a key that may have begun in this level. -/
def dropKey? (r : TokenReader) : Option TokenReader :=
  if r.pending.any PossibleKey.required then none else some { r with pending := none }

/-- Remembers that a key may begin here. -/
def markKey? (r : TokenReader) : Option TokenReader :=
  if r.keyAllowed then do
    let r ← r.dropKey?
    let required := !r.inFlow && r.columns.head? = some r.column
    some { r with pending := some ⟨r.tokens.length, r.cursor.place, required⟩ }
  else some r

def allowKey (b : Bool) (r : TokenReader) : TokenReader := { r with keyAllowed := b }

def openFlow? (t : Token) (r : TokenReader) : Option TokenReader := do
  let r ← r.markKey?
  let opened := { r with keyAllowed := true, pending := none, outer := r.pending :: r.outer }
  some (drop 1 (push t opened))

def closeFlow? (t : Token) (r : TokenReader) : Option TokenReader := do
  let r ← r.dropKey?
  let r := match r.outer with
    | [] => r
    | k :: ks => { r with pending := k, outer := ks }
  some (drop 1 (push t (r.allowKey false)))

def readSeparator? (r : TokenReader) : Option TokenReader := do
  let r ← r.dropKey?
  some (drop 1 (push .separator (r.allowKey true)))

def readEntry? (r : TokenReader) : Option TokenReader := do
  if !r.inFlow && !r.keyAllowed then none
  let r ← (r.indent .blockSequence).dropKey?
  some (drop 1 (push .entry (r.allowKey true)))

def readKeyMark? (r : TokenReader) : Option TokenReader := do
  if !r.inFlow && !r.keyAllowed then none
  let r ← (r.indent .blockMapping).dropKey?
  some (drop 1 (push .key (r.allowKey !r.inFlow)))

/-- A colon: what was remembered as a possible key is one. -/
def readValueMark? (r : TokenReader) : Option TokenReader :=
  match r.pending with
  | some k =>
    let column := k.place.column
    let r' := if r.opensBlock column then
        insertAt k.slot [.blockMapping, .key] { r with columns := column :: r.columns }
      else insertAt k.slot [.key] r
    some (drop 1 (push .value { r' with pending := none, keyAllowed := false }))
  | none =>
    if !r.inFlow && !r.keyAllowed then none
    else some (drop 1 (push .value ((r.indent .blockMapping).allowKey !r.inFlow)))

def isNameChar (c : Char) : Bool := c.isAlphanum || c = '_' || c = '-'

/-- The name after `&` or `*`. -/
def readName? (t : List Char) : Option String :=
  let name := t.takeWhile isNameChar
  let rest := t.dropWhile isNameChar
  if !name.isEmpty && (endsWord rest || rest.head?.any "?:,]\x7d%@\x60".toList.contains) then
    some (String.ofList name)
  else none

def readNamed? (token : String → Token) (r : TokenReader) : Option TokenReader := do
  let r ← r.markKey?
  let name ← readName? (r.cursor.rest.drop 1)
  some (drop (1 + name.length) (push (token name) (r.allowKey false)))

def scalarAt (text : List Char) (isPlain : Bool) (k : Cursor) (r : TokenReader) : TokenReader :=
  push (.scalar (String.ofList text) isPlain) { r with cursor := k }

def readBlockScalar? (folded : Bool) (r : TokenReader) : Option TokenReader := do
  let r ← r.dropKey?
  let (text, k) ← Scalar.block folded r.base (r.cursor.drop 1)
  some (scalarAt text false k (r.allowKey true))

def readQuoted? (scan : Place → List Char → Option (List Char × Cursor)) (r : TokenReader) :
    Option TokenReader := do
  let r ← r.markKey?
  let k := r.cursor.drop 1
  let (text, k) ← scan k.place k.rest
  some (scalarAt text false k (r.allowKey false))

def readPlain? (r : TokenReader) : Option TokenReader := do
  let r ← r.markKey?
  let (text, gap, k) ← Scalar.plain r.inFlow r.base .none r.cursor.place r.cursor.rest
  some (scalarAt text true k (r.allowKey gap.isBroken))

def readDocumentMark? (r : TokenReader) : Option TokenReader := do
  let t := if r.cursor.rest.head? = some '-' then Token.documentStart else .documentEnd
  let r ← r.dedentAll.dropKey?
  some (drop 3 (push t (r.allowKey false)))

/-- Characters that begin no plain scalar, blanks apart. -/
def indicators : List Char := "-?:,[]\x7b\x7d#&*!|>\x27\x22%@\x60".toList

def beginsPlain (inFlow : Bool) (c : Char) (r : List Char) : Bool :=
  (!isBlank c && !indicators.contains c) || (c = '-' && !r.head?.any isBlank) ||
    (!inFlow && (c = '?' || c = ':') && !endsWord r)

/-- Reads the token that begins with `c`, which `rest` follows. -/
def readToken? (c : Char) (rest : List Char) (r : TokenReader) : Option TokenReader :=
  if r.column = 0 && c = '%' then none
  else if r.column = 0 && isDocumentMark (c :: rest) then r.readDocumentMark?
  else if c = '[' then r.openFlow? .flowSequence
  else if c = '\x7b' then r.openFlow? .flowMapping
  else if c = ']' then r.closeFlow? .flowSequenceEnd
  else if c = '\x7d' then r.closeFlow? .flowMappingEnd
  else if c = ',' then r.readSeparator?
  else if c = '-' && endsWord rest then r.readEntry?
  else if c = '?' && (r.inFlow || endsWord rest) then r.readKeyMark?
  else if c = ':' && (r.inFlow || endsWord rest) then r.readValueMark?
  else if c = '*' then r.readNamed? .reference
  else if c = '&' then r.readNamed? .anchor
  else if c = '|' && !r.inFlow then r.readBlockScalar? false
  else if c = '>' && !r.inFlow then r.readBlockScalar? true
  else if c = '\x27' then r.readQuoted? (Scalar.singleQuoted .none)
  else if c = '\x22' then r.readQuoted? (Scalar.doubleQuoted .outside .none)
  else if beginsPlain r.inFlow c rest then r.readPlain?
  else none

/-- Reads to the end of the text. Every token takes a character, so its length is fuel enough. -/
def readAll? : (fuel : Nat) → TokenReader → Option (List Token)
  | 0, _ => none
  | fuel + 1, r => do
    let r ← r.toNextToken.expireKeys?
    let r := r.dedent
    match r.cursor.rest with
    | [] =>
      let r ← r.dedentAll.dropKey?
      some r.tokens.reverse
    | c :: rest => readAll? fuel (← r.readToken? c rest)

end TokenReader

def Token.read? (t : List Char) : Option (List Token) :=
  TokenReader.readAll? (t.length + 1) (.ofText t)

end PostalAddress.Yaml
