import PostalAddress.Text.CharClass

/-!
# Conditions on places

A `Place` is a position in a text. A `Look` is a condition on a place that reads no character: the
ends of the text and of its lines, and the boundaries of words.
-/

namespace PostalAddress

/-- A place in a text: the character before it, what follows, and how many characters precede. -/
structure Place where
  before : Option Char
  rest : List Char
  offset : Nat

/-- With `returns`, a carriage return ends a line too and no line ends inside a pair. With
`unicode`, the characters of words are those of all scripts. -/
inductive Look
  | textStart
  | textEnd
  | lineStart (returns : Bool)
  | lineEnd (returns : Bool)
  | boundary (unicode : Bool)
  | noBoundary (unicode : Bool)
  | wordStart (unicode : Bool)
  | wordEnd (unicode : Bool)
  | beforeWord (unicode : Bool)
  | afterWord (unicode : Bool)
deriving DecidableEq

namespace Place

def start (t : List Char) : Place := ⟨none, t, 0⟩

def isLineStart (returns : Bool) (p : Place) : Bool :=
  match p.before with
  | none => true
  | some '\n' => true
  | some '\r' => returns && p.rest.head? != some '\n'
  | some _ => false

def isLineEnd (returns : Bool) (p : Place) : Bool :=
  match p.rest with
  | [] => true
  | '\n' :: _ => !(returns && p.before = some '\r')
  | '\r' :: _ => returns
  | _ => false

end Place

namespace Look

def isWord (unicode : Bool) (c : Char) : Bool :=
  if unicode then Text.isWord c else c.isAlphanum || c = '_'

def holds (p : Place) (l : Look) : Bool :=
  let after := fun unicode => p.before.any (isWord unicode)
  let ahead := fun unicode => p.rest.head?.any (isWord unicode)
  match l with
  | .textStart => p.before.isNone
  | .textEnd => p.rest.isEmpty
  | .lineStart returns => p.isLineStart returns
  | .lineEnd returns => p.isLineEnd returns
  | .boundary u => after u != ahead u
  | .noBoundary u => after u == ahead u
  | .wordStart u => !after u && ahead u
  | .wordEnd u => after u && !ahead u
  | .beforeWord u => !after u
  | .afterWord u => !ahead u

end Look

end PostalAddress
