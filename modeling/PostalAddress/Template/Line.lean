import PostalAddress.Template.Token

/-!
# Lines of a template

A line ends with a newline character; newlines inside tags end none. Where a line holds tags, none
of them a variable, and otherwise white space only, its white space, the newline included, is
dropped once the line has been read.
-/

namespace PostalAddress

def Piece.endsLine : Piece → Bool
  | .letter c _ => c = '\n'
  | .tag _ _ => false

namespace Placement

def start : Placement := ⟨"", 0, false⟩

/-- The placement of what follows a piece on the same line. -/
def after (before : Placement) : Piece → Placement
  | .letter c _ =>
    if Text.isBlank c then { before with indentation := before.indentation.push c }
    else { before with indentation := before.indentation.push ' ', lineHasContent := true }
  | .tag _ _ => { before with tagIndex := before.tagIndex + 1 }

end Placement

def FlatToken.ofPiece (before : Placement) : Piece → FlatToken
  | .letter c span => .leaf (.text (String.singleton c)) span
  | .tag (.var name escaped) span => .leaf (.var name escaped) span
  | .tag (.opening name inverted) span => .opening name inverted span
  | .tag (.closing name) span => .closing name span
  | .tag (.inclusion name) span => .leaf (.inclusion name before) span
  | .tag (.delimiters d) span => .leaf (.delimiters d) span
  | .tag .comment span => .leaf .comment span

/-- What is known of a line before its end: where its white space stands among the tokens, whether
a tag has been met, and whether something that is shown has, a text or a variable. -/
structure LineState where
  spaces : Array Nat
  hasTag : Bool
  nonSpace : Bool
  placement : Placement

namespace LineState

def start : LineState := ⟨#[], false, false, .start⟩

/-- The line with one more piece, whose token is the one at `index`. -/
def after (line : LineState) (index : Nat) (p : Piece) : LineState :=
  let line := { line with placement := line.placement.after p }
  match p with
  | .letter c _ =>
    if Text.isBlank c then { line with spaces := line.spaces.push index }
    else { line with nonSpace := true }
  | .tag (.var _ _) _ => { line with hasTag := true, nonSpace := true }
  | .tag _ _ => { line with hasTag := true }

end LineState

/-- Reads pieces into tokens. A token that is dropped leaves its place empty, so that the places
that the line remembers stay right. -/
structure LineReader where
  tokens : Array (Option FlatToken)
  line : LineState

namespace LineReader

def start : LineReader := ⟨#[], .start⟩

/-- Drops the white space of a line that holds tags and shows nothing. -/
def stripSpace (r : LineReader) : LineReader :=
  { tokens :=
      if r.line.hasTag && !r.line.nonSpace then
        r.line.spaces.foldl (fun tokens i => tokens.setIfInBounds i none) r.tokens
      else r.tokens
    line := { r.line with spaces := #[], hasTag := false, nonSpace := false } }

def push (r : LineReader) (p : Piece) : LineReader :=
  { tokens := r.tokens.push (some (.ofPiece r.line.placement p))
    line := r.line.after r.tokens.size p }

def step (r : LineReader) (p : Piece) : LineReader :=
  if p.endsLine then
    let r := (r.push p).stripSpace
    { r with line := { r.line with placement := .start } }
  else r.push p

/-- The tokens that are left of pieces, the last line stripped like the others. -/
def read (ps : List Piece) : List FlatToken :=
  (ps.foldl step start).stripSpace.tokens.toList.filterMap id

end LineReader

end PostalAddress
