import PostalAddress.Template.Delimiters
import PostalAddress.Template.Scanner

/-!
# The pieces of a template source

A source is a sequence of pieces: literal characters one by one, and tags, each with the bytes it
takes. A tag is an opening delimiter, a sigil, a value and a closing delimiter; white space before
and after the value is not part of it. A tag with `=` changes the delimiters of what follows.
`pieces` reads as far as every tag can be read and says why it stopped.
-/

namespace PostalAddress

/-- Bytes of a source, from `start` up to `stop`. -/
structure Span where
  start : Nat
  stop : Nat
deriving DecidableEq

inductive Tag
  | var (name : String) (escaped : Bool)
  | opening (name : String) (inverted : Bool)
  | closing (name : String)
  | inclusion (name : String)
  | delimiters (d : Delimiters)
  | comment
deriving DecidableEq

inductive Piece
  | letter (c : Char) (span : Span)
  | tag (t : Tag) (span : Span)
deriving DecidableEq

/-- The pieces of a source, and what ended them before its end. -/
structure Pieces where
  list : List Piece
  failure : Option TemplateError
deriving DecidableEq

namespace Tag

open Text

/-- The delimiters that hold after a tag. -/
def delimitersAfter (d : Delimiters) : Tag → Delimiters
  | .delimiters d' => d'
  | _ => d

def sigil : Front
  | [] => none
  | c :: _ => if "#^/>\x7b&=!".toList.contains c then some 1 else none

def openingFront (d : Delimiters) : Front := (Front.exactly d.opening.toList).andThen .blanks

def closingFront (d : Delimiters) : Front := .spaced d.closing.toList

/-- Passes over `stop` where it stands next, and then up to the closing delimiter. -/
def skipTo (d : Delimiters) (stop : Front) (s : Scanner) : Scanner :=
  ((s.scan stop.find?).2.scanUntil (closingFront d).find?).2

/-- The value of a tag whose sigil has been read. -/
def scanValue (d : Delimiters) (sigil : List Char) (s : Scanner) : List Char × Scanner :=
  if sigil = ['='] then
    let (value, s) := s.scanUntil (Front.spaced ['=']).find?
    (value, skipTo d (.spaced ['=']) s)
  else if sigil = ['\x7b'] then
    let (value, s) := s.scanUntil (Front.spaced ('\x7d' :: d.closing.toList)).find?
    (value, skipTo d (.spaced ['\x7d']) s)
  else s.scanUntil (closingFront d).find?

def ofSigil (sigil : List Char) (value : String) : Except TemplateError Tag :=
  match sigil with
  | ['#'] => .ok (.opening value false)
  | ['^'] => .ok (.opening value true)
  | ['/'] => .ok (.closing value)
  | ['>'] => .ok (.inclusion value)
  | ['='] => do
    let d ← Delimiters.parse value
    d.check
    return .delimiters d
  | ['!'] => .ok .comment
  | ['\x7b'] => .ok (.var value false)
  | ['&'] => .ok (.var value false)
  | _ => .ok (.var value true)

/-- Reads the tag that begins where the scanner stands. -/
def scan (d : Delimiters) (s : Scanner) : Except TemplateError (Tag × Scanner) := do
  let (_, s) := s.scan (openingFront d).find?
  let (mark, s) := s.scan sigil.find?
  let (_, s) := s.scan Front.blanks.find?
  let (value, s) := scanValue d mark s
  let (closed, s) := s.scan (closingFront d).find?
  if closed.isEmpty then throw (.unclosedTag s.position)
  let tag ← ofSigil mark (String.ofList value)
  return (tag, s)

end Tag

namespace Pieces

def cons (p : Piece) (ps : Pieces) : Pieces := ⟨p :: ps.list, ps.failure⟩

/-- The pieces of what follows `position` bytes of source. The number before the text counts the
characters of it that belong to a tag already read. -/
def read (d : Delimiters) (position : Nat) : Nat → List Char → Pieces
  | _, [] => ⟨[], none⟩
  | k + 1, c :: r => read d (position + c.utf8Size) k r
  | 0, c :: r =>
    if d.opening.toList.isPrefixOf (c :: r) then
      match Tag.scan d ⟨c :: r, position⟩ with
      | .error e => ⟨[], some e⟩
      | .ok (tag, after) =>
        cons (.tag tag ⟨position, after.position⟩)
          (read (tag.delimitersAfter d) (position + c.utf8Size) (r.length - after.rest.length) r)
    else
      cons (.letter c ⟨position, position + c.utf8Size⟩) (read d (position + c.utf8Size) 0 r)

end Pieces

end PostalAddress
