import PostalAddress.Template.Piece

/-!
# Tokens

A compiled template is a tree of tokens with the places they come from. A `FlatToken` is the same
before nesting, where a section is an opening and a closing token. `squash` joins neighbouring
texts and `nest` builds the tree.
-/

namespace PostalAddress

/-- Where a partial's tag stands on its line: what precedes it, with every character that is not
white space made a space, how many tags precede it, and whether such a character does. -/
structure Placement where
  indentation : String
  tagIndex : Nat
  lineHasContent : Bool
deriving DecidableEq

inductive Leaf
  | text (s : String)
  | var (name : String) (escaped : Bool)
  | inclusion (name : String) (placement : Placement)
  | delimiters (d : Delimiters)
  | comment
deriving DecidableEq

inductive FlatToken
  | leaf (l : Leaf) (span : Span)
  | opening (name : String) (inverted : Bool) (span : Span)
  | closing (name : String) (span : Span)
deriving DecidableEq

/-- A section keeps where its closing tag begins, so that its source can be cut out. -/
inductive Token
  | leaf (l : Leaf) (span : Span)
  | block (name : String) (inverted : Bool) (span : Span) (closeStart : Nat)
      (children : List Token)

/-- A section whose closing tag has not been met. -/
structure OpenBlock where
  name : String
  inverted : Bool
  span : Span
  children : List Token

namespace FlatToken

def squash : List FlatToken → List FlatToken
  | [] => []
  | .leaf (.text s) a :: r =>
    match squash r with
    | .leaf (.text s') b :: r' => .leaf (.text (s ++ s')) ⟨a.start, b.stop⟩ :: r'
    | r' => .leaf (.text s) a :: r'
  | t :: r => t :: squash r

end FlatToken

namespace Token

/-- Puts a token at the end of the innermost open section, or of the root. -/
def attach (t : Token) (root : List Token) : List OpenBlock → List Token × List OpenBlock
  | [] => (root ++ [t], [])
  | b :: bs => (root, { b with children := b.children ++ [t] } :: bs)

/-- The tree that begins with `root` and has sections open, innermost first. Sections that stay
open are left out. -/
def nestFrom (root : List Token) (blocks : List OpenBlock) :
    List FlatToken → Except TemplateError (List Token)
  | [] => .ok root
  | .leaf l span :: ts =>
    let (root, blocks) := attach (.leaf l span) root blocks
    nestFrom root blocks ts
  | .opening name inverted span :: ts => nestFrom root (⟨name, inverted, span, []⟩ :: blocks) ts
  | .closing name span :: ts =>
    match blocks with
    | [] => .error (.unopenedSection name span.start)
    | b :: bs =>
      let (root, bs) := attach (.block b.name b.inverted b.span span.start b.children) root bs
      nestFrom root bs ts

def nest (ts : List FlatToken) : Except TemplateError (List Token) := nestFrom [] [] ts

end Token

end PostalAddress
