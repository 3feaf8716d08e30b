import PostalAddress.Template.Line

/-!
# Compiling a template

`compile` reads the pieces of a source, checks that every closing tag closes the section opened
last, drops the white space of standalone lines and builds the tree of tokens. Of several faults
the first in the source is reported; a section that stays open is reported at the end.
-/

namespace PostalAddress

structure Template where
  source : String
  delimiters : Delimiters
  tokens : List Token

/-- The sections left open after the pieces, innermost first. -/
def openSections : List String → List Piece → Except TemplateError (List String)
  | names, [] => .ok names
  | names, .tag (.opening name _) _ :: ps => openSections (name :: names) ps
  | names, .tag (.closing name) span :: ps =>
    match names with
    | [] => .error (.unopenedSection name span.start)
    | last :: rest =>
      if last = name then openSections rest ps else .error (.unclosedSection last span.start)
  | names, _ :: ps => openSections names ps

def flatTokens (source : List Char) (d : Delimiters) : Except TemplateError (List FlatToken) := do
  let ps := Pieces.read d 0 0 source
  let names ← openSections [] ps.list
  if let some e := ps.failure then throw e
  match names with
  | name :: _ => throw (.unclosedSection name (Text.byteLength source))
  | [] => return FlatToken.squash (LineReader.read ps.list)

namespace Template

def compile (source : String) (d : Delimiters) : Except TemplateError Template := do
  if source.isEmpty then return ⟨source, d, []⟩
  d.check
  let tokens ← Token.nest (← flatTokens source.toList d)
  return ⟨source, d, tokens⟩

/-- The text between the tags of a section, as it stands in the source. -/
def sectionSource (source : String) (span : Span) (closeStart : Nat) : Option String :=
  (Text.sliceBytes span.stop closeStart source.toList).map String.ofList

end Template

end PostalAddress
