import PostalAddress.Pattern.Basic
import PostalAddress.Text.Blank
import PostalAddress.Text.Quoted

/-!
# Delimiters and what can be wrong with a template

Tags stand between an opening and a closing delimiter, double braces unless a template or its
caller sets others. The patterns that find them have to fit into the memory that a pattern may take.
`TemplateError` names the ways in which a template fails to be read; positions count bytes.
-/

namespace PostalAddress

structure Delimiters where
  opening : String
  closing : String
deriving DecidableEq

inductive TemplateError
  | invalidDelimiters (spec : String)
  | unclosedTag (position : Nat)
  | unopenedSection (name : String) (position : Nat)
  | unclosedSection (name : String) (position : Nat)
  | missingSource
  /-- Partials and lambdas went deeper than the renderer allows. -/
  | nestedTooDeeply
deriving DecidableEq

namespace TemplateError

def message : TemplateError → String
  | .invalidDelimiters spec => "invalid delimiters: " ++ String.ofList (Text.quoted spec.toList)
  | .unclosedTag n => "unclosed tag at " ++ toString n
  | .unopenedSection name n => "unopened section \x22" ++ name ++ "\x22 at " ++ toString n
  | .unclosedSection name n => "unclosed section \x22" ++ name ++ "\x22 at " ++ toString n
  | .missingSource => "cannot use higher-order sections without the original template"
  | .nestedTooDeeply => "template is nested too deeply"

end TemplateError

namespace Delimiters

def braces : Delimiters := ⟨"\x7b\x7b", "\x7d\x7d"⟩

instance : Inhabited Delimiters := ⟨braces⟩

/-- Reads two delimiters set apart by white space. -/
def parse (spec : String) : Except TemplateError Delimiters :=
  match Text.words spec.toList with
  | [a, b] => .ok ⟨String.ofList a, String.ofList b⟩
  | _ => .error (.invalidDelimiters spec)

/-- The patterns of tags with these delimiters: an opening one with the white space after it, and a
closing one with the white space before it, alone and behind a brace. -/
def patterns (d : Delimiters) : List String :=
  [String.ofList (Pattern.escape d.opening.toList) ++ "\\s*",
    "\\s*" ++ String.ofList (Pattern.escape d.closing.toList),
    "\\s*" ++ String.ofList (Pattern.escape ('\x7d' :: d.closing.toList))]

/-- Refuses an empty delimiter, and one that is too long for a pattern. -/
def check (d : Delimiters) : Except TemplateError Unit :=
  if d.opening.isEmpty || d.closing.isEmpty ||
      d.patterns.any fun p => (Pattern.parse? p).isNone then
    .error (.invalidDelimiters (d.opening ++ " " ++ d.closing))
  else .ok ()

/-- The key under which a compiled source is kept. Different pairs may share one. -/
def cacheKey (d : Delimiters) (source : String) : String :=
  source ++ ":" ++ d.opening ++ ":" ++ d.closing

end Delimiters

end PostalAddress
