import PostalAddress.Document

/-!
# Abbreviations

The words that a language abbreviates in a component of the address.
-/

namespace PostalAddress

structure Abbreviation where
  src : String
  dest : String
deriving DecidableEq

structure AbbreviationRule where
  component : String
  replacements : List Abbreviation
deriving DecidableEq

namespace Abbreviation

def toJson (a : Abbreviation) : Json := .object [("src", .string a.src), ("dest", .string a.dest)]

def read? {ν : Type} [Document ν] (n : ν) : Option Abbreviation := do
  match ← Document.fields? ["src", "dest"] n with
  | [some src, some dest] => some ⟨← Document.text? src, ← Document.text? dest⟩
  | _ => none

end Abbreviation

namespace AbbreviationRule

def toJson (r : AbbreviationRule) : Json :=
  .object [("component", .string r.component),
    ("replacements", .array (r.replacements.map Abbreviation.toJson))]

def read? {ν : Type} [Document ν] (n : ν) : Option AbbreviationRule := do
  match ← Document.fields? ["component", "replacements"] n with
  | [some component, some replacements] =>
    some ⟨← Document.text? component, ← Document.list? Abbreviation.read? replacements⟩
  | _ => none

end AbbreviationRule

end PostalAddress
