/-!
# Layouts

The layouts of the bundled entries as data: lines of inserted components, of alternatives and of
plain text. `Layout.source` writes a layout as the source of a template.
-/

namespace PostalAddress

inductive LayoutItem
  | insert (name : String)
  /-- The first of several components that is there. -/
  | firstOf (names : List String)
  | text (s : String)
deriving DecidableEq

abbrev Layout := List (List LayoutItem)

namespace LayoutItem

def insertion (name : String) : String := "\x7b\x7b\x7b" ++ name ++ "\x7d\x7d\x7d"

def source : LayoutItem → String
  | .insert name => insertion name
  | .firstOf names =>
    "\x7b\x7b#first\x7d\x7d " ++ " || ".intercalate (names.map insertion) ++
      " \x7b\x7b/first\x7d\x7d"
  | .text s => s

end LayoutItem

/-- Every line ends with a newline. -/
def Layout.source (l : Layout) : String :=
  String.join (l.map fun line => String.join (line.map LayoutItem.source) ++ "\n")

end PostalAddress
