import PostalAddress.Address.Component
import PostalAddress.Address.Fields
import PostalAddress.Text.SnakeCase

/-!
# Spelling of keys

Keys may be written in other ways than the names of the components. A key moves to its other
spelling when that is a known component which the address does not fill in already; an empty value
never takes the place of another.
-/

namespace PostalAddress.Fields

section

variable (spell : String → String) (components : ComponentTable)

/-- Whether `key` takes its other spelling, with `out` holding the fields before it. -/
def movesTo (f out : Fields) (key : String) : Bool :=
  spell key != key && components.isKnown (spell key) && !f.isPresent (spell key) &&
    !out.isPresent (spell key)

def addField (f out : Fields) (key value : String) : Fields :=
  if movesTo spell components f out key then
    if value.isEmpty then out else Table.insert out (spell key) value
  else if value.isEmpty && out.isPresent key then out
  else Table.insert out key value

def normalizeKeys (f : Fields) : Fields :=
  f.entries.foldl (fun out (key, value) => addField spell components f out key value) ∅

end

end PostalAddress.Fields
