import PostalAddress.Decimal.Layout
import PostalAddress.Json.Basic

/-!
# The fields of an address

An address comes as values under keys, in order. A field with an empty value counts as absent
wherever a value is asked for.
-/

namespace PostalAddress

abbrev Fields := Table String

namespace Fields

/-- The value of a field that is there and not empty. -/
def present (f : Fields) (key : String) : Option String :=
  match Table.get? f key with
  | some v => if v.isEmpty then none else some v
  | none => none

def isPresent (f : Fields) (key : String) : Bool := (present f key).isSome

/-- The text of a member of an address record; other values are no fields. -/
def memberText? : Json → Option String
  | .string s => some s
  | .whole n => some (toString n)
  | .real x => some (String.ofList (Decimal.Layout.exchange.text x))
  | .bool b => some (if b then "true" else "false")
  | .null => none
  | .array _ => none
  | .object _ => none

def ofJson? (j : Json) : Option Fields :=
  j.members?.map fun ms =>
    .ofList (ms.entries.filterMap fun (k, v) => (memberText? v).map (k, ·))

end Fields

end PostalAddress
