import PostalAddress.Address.Component
import PostalAddress.Address.Fields

/-!
# Aliases

A component that is absent or empty takes the value of the first field whose key is read as it.
What `district` is read as depends on the country.
-/

namespace PostalAddress.Fields

/-- Countries whose districts are neighbourhoods. -/
def smallDistrictCountries : List String :=
  ["BR", "CR", "ES", "NI", "PY", "RO", "TG", "TM", "XK"]

/-- The component that a key is another name of. -/
def readsAs? (components : ComponentTable) (smallDistricts : Bool) (key : String) :
    Option String :=
  if key = "district" then some (if smallDistricts then "neighbourhood" else "state_district")
  else
    match components.canonical key with
    | some name => if name = key then none else some name
    | none => none

def fillFrom (components : ComponentTable) (smallDistricts : Bool) (f : Fields) (key : String) :
    Fields :=
  match readsAs? components smallDistricts key with
  | none => f
  | some name =>
    if f.isPresent name then f
    else
      match Table.get? f key with
      | some value => Table.insert f name value
      | none => f

def resolveAliases (components : ComponentTable) (f : Fields) : Fields :=
  let smallDistricts := (f.present "country_code").any smallDistrictCountries.contains
  (Table.keys f).foldl (fillFrom components smallDistricts) f

end PostalAddress.Fields
