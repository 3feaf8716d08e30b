import PostalAddress.Document

/-!
# Options

What a caller may ask of the formatter. Options are read from a record whose fields may all be
absent, and written with the country codes left out when they are not set.
-/

namespace PostalAddress

inductive OutputKind
  | string
  | array
deriving DecidableEq

structure FormatOptions where
  abbreviate : Bool := false
  appendCountry : Bool := false
  cleanupPostcode : Bool := true
  countryCode : Option String := none
  fallbackCountryCode : Option String := none
  output : OutputKind := .string
deriving DecidableEq

namespace OutputKind

def name : OutputKind → String
  | .string => "string"
  | .array => "array"

def ofName? (s : String) : Option OutputKind :=
  if s = "string" then some .string else if s = "array" then some .array else none

end OutputKind

namespace FormatOptions

def fieldNames : List String :=
  ["abbreviate", "append-country", "cleanup-postcode", "country-code", "fallback-country-code",
   "output"]

def codeMember (name : String) : Option String → List (String × Json)
  | none => []
  | some s => [(name, .string s)]

def toJson (o : FormatOptions) : Json :=
  .object ([("abbreviate", .bool o.abbreviate), ("append-country", .bool o.appendCountry),
    ("cleanup-postcode", .bool o.cleanupPostcode)] ++
    codeMember "country-code" o.countryCode ++
    codeMember "fallback-country-code" o.fallbackCountryCode ++
    [("output", .string o.output.name)])

def read? {ν : Type} [Document ν] (n : ν) : Option FormatOptions := do
  let flag := fun (default : Bool) (v : Option ν) =>
    Document.withDefault? default Document.bool? v
  let code := fun v : Option ν => Document.optional? Document.text? v
  match ← Document.fields? fieldNames n with
  | [abbreviate, append, cleanup, country, fallback, output] =>
    some {
      abbreviate := ← flag false abbreviate
      appendCountry := ← flag false append
      cleanupPostcode := ← flag true cleanup
      countryCode := ← code country
      fallbackCountryCode := ← code fallback
      output := ← Document.withDefault? .string
        (fun v => (Document.choice? v).bind OutputKind.ofName?) output }
  | _ => none

end FormatOptions

end PostalAddress
