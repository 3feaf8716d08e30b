import PostalAddress.Document
import PostalAddress.Text.LetterCase

/-!
# States and counties

The subdivisions of each country by code. A subdivision has one name, or one for each of several
languages; names are compared in upper case.
-/

namespace PostalAddress

inductive SubdivisionName
  | simple (name : String)
  | localized (names : Table String)
deriving DecidableEq

abbrev SubdivisionTable := Table (Table SubdivisionName)

namespace SubdivisionName

def isCalled (n : SubdivisionName) (name : String) : Bool :=
  match n with
  | .simple s => upper s = upper name
  | .localized names => names.values.any fun s => upper s = upper name

def toJson : SubdivisionName → Json
  | .simple s => .string s
  | .localized names => .object (names.mapValues .string).entries

def ofJson? (j : Json) : Option SubdivisionName :=
  match j with
  | .string s => some (.simple s)
  | j => (Document.table? Document.text? j).map .localized

def read? {ν : Type} [Document ν] (n : ν) : Option SubdivisionName :=
  (Document.json? n).bind ofJson?

end SubdivisionName

namespace SubdivisionTable

/-- The code of the first subdivision of `country` that is called `name`. -/
def codeFor (t : SubdivisionTable) (country name : String) : Option String := do
  let subdivisions ← Table.get? t country
  let (code, _) ← subdivisions.findEntry? fun _ n => n.isCalled name
  some code

def toJson (t : SubdivisionTable) : Json :=
  .object (t.mapValues fun s => Json.object (s.mapValues SubdivisionName.toJson).entries).entries

def read? {ν : Type} [Document ν] (n : ν) : Option SubdivisionTable :=
  Document.table? (Document.table? SubdivisionName.read?) n

end SubdivisionTable

end PostalAddress
