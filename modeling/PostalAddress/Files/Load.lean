import PostalAddress.Address.Fields
import PostalAddress.Address.Options
import PostalAddress.Files.Snapshot
import PostalAddress.Json.Reader
import PostalAddress.Template.Value
import PostalAddress.Yaml.Plain

/-!
# Loading addresses, options and views

A file named `.json` is read as JSON and every other as YAML. A file of addresses holds one record
or a list of them.
-/

namespace PostalAddress

inductive DataLanguage
  | json
  | yaml
deriving DecidableEq

def DataLanguage.name : DataLanguage → String
  | .json => "JSON"
  | .yaml => "YAML"

inductive LoadError
  | unreadable (fault : FileFault)
  | malformed (language : DataLanguage)
  | noAddress
deriving DecidableEq

/-- What a record that is no address was expected to be. -/
def expectedAddress : String := "expected an object of address components"

/-- What is said of data that cannot be read or does not fit. -/
def unfit : String := "malformed or unexpected data"

def LoadError.message : LoadError → String
  | .unreadable fault => "IO error: " ++ fault.message
  | .malformed language => "failed to parse " ++ language.name ++ ": " ++ unfit
  | .noAddress => "failed to parse address: " ++ expectedAddress

namespace Files

def languageOf (path : String) : DataLanguage :=
  if Path.extension? path = some "json" then .json else .yaml

/-- Reads a file in its language. -/
def load {α : Type} (files : Files) (path : String) (ofJson : Json → Option α)
    (ofYaml : Yaml → Option α) : Except LoadError α :=
  let language := languageOf path
  match files.read path with
  | .error .notText => .error (.malformed language)
  | .error fault => .error (.unreadable fault)
  | .ok text =>
    let value := match language with
      | .json => (Json.parse? text).bind ofJson
      | .yaml => (Yaml.parse? text).bind ofYaml
    match value with
    | some a => .ok a
    | none => .error (.malformed language)

def loadJson (files : Files) (path : String) : Except LoadError Json :=
  files.load path some Yaml.toJson?

def address (j : Json) : Except LoadError Fields :=
  match Fields.ofJson? j with
  | some f => .ok f
  | none => .error .noAddress

def loadAddresses (files : Files) (path : String) : Except LoadError (List Fields) := do
  match ← files.loadJson path with
  | .array js => js.mapM address
  | j => return [← address j]

def loadOptions (files : Files) (path : String) : Except LoadError FormatOptions :=
  files.load path FormatOptions.read? FormatOptions.read?

def loadView {κ : Type} (files : Files) (path : String) : Except LoadError (Value κ) :=
  (files.loadJson path).map Value.ofJson

end Files

end PostalAddress
