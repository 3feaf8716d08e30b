import PostalAddress.Address.Data
import PostalAddress.Files.Load

/-!
# Loading the tables of the formatter

A folder of data holds one YAML file for each table, and may hold a folder of abbreviations with
one file for each language, whose name is the file's. The countries must have a default entry.
-/

namespace PostalAddress

inductive DataError
  | unreadable (path : String) (fault : FileFault)
  | malformed (path : String)
  | missingDefault
deriving DecidableEq

def DataError.message : DataError → String
  | .unreadable path fault => "failed to read " ++ path ++ ": " ++ fault.message
  | .malformed path => "failed to parse " ++ path ++ ": " ++ unfit
  | .missingDefault => "templates table has no \x60default\x60 entry"

namespace Files

def loadTable {α : Type} (files : Files) (read : Yaml → Option α) (path : String) :
    Except DataError α :=
  match files.read path with
  | .error .notText => .error (.malformed path)
  | .error fault => .error (.unreadable path fault)
  | .ok text =>
    match (Yaml.parse? text).bind read with
    | some a => .ok a
    | none => .error (.malformed path)

def isYamlName (name : String) : Bool :=
  match (Path.stemAndExtension name).2 with
  | some e => e = "yaml" || e = "yml"
  | none => false

def loadAbbreviations (files : Files) (folder : String) :
    Except DataError (Table (List AbbreviationRule)) :=
  if files.isFolderAt folder then do
    let tables ← ((files.names folder).filter isYamlName).mapM fun name => do
      let rules ← files.loadTable (Document.list? AbbreviationRule.read?) (Path.join folder name)
      return ((Path.stemAndExtension name).1, rules)
    return .ofList tables
  else return ∅

def loadData (files : Files) (folder : String) : Except DataError AddressData := do
  let path := Path.join folder
  let names := Document.table? Document.text?
  let abbreviations ← files.loadAbbreviations (path "abbreviations")
  let data : AddressData := {
    templates := ← files.loadTable CountryTable.read? (path "templates.yaml")
    components := ← files.loadTable ComponentTable.read? (path "components.yaml")
    countryNames := ← files.loadTable names (path "country-names.yaml")
    stateCodes := ← files.loadTable SubdivisionTable.read? (path "state-codes.yaml")
    countyCodes := ← files.loadTable SubdivisionTable.read? (path "county-codes.yaml")
    countryLanguages := ← files.loadTable (Document.table? (Document.list? Document.text?))
      (path "country-to-lang.yaml")
    abbreviations := abbreviations }
  if data.templates.default?.isNone then throw .missingDefault
  return data

end Files

end PostalAddress
