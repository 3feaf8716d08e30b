import PostalAddress.Address.Alias
import PostalAddress.Address.Alternatives
import PostalAddress.Address.Cleanup
import PostalAddress.Address.Correction
import PostalAddress.Address.Keys
import PostalAddress.Address.Options
import PostalAddress.Address.Redirect
import PostalAddress.Address.Rules
import PostalAddress.Template.Renderer

/-!
# Formatting addresses

A `Formatter` is a set of tables whose patterns have all been read. `normalize` settles the fields
of an address and the entry it uses; `render` lays them out, cleans the text and applies the
entry's rules for output. A text that stays blank gives way to the values of the fields, one after
the other. Compiled layouts are kept in a cache that is passed from one call to the next.
-/

namespace PostalAddress

/-- Which layout of an entry is used. -/
inductive BodyKind
  | address
  | fallback
deriving DecidableEq

namespace BodyKind

/-- An address with neither road nor postcode is sparse. -/
def ofFields (f : Fields) : BodyKind :=
  if f.isPresent "road" || f.isPresent "postcode" then .address else .fallback

def name : BodyKind → String
  | .address => "address"
  | .fallback => "fallback"

def body? (k : BodyKind) (e : CountryEntry) : Option String :=
  match k with
  | .address => e.addressTemplate
  | .fallback => e.fallbackTemplate

end BodyKind

namespace CountryTable

/-- The key of the entry used for a code. -/
def entryKey (t : CountryTable) (code : Option String) : String :=
  match code with
  | some c => if Table.contains t c then c else defaultKey
  | none => defaultKey

/-- The layout of the entry under a key, or else of the default entry. -/
def body? (t : CountryTable) (key : String) (k : BodyKind) : Option String :=
  (Table.get? t key).bind k.body? <|> (default? t).bind k.body?

end CountryTable

/-- Fields that are settled, ready to be laid out. -/
structure Normalized where
  fields : Fields
  countryCode : Option String
  templateKey : String
  redirectedFrom : Option String
deriving DecidableEq

inductive Formatted
  | text (s : String)
  | lines (ls : List String)
deriving DecidableEq

def Formatted.display : Formatted → String
  | .text s => s
  | .lines ls => "\n".intercalate ls

/-- What is said of a layout that fails while an address is rendered. -/
def Formatter.renderingMessage (e : TemplateError) : String := "template error: " ++ e.message

/-- A layout that does not compile. -/
structure TemplateIssue where
  country : String
  kind : BodyKind
  error : TemplateError
deriving DecidableEq

def TemplateIssue.message (i : TemplateIssue) : String :=
  i.country ++ "." ++ i.kind.name ++ "_template: " ++ i.error.message

structure Formatter where
  data : AddressData
  replace : Table RuleTable
  postformat : Table RuleTable
  abbreviations : Table RuleTable

namespace Formatter

/-- Reads the rules of the entries; the first pattern that cannot be read is reported. -/
def entryRules (templates : CountryTable) :
    Except PatternFault (List (String × RuleTable) × List (String × RuleTable)) :=
  templates.entries.foldlM (fun (replace, postformat) (code, e) => do
      let r ← RuleTable.forFields (code ++ ".replace") e.replace
      let p ← RuleTable.forText (code ++ ".postformat_replace") e.postformatReplace
      return (replace ++ [(code, r)], postformat ++ [(code, p)]))
    ([], [])

def abbreviationRules (abbreviations : Table (List AbbreviationRule)) :
    Except PatternFault (List (String × RuleTable)) :=
  abbreviations.entries.mapM fun (language, rules) => do
    return (language, ← RuleTable.forAbbreviations ("abbreviations." ++ language) rules)

def make (data : AddressData) : Except PatternFault Formatter := do
  let (replace, postformat) ← entryRules data.templates
  let abbreviations ← abbreviationRules data.abbreviations
  return ⟨data, .ofList replace, .ofList postformat, .ofList abbreviations⟩

/-- Applies the table under a key, when there is one. -/
def applyTable (tables : Table RuleTable) (f : Fields) (key : String) : Fields :=
  match tables.get? key with
  | some rules => rules.applyFields f
  | none => f

/-- The abbreviations of every language of the country. -/
def abbreviate (fm : Formatter) (countryCode : Option String) (f : Fields) : Fields :=
  match countryCode with
  | none => f
  | some code => (fm.data.languages code).foldl (applyTable fm.abbreviations) f

/-- The fields with their keys spelled out and the country the options ask for. -/
def namedFields (fm : Formatter) (o : FormatOptions) (input : Fields) : Fields :=
  let f := Fields.normalizeKeys snakeCase fm.data.components input
  match o.countryCode with
  | some code => Table.insert f "country_code" code
  | none => f

def normalize (fm : Formatter) (o : FormatOptions) (input : Fields) : Normalized :=
  let (f, redirectedFrom) :=
    Fields.resolveCountry fm.data.templates o.fallbackCountryCode (fm.namedFields o input)
  let countryCode := Fields.present f "country_code"
  let templateKey := fm.data.templates.entryKey countryCode
  let f := if o.appendCountry then Fields.appendCountry fm.data f else f
  let f := Fields.swapNumericCountry (Fields.resolveAliases fm.data.components f)
  let f := (redirectedFrom.toList ++ [templateKey]).foldl (applyTable fm.replace) f
  let f := Fields.collectAttention fm.data.components (Fields.deriveSubdivisionCodes fm.data f)
  let f := if o.cleanupPostcode then Fields.cleanPostcode f else f
  let f := if o.abbreviate then fm.abbreviate countryCode f else f
  ⟨Fields.stripUrls f, countryCode, templateKey, redirectedFrom⟩

/-- The formatter's renderer escapes nothing. -/
def renderer : Renderer := { escape := Escape.nothing }

/-- The fields as a view, with the selector bound to its name. -/
def view (f : Fields) : Value Selector :=
  .map (Table.insert (f.mapValues Value.string) Alternatives.key (.computed .first)).entries

def renderBody (f : Fields) (body : String) (cache : Cache) :
    Except TemplateError String × Cache :=
  -- The texts of selectors are parts of the layout, so its length bounds how deep they nest.
  { renderer with depth := body.length + 1 }.render Selector.compute Renderer.noPartials body
    (view f) cache

/-- The values of the fields in order. -/
def joinedValues (f : Fields) : String :=
  ", ".intercalate (f.values.filter (!·.isEmpty))

/-- The text after the rules for output; without rules it stays as it is. -/
def postformatted (fm : Formatter) (key text : String) : String :=
  match fm.postformat.get? key with
  | none => text
  | some [] => text
  | some rules => cleanup (rules.apply none text)

/-- What becomes of the cleaned text of a layout. -/
def finish (fm : Formatter) (n : Normalized) (text : String) : String :=
  let text := fm.postformatted n.templateKey text
  let text := if (Text.trim text.toList).isEmpty then cleanup (joinedValues n.fields) else text
  text ++ "\n"

def render (fm : Formatter) (n : Normalized) (cache : Cache) :
    Except TemplateError String × Cache :=
  match fm.data.templates.body? n.templateKey (.ofFields n.fields) with
  | none => (.ok (fm.finish n ""), cache)
  | some body =>
    let (result, cache) := renderBody n.fields body cache
    (result.map fun text => fm.finish n (cleanup text), cache)

/-- The lines of a text that are not empty. -/
def nonEmptyLines (s : String) : List String :=
  ((Text.splitOn '\n' s.toList).filter (!·.isEmpty)).map String.ofList

def output (kind : OutputKind) (text : String) : Formatted :=
  match kind with
  | .string => .text text
  | .array => .lines (nonEmptyLines text)

def format (fm : Formatter) (o : FormatOptions) (input : Fields) (cache : Cache) :
    Except TemplateError Formatted × Cache :=
  let (result, cache) := fm.render (fm.normalize o input) cache
  (result.map (output o.output), cache)

/-- The layouts of an entry, with which they are. -/
def bodies (e : CountryEntry) : List (BodyKind × String) :=
  (e.addressTemplate.toList.map (BodyKind.address, ·)) ++
    e.fallbackTemplate.toList.map (BodyKind.fallback, ·)

/-- The layouts of all entries, with the entry's key. -/
def layouts (fm : Formatter) : List (String × BodyKind × String) :=
  fm.data.templates.entries.flatMap fun (code, e) =>
    (bodies e).map fun (kind, body) => (code, kind, body)

/-- Compiles a layout and reports it when it does not compile. -/
def check (before : List TemplateIssue × Cache) (layout : String × BodyKind × String) :
    List TemplateIssue × Cache :=
  let (issues, cache) := before
  let (code, kind, body) := layout
  match TemplateCache.compile cache body renderer.delimiters with
  | (.ok _, cache) => (issues, cache)
  | (.error e, cache) => (issues ++ [⟨code, kind, e⟩], cache)

/-- Compiles every layout and reports those that do not compile. -/
def validate (fm : Formatter) (cache : Cache) : List TemplateIssue × Cache :=
  fm.layouts.foldl check ([], cache)

end Formatter

end PostalAddress
