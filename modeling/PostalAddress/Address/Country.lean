import PostalAddress.Document
import PostalAddress.Text.Blank

/-!
# Country entries

How the addresses of a country are laid out: a layout for full addresses and one for sparse ones,
rules that edit the input and the output, and where to look when the country uses the entry of
another. Entries are kept by upper-case country code; the entry `default` serves all others.
-/

namespace PostalAddress

/-- A pattern and what replaces its match. In rules for input a pattern may begin with the name of
the field it is meant for and `=`. -/
structure Substitution where
  pattern : String
  replacement : String
deriving DecidableEq

namespace Substitution

def isFieldChar (c : Char) : Bool := c.isAlphanum || c = '_'

/-- The field a rule is meant for, and its pattern. -/
def scopeAndPattern (s : Substitution) : Option String × String :=
  match Text.splitOnce '=' s.pattern.toList with
  | some (field, pattern) =>
    if !field.isEmpty && field.all isFieldChar then
      (some (String.ofList field), String.ofList pattern)
    else (none, s.pattern)
  | none => (none, s.pattern)

def toJson (s : Substitution) : Json := .array [.string s.pattern, .string s.replacement]

def read? {ν : Type} [Document ν] (n : ν) : Option Substitution := do
  match ← Document.items? n with
  | [p, r] => some ⟨← Document.text? p, ← Document.text? r⟩
  | _ => none

end Substitution

structure CountryEntry where
  addressTemplate : Option String := none
  fallbackTemplate : Option String := none
  replace : List Substitution := []
  postformatReplace : List Substitution := []
  useCountry : Option String := none
  changeCountry : Option String := none
  addComponent : Option String := none
deriving DecidableEq

abbrev CountryTable := Table CountryEntry

namespace CountryEntry

/-- The field and the value that come with the entry, when its text says which. -/
def addedComponent (e : CountryEntry) : Option (String × String) := do
  let text ← e.addComponent
  let (field, value) ← Text.splitOnce '=' text.toList
  some (String.ofList field, String.ofList value)

def fieldNames : List String :=
  ["address_template", "fallback_template", "replace", "postformat_replace", "use_country",
   "change_country", "add_component"]

def optionalMember (name : String) : Option String → List (String × Json)
  | none => []
  | some s => [(name, .string s)]

def rulesMember (name : String) (rules : List Substitution) : List (String × Json) :=
  if rules.isEmpty then [] else [(name, .array (rules.map Substitution.toJson))]

/-- Absent texts and empty lists are left out. -/
def toJson (e : CountryEntry) : Json :=
  .object (optionalMember "address_template" e.addressTemplate ++
    optionalMember "fallback_template" e.fallbackTemplate ++
    rulesMember "replace" e.replace ++
    rulesMember "postformat_replace" e.postformatReplace ++
    optionalMember "use_country" e.useCountry ++
    optionalMember "change_country" e.changeCountry ++
    optionalMember "add_component" e.addComponent)

def read? {ν : Type} [Document ν] (n : ν) : Option CountryEntry := do
  let text := fun v : Option ν => Document.optional? Document.text? v
  let rules := fun v : Option ν => Document.withDefault? [] (Document.list? Substitution.read?) v
  match ← Document.fields? fieldNames n with
  | [address, fallback, replace, postformat, use, change, add] =>
    some {
      addressTemplate := ← text address
      fallbackTemplate := ← text fallback
      replace := ← rules replace
      postformatReplace := ← rules postformat
      useCountry := ← text use
      changeCountry := ← text change
      addComponent := ← text add }
  | _ => none

end CountryEntry

namespace CountryTable

def defaultKey : String := "default"

def default? (t : CountryTable) : Option CountryEntry := Table.get? t defaultKey

def codes (t : CountryTable) : List String := t.keys.filter (· != defaultKey)

def toJson (t : CountryTable) : Json := .object (t.mapValues CountryEntry.toJson).entries

/-- An entry, or nothing for a plain text, which only names a layout. -/
def readEntry? (j : Json) : Option (Option CountryEntry) :=
  match CountryEntry.read? j with
  | some e => some (some e)
  | none =>
    match j with
    | .string _ => some none
    | _ => none

def read? {ν : Type} [Document ν] (n : ν) : Option CountryTable := do
  let entries ← Document.table? (fun v => (Document.json? v).bind readEntry?) n
  some (.ofList (entries.entries.filterMap fun (k, e) => e.map (k, ·)))

end CountryTable

end PostalAddress
