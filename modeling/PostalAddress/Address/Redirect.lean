import PostalAddress.Address.Data
import PostalAddress.Address.Fields
import PostalAddress.Text.CharClass

/-!
# The country of an address

`resolveCountry` settles the country code: codes are read in upper case, `UK` as `GB`, and a code
whose entry uses another country becomes that country's, with the country's name and perhaps a
state filled in. Parts of the Netherlands in the Caribbean are told by their state.
-/

namespace PostalAddress.Fields

/-- The first `$field` of a text gives way to the value of that field. -/
def expandField (f : Fields) : List Char → List Char
  | [] => []
  | c :: r =>
    if c = '$' then
      let name := r.takeWhile Text.isWord
      ((f.present (String.ofList name)).getD "").toList ++ r.drop name.length
    else c :: expandField f r

/-- The code to start from: the one of the address when it has an entry, or else the fallback. -/
def givenCode (f : Fields) (templates : CountryTable) (fallback : Option String) :
    Option String :=
  let code := (f.present "country_code").map upper
  if code.any (Table.contains templates) then code else (fallback.map upper) <|> code

/-- The code of a country in two letters. -/
def startCode (f : Fields) (templates : CountryTable) (fallback : Option String) :
    Option String :=
  (givenCode f templates fallback).bind fun code =>
    if code.length = 2 then some (if code = "UK" then "GB" else code) else none

/-- Fills in what an entry says about a country that uses the entry of another. -/
def applyRedirect (f : Fields) (e : CountryEntry) : Fields :=
  let f := match e.changeCountry with
    | some name => Table.insert f "country" (String.ofList (expandField f name.toList))
    | none => f
  match e.addedComponent with
  | some (field, value) => if field = "state" then Table.insert f "state" value else f
  | none => f

/-- Code and name of a Caribbean country whose address was given as a state of the Netherlands. -/
def caribbean? (state : String) : Option (String × String) :=
  let s := Text.toLower state.toList
  if state = "Curaçao" then some ("CW", "Curaçao")
  else if Text.occursIn "sint maarten".toList s then some ("SX", "Sint Maarten")
  else if Text.occursIn "aruba".toList s then some ("AW", "Aruba")
  else none

def settleCode (f : Fields) (code : String) : Fields :=
  let moved := if code = "NL" then (f.present "state").bind caribbean? else none
  match moved with
  | some (code, name) =>
    Table.insert (Table.insert f "country" name) "country_code" code
  | none => Table.insert f "country_code" code

/-- The fields with their country settled, and the code they were redirected from. Without a code
of two letters nothing changes. -/
def resolveCountry (templates : CountryTable) (fallback : Option String) (f : Fields) :
    Fields × Option String :=
  match startCode f templates fallback with
  | none => (f, none)
  | some code =>
    match Table.get? templates code with
    | none => (settleCode f code, none)
    | some e =>
      match e.useCountry with
      | none => (settleCode f code, none)
      | some target => (settleCode (applyRedirect f e) (upper target), some code)

/-- Fills in the name of the country by its code. -/
def appendCountry (data : AddressData) (f : Fields) : Fields :=
  if f.isPresent "country" then f
  else
    match (f.present "country_code").bind data.countryName with
    | some name => Table.insert f "country" name
    | none => f

end PostalAddress.Fields
