import PostalAddress.Address.Data
import PostalAddress.Address.Fields
import PostalAddress.Decimal.Reading
import PostalAddress.Text.Blank
import PostalAddress.Text.LetterCase

/-!
# Corrections of fields

Small repairs before an address is laid out: a number in place of the country, codes of states and
counties, values under unknown keys, implausible postcodes and web addresses.
-/

namespace PostalAddress.Fields

open Text

/-- A whole number of 64 bits with a sign or without. -/
def isWholeNumber (t : List Char) : Bool :=
  let (negative, ds) := match t with
    | '-' :: r => (true, r)
    | '+' :: r => (false, r)
    | r => (false, r)
  !ds.isEmpty && ds.all Decimal.isDecimalDigit &&
    Decimal.natOfDigits ds < (if negative then Nat.pow 2 63 + 1 else Nat.pow 2 63)

/-- A number as country next to a state is dropped, and the state taken for the country. -/
def swapNumericCountry (f : Fields) : Fields :=
  if (f.present "country").any fun c => isWholeNumber (trim c.toList) then
    match f.present "state" with
    | some state => Table.insert (Table.erase f "state") "country" state
    | none => f
  else f

/-- Begins with the name of the American capital and the letters of its district. -/
def isCapitalDistrict (t : List Char) : Bool :=
  let skip := fun (c : Char) (t : List Char) => if t.head? = some c then t.drop 1 else t
  let found := do
    let t ← dropFolded? "washington".toList t
    let t ← dropFolded? " d".toList (skip ',' t)
    dropFolded? ['c'] (skip '.' t)
  found.isSome

def deriveStateCode (data : AddressData) (country : String) (f : Fields) : Fields :=
  if f.isPresent "state_code" then f
  else
    match f.present "state" with
    | none => f
    | some state =>
      let f := match data.stateCodes.codeFor country state with
        | some code => Table.insert f "state_code" code
        | none => f
      if isCapitalDistrict state.toList then
        Table.insert (Table.insert (Table.insert f "state_code" "DC")
          "state" "District of Columbia") "city" "Washington"
      else f

def deriveCountyCode (data : AddressData) (country : String) (f : Fields) : Fields :=
  if f.isPresent "county_code" then f
  else
    match (f.present "county").bind (data.countyCodes.codeFor country) with
    | some code => Table.insert f "county_code" code
    | none => f

def deriveSubdivisionCodes (data : AddressData) (f : Fields) : Fields :=
  let country := (f.present "country_code").getD ""
  deriveCountyCode data country (deriveStateCode data country f)

/-- The values under unknown keys become part of the attention line. -/
def collectAttention (components : ComponentTable) (f : Fields) : Fields :=
  let unknown := f.entries.filter fun (key, value) => !value.isEmpty && !components.isKnown key
  if unknown.isEmpty then f
  else
    let values := unknown.map Prod.snd
    Table.insert f "attention" (", ".intercalate ((f.present "attention").toList ++ values))

def postcodeLimit : Nat := 20

/-- A semicolon stands between two digits. -/
def holdsRange : List Char → Bool
  | a :: b :: c :: r => (isDigit a && b = ';' && isDigit c) || holdsRange (b :: c :: r)
  | _ => false

/-- The first of two codes of five digits. -/
def firstOfTwoCodes? (t : List Char) : Option (List Char) :=
  let fiveDigits := fun t : List Char => (t.take 5).length = 5 && (t.take 5).all isDigit
  if fiveDigits t && (t.drop 5).head? = some ',' && fiveDigits (t.drop 6) then some (t.take 5)
  else none

/-- Drops postcodes that are too long or a range, and keeps the first of two. -/
def cleanPostcode (f : Fields) : Fields :=
  match f.present "postcode" with
  | none => f
  | some p =>
    if postcodeLimit < p.length || holdsRange p.toList then Table.erase f "postcode"
    else
      match firstOfTwoCodes? p.toList with
      | some code => Table.insert f "postcode" (String.ofList code)
      | none => f

def isUrl (t : List Char) : Bool :=
  match dropFolded? "http".toList t with
  | none => false
  | some t => (dropFolded? "s://".toList t <|> dropFolded? "://".toList t).isSome

def stripUrls (f : Fields) : Fields := Table.filterKeys (fun _ v => !isUrl v.toList) f

end PostalAddress.Fields
