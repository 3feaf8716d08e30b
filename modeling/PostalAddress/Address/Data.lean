import PostalAddress.Address.Abbreviation
import PostalAddress.Address.Component
import PostalAddress.Address.Country
import PostalAddress.Address.Subdivision

/-!
# The tables of the formatter

Everything the formatter looks up, in one value.
-/

namespace PostalAddress

structure AddressData where
  templates : CountryTable
  components : ComponentTable
  countryNames : Table String
  stateCodes : SubdivisionTable
  countyCodes : SubdivisionTable
  countryLanguages : Table (List String)
  abbreviations : Table (List AbbreviationRule)

namespace AddressData

def countryName (d : AddressData) (code : String) : Option String := d.countryNames.get? code

def languages (d : AddressData) (code : String) : List String :=
  (d.countryLanguages.get? code).getD []

def abbreviationRules (d : AddressData) (language : String) : List AbbreviationRule :=
  (d.abbreviations.get? language).getD []

end AddressData

end PostalAddress
