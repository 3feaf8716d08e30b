import PostalAddress.Address.Data
import PostalAddress.Bundled.Components
import PostalAddress.Bundled.Countries
import PostalAddress.Bundled.Names
import PostalAddress.Bundled.Subdivisions

/-!
# The bundled tables
-/

namespace PostalAddress

def AddressData.bundled : AddressData where
  templates := Bundled.templates
  components := Bundled.components
  countryNames := Bundled.countryNames
  stateCodes := Bundled.stateCodes
  countyCodes := Bundled.countyCodes
  countryLanguages := Bundled.countryLanguages
  abbreviations := Bundled.abbreviations

end PostalAddress
