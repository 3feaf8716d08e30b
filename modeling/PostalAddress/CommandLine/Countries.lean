import PostalAddress.Address.Data
import PostalAddress.Text.LetterCase
import PostalAddress.Text.Similarity

/-!
# Looking up countries

The list of the countries that have an entry, and what is known of one of them. For a code without
an entry up to three countries are suggested whose code or name is similar to it.
-/

namespace PostalAddress.Countries

def title (data : AddressData) (code : String) : String :=
  code ++ "  " ++ (data.countryName code).getD "-"

def listing (data : AddressData) : List String := data.templates.codes.map (title data)

def description (data : AddressData) (code : String) (e : CountryEntry) : List String :=
  let languages := data.languages code
  [title data code] ++ e.useCountry.toList.map ("  formatted as " ++ ·) ++
    if languages.isEmpty then [] else ["  languages: " ++ ", ".intercalate languages]

def threshold : Float := 0.8

/-- How similar a country is to what was asked for, by its code or its name. -/
def score (data : AddressData) (asked code : String) : Float :=
  let similarity := fun s : String => Text.jaroWinkler asked.toList (lower s).toList
  let byName := (data.countryName code).elim 0 similarity
  let byCode := similarity code
  if byCode < byName then byName else byCode

/-- The most similar countries, the best first. -/
def suggestions (data : AddressData) (code : String) : List String :=
  let asked := lower code
  let scored := data.templates.codes.map fun known => (score data asked known, known)
  let near := scored.filter fun e => threshold ≤ e.1
  ((near.mergeSort fun a b => decide (b.1 ≤ a.1)).take 3).map Prod.snd

def unknown (data : AddressData) (code : String) : List String :=
  let suggested := suggestions data code
  ["Unknown country code: " ++ code] ++
    if suggested.isEmpty then [] else ["Did you mean: " ++ ", ".intercalate suggested ++ "?"]

end PostalAddress.Countries
