import PostalAddress.Address.Country
import PostalAddress.Bundled.Layout

/-!
# Bundled country entries

Layouts shared by several countries, and the entry of each country.
-/

namespace PostalAddress.Bundled

/-- Road before house number, postcode before city. -/
def generic1 : Layout :=
  [[.insert "attention"],
   [.insert "house"],
   [.insert "road", .text " ", .insert "house_number"],
   [.insert "postcode", .text " ",
    .firstOf ["postal_city", "town", "city", "village", "municipality", "hamlet", "county",
       "state"]],
   [.insert "archipelago"],
   [.insert "country"]]

/-- House number first, locality and postcode on separate lines. -/
def generic2 : Layout :=
  [[.insert "attention"],
   [.insert "house"],
   [.insert "house_number", .text " ", .insert "road"],
   [.firstOf ["village", "hamlet", "neighbourhood"]],
   [.firstOf ["postal_city", "town", "city", "municipality", "county"]],
   [.insert "postcode"],
   [.insert "country"]]

/-- House number first, city with state code and postcode. -/
def generic3 : Layout :=
  [[.insert "attention"],
   [.insert "house"],
   [.insert "house_number", .text " ", .insert "road"],
   [.firstOf ["village", "hamlet", "town", "city", "municipality", "county"], .text ", ",
    .firstOf ["state_code", "state"], .text " ", .insert "postcode"],
   [.firstOf ["country", "country_code"]]]

/-- House number first, postcode before city. -/
def generic4 : Layout :=
  [[.insert "attention"],
   [.insert "house"],
   [.insert "house_number", .text " ", .insert "road"],
   [.insert "postcode", .text " ",
    .firstOf ["postal_city", "town", "city", "village", "municipality", "hamlet"]],
   [.firstOf ["country", "country_code"]]]

/-- House number first, city state postcode without a comma. -/
def generic5 : Layout :=
  [[.insert "attention"],
   [.insert "house"],
   [.insert "house_number", .text " ", .insert "road"],
   [.firstOf ["village", "hamlet", "town", "city", "municipality"], .text " ",
    .firstOf ["state_code", "state"], .text " ", .insert "postcode"],
   [.insert "country"]]

/-- Road first, postcode city and province code. -/
def generic6 : Layout :=
  [[.insert "attention"],
   [.insert "house"],
   [.insert "road", .text " ", .insert "house_number"],
   [.insert "postcode", .text " ",
    .firstOf ["postal_city", "town", "city", "village", "municipality", "hamlet"], .text " ",
    .firstOf ["county_code", "county"]],
   [.insert "country"]]

/-- Small territories without postcodes. -/
def generic7 : Layout :=
  [[.insert "attention"],
   [.insert "house"],
   [.insert "road", .text " ", .insert "house_number"],
   [.firstOf ["neighbourhood", "hamlet"]],
   [.firstOf ["city", "town", "village", "municipality"]],
   [.insert "country"]]

/-- Road first, neighbourhood on its own line. -/
def generic8 : Layout :=
  [[.insert "attention"],
   [.insert "house"],
   [.insert "road", .text " ", .insert "house_number"],
   [.insert "neighbourhood"],
   [.insert "postcode", .text " ",
    .firstOf ["postal_city", "town", "city", "village", "municipality", "hamlet"]],
   [.insert "country"]]

def fallback1 : Layout :=
  [[.insert "attention"],
   [.insert "house"],
   [.insert "road", .text " ", .insert "house_number"],
   [.firstOf ["neighbourhood", "village", "hamlet"]],
   [.firstOf ["postal_city", "town", "city", "municipality"]],
   [.firstOf ["county", "state_district", "state", "region", "island", "archipelago"]],
   [.insert "country"]]

def fallback2 : Layout :=
  [[.insert "attention"],
   [.insert "house"],
   [.insert "road", .text " ", .insert "house_number"],
   [.firstOf ["neighbourhood", "village", "hamlet"]],
   [.firstOf ["postal_city", "town", "city", "municipality"]],
   [.firstOf ["county", "state_district", "state", "region", "island"]],
   [.firstOf ["country", "country_code"]]]

def fallback3 : Layout :=
  [[.insert "attention"],
   [.insert "house"],
   [.insert "house_number", .text " ", .insert "road"],
   [.firstOf ["village", "hamlet", "town", "city", "municipality"]],
   [.firstOf ["county", "state_district"]],
   [.firstOf ["state", "state_code"]],
   [.firstOf ["country", "country_code"]]]

def brazil : Layout :=
  [[.insert "attention"],
   [.insert "house"],
   [.insert "road", .text " ", .insert "house_number"],
   [.insert "neighbourhood"],
   [.firstOf ["city", "town", "municipality", "village"], .text " - ",
    .firstOf ["state_code", "state"]],
   [.insert "postcode"],
   [.insert "country"]]

def spain : Layout :=
  [[.insert "attention"],
   [.insert "house"],
   [.insert "road", .text ", ", .insert "house_number"],
   [.insert "postcode", .text " ",
    .firstOf ["postal_city", "town", "city", "village", "municipality", "hamlet"]],
   [.firstOf ["county", "state"]],
   [.insert "country"]]

def india : Layout :=
  [[.insert "attention"],
   [.insert "house"],
   [.insert "house_number", .text ", ", .insert "road"],
   [.insert "neighbourhood"],
   [.firstOf ["city", "town", "village", "municipality"], .text " - ", .insert "postcode"],
   [.insert "state"],
   [.insert "country"]]

def newZealand : Layout :=
  [[.insert "attention"],
   [.insert "house"],
   [.insert "house_number", .text " ", .insert "road"],
   [.insert "neighbourhood"],
   [.firstOf ["town", "city", "village", "municipality", "hamlet"], .text " ",
       .insert "postcode"],
   [.insert "country"]]

def layouts (address fallback : Layout) : CountryEntry :=
  { addressTemplate := some address.source, fallbackTemplate := some fallback.source }

/-- An entry that uses the one of another country under a name of its own. -/
def redirect (target name : String) : CountryEntry :=
  { useCountry := some target, changeCountry := some name }

def templates : CountryTable where
  entries := [
    ("default", layouts generic1 fallback1),
    ("AT", layouts generic1 fallback1),
    ("AU", layouts generic5 fallback1),
    ("AW", layouts generic7 generic7),
    ("AX", redirect "FI" "Åland, Finland"),
    ("BE", { layouts generic1 fallback1 with
      replace :=
        [⟨"^Arrondissement administratif de ", ""⟩, ⟨"^Bestuurlijk arrondissement ", ""⟩] }),
    ("BR", { layouts brazil fallback1 with
      postformatReplace := [⟨"\\b(\\d\x7b5\x7d)(\\d\x7b3\x7d)\\b", "$\x7b1\x7d-$\x7b2\x7d"⟩] }),
    ("CA", { layouts generic5 fallback3 with
      postformatReplace := [⟨"\\b([A-Z]\\d[A-Z]) ?(\\d[A-Z]\\d)\\b", "$\x7b1\x7d $\x7b2\x7d"⟩] }),
    ("CH", { layouts generic1 fallback1 with
      replace := [⟨"^Verwaltungskreis ", ""⟩, ⟨"^Verwaltungsregion ", ""⟩, ⟨"^Bezirk ", ""⟩] }),
    ("CR", layouts generic8 fallback1),
    ("CW", layouts generic7 generic7),
    ("DE", { layouts generic1 fallback1 with
      replace := [⟨"city=^Stadtteil ", ""⟩, ⟨"^Landkreis ", ""⟩, ⟨"^Kreis ", ""⟩]
      postformatReplace := [⟨"\\nBerlin\\nBerlin$", "\nBerlin"⟩] }),
    ("DK", layouts generic1 fallback1),
    ("ES", layouts spain fallback1),
    ("FI", layouts generic1 fallback1),
    ("FR", { layouts generic4 fallback2 with
      replace := [⟨"^Paris \\d+e Arrondissement$", "Paris"⟩]
      postformatReplace := [⟨"(^|\\n)FR$", "$\x7b1\x7dFrance"⟩] }),
    ("GB", { layouts generic2 fallback1 with
      replace := [⟨"^Borough of ", ""⟩, ⟨"^London Borough of ", ""⟩, ⟨"^Royal Borough of ", ""⟩] }),
    ("GF", redirect "FR" "Guyane, France"),
    ("GG", redirect "GB" "Guernsey"),
    ("GP", redirect "FR" "Guadeloupe, France"),
    ("GU", { redirect "US" "United States of America" with
      addComponent := some "state=Guam" }),
    ("IE", { layouts generic2 fallback1 with
      replace := [⟨" City$", ""⟩, ⟨"^County ", ""⟩] }),
    ("IM", redirect "GB" "Isle of Man"),
    ("IN", layouts india fallback1),
    ("IT", { layouts generic6 fallback1 with
      replace :=
        [⟨"^Città metropolitana di ", ""⟩, ⟨"^Metropolitan City of ", ""⟩,
         ⟨"^Provincia di ", ""⟩] }),
    ("JE", redirect "GB" "Jersey"),
    ("LI", layouts generic1 fallback1),
    ("LU", { layouts generic1 fallback1 with
      postformatReplace := [⟨"(^|\\n)(\\d\x7b4\x7d) ", "$\x7b1\x7dL-$\x7b2\x7d "⟩] }),
    ("MC", layouts generic4 fallback1),
    ("MQ", redirect "FR" "Martinique, France"),
    ("NI", layouts generic8 fallback1),
    ("NL", { layouts generic1 fallback1 with
      replace := [⟨"^Gemeente ", ""⟩] }),
    ("NO", layouts generic1 fallback1),
    ("NZ", layouts newZealand fallback1),
    ("PL", layouts generic1 fallback1),
    ("PR", { redirect "US" "United States of America" with
      addComponent := some "state=Puerto Rico" }),
    ("PT", layouts generic1 fallback1),
    ("PY", layouts generic8 fallback1),
    ("RE", redirect "FR" "La Réunion, France"),
    ("RO", layouts generic8 fallback1),
    ("SE", layouts generic1 fallback1),
    ("SJ", redirect "NO" "$state, Norway"),
    ("SM", redirect "IT" "San Marino"),
    ("SX", layouts generic7 generic7),
    ("US", { layouts generic3 fallback3 with
      replace :=
        [⟨"state=United States Virgin Islands", "US Virgin Islands"⟩,
         ⟨"state=USVI", "US Virgin Islands"⟩]
      postformatReplace :=
        [⟨"(^|\\n)US$", "$\x7b1\x7dUnited States of America"⟩,
         ⟨"(^|\\n)USA$", "$\x7b1\x7dUnited States of America"⟩,
         ⟨"(^|\\n)United States$", "$\x7b1\x7dUnited States of America"⟩] }),
    ("VI", { redirect "US" "United States of America" with
      addComponent := some "state=US Virgin Islands" }),
    ("XK", layouts generic8 fallback1)]
  nodup := by decide

end PostalAddress.Bundled
