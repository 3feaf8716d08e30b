import PostalAddress.Address.Abbreviation
import PostalAddress.Table

/-!
# Bundled names and languages

The name and the languages of each country, most common first, and the abbreviations of each
language.
-/

namespace PostalAddress.Bundled

def countryNames : Table String where
  entries :=
    [("AD", "Andorra"), ("AR", "Argentina"), ("AT", "Austria"), ("AU", "Australia"),
     ("AW", "Aruba"), ("AX", "Åland"), ("BE", "Belgium"), ("BG", "Bulgaria"), ("BR", "Brazil"),
     ("CA", "Canada"), ("CH", "Switzerland"), ("CL", "Chile"), ("CN", "China"),
     ("CR", "Costa Rica"), ("CW", "Curaçao"), ("CZ", "Czechia"), ("DE", "Germany"),
     ("DK", "Denmark"), ("EE", "Estonia"), ("ES", "Spain"), ("FI", "Finland"), ("FR", "France"),
     ("GB", "United Kingdom"), ("GF", "French Guiana"), ("GG", "Guernsey"), ("GP", "Guadeloupe"),
     ("GR", "Greece"), ("GU", "Guam"), ("HR", "Croatia"), ("HU", "Hungary"), ("IE", "Ireland"),
     ("IM", "Isle of Man"), ("IN", "India"), ("IS", "Iceland"), ("IT", "Italy"), ("JE", "Jersey"),
     ("JP", "Japan"), ("LI", "Liechtenstein"), ("LT", "Lithuania"), ("LU", "Luxembourg"),
     ("LV", "Latvia"), ("MC", "Monaco"), ("MQ", "Martinique"), ("MX", "Mexico"),
     ("NI", "Nicaragua"), ("NL", "Netherlands"), ("NO", "Norway"), ("NZ", "New Zealand"),
     ("PL", "Poland"), ("PR", "Puerto Rico"), ("PT", "Portugal"), ("PY", "Paraguay"),
     ("RE", "Réunion"), ("RO", "Romania"), ("SE", "Sweden"), ("SI", "Slovenia"),
     ("SJ", "Svalbard and Jan Mayen"), ("SK", "Slovakia"), ("SM", "San Marino"),
     ("SX", "Sint Maarten"), ("TG", "Togo"), ("TM", "Turkmenistan"),
     ("US", "United States of America"), ("VA", "Vatican City"),
     ("VI", "United States Virgin Islands"), ("XK", "Kosovo"), ("ZA", "South Africa")]
  nodup := by decide

def countryLanguages : Table (List String) where
  entries :=
    [("AD", ["ca"]), ("AR", ["es"]), ("AT", ["de"]), ("AU", ["en"]), ("AW", ["nl"]),
     ("BE", ["nl", "fr", "de"]), ("BR", ["pt"]), ("CA", ["en", "fr"]), ("CH", ["de", "fr", "it"]),
     ("CL", ["es"]), ("CR", ["es"]), ("CW", ["nl", "en"]), ("DE", ["de"]), ("DK", ["da"]),
     ("ES", ["es", "ca"]), ("FI", ["fi", "sv"]), ("FR", ["fr"]), ("GB", ["en"]), ("IE", ["en"]),
     ("IN", ["en", "hi"]), ("IT", ["it"]), ("LI", ["de"]), ("LU", ["lb", "fr", "de"]),
     ("MC", ["fr"]), ("MX", ["es"]), ("NI", ["es"]), ("NL", ["nl"]), ("NO", ["no"]),
     ("NZ", ["en"]), ("PL", ["pl"]), ("PT", ["pt"]), ("PY", ["es"]), ("RO", ["ro"]),
     ("SE", ["sv"]), ("SM", ["it"]), ("SX", ["nl", "en"]), ("US", ["en"]), ("ZA", ["en", "af"])]
  nodup := by decide

def abbreviations : Table (List AbbreviationRule) where
  entries := [
    ("ca", [
      ⟨"road",
       [⟨"Avinguda", "Av."⟩, ⟨"Carrer", "C."⟩, ⟨"Passeig", "Pg."⟩, ⟨"Plaça", "Pl."⟩]⟩]),
    ("de", [
      ⟨"road",
       [⟨"Straße", "Str."⟩, ⟨"Strasse", "Str."⟩, ⟨"Platz", "Pl."⟩, ⟨"Sankt", "St."⟩]⟩,
      ⟨"city",
       [⟨"Sankt", "St."⟩]⟩]),
    ("en", [
      ⟨"road",
       [⟨"Avenue", "Ave"⟩, ⟨"Boulevard", "Blvd"⟩, ⟨"Court", "Ct"⟩, ⟨"Crescent", "Cres"⟩,
        ⟨"Drive", "Dr"⟩, ⟨"Expressway", "Expy"⟩, ⟨"Highway", "Hwy"⟩, ⟨"Lane", "Ln"⟩,
        ⟨"Parkway", "Pkwy"⟩, ⟨"Place", "Pl"⟩, ⟨"Road", "Rd"⟩, ⟨"Square", "Sq"⟩, ⟨"Street", "St"⟩,
        ⟨"Terrace", "Ter"⟩, ⟨"North", "N"⟩, ⟨"South", "S"⟩, ⟨"East", "E"⟩, ⟨"West", "W"⟩]⟩,
      ⟨"house",
       [⟨"Building", "Bldg"⟩, ⟨"Apartment", "Apt"⟩, ⟨"Suite", "Ste"⟩]⟩]),
    ("es", [
      ⟨"road",
       [⟨"Avenida", "Av."⟩, ⟨"Calle", "C."⟩, ⟨"Carretera", "Ctra."⟩, ⟨"Paseo", "Po."⟩,
        ⟨"Plaza", "Pl."⟩]⟩]),
    ("fr", [
      ⟨"road",
       [⟨"Avenue", "Av."⟩, ⟨"Boulevard", "Bd"⟩, ⟨"Chemin", "Ch."⟩, ⟨"Faubourg", "Fg"⟩,
        ⟨"Impasse", "Imp."⟩, ⟨"Place", "Pl."⟩, ⟨"Route", "Rte"⟩, ⟨"Saint", "St"⟩,
        ⟨"Sainte", "Ste"⟩]⟩,
      ⟨"city",
       [⟨"Saint", "St"⟩, ⟨"Sainte", "Ste"⟩]⟩]),
    ("it", [
      ⟨"road",
       [⟨"Piazza", "P.za"⟩, ⟨"Piazzale", "P.le"⟩, ⟨"Viale", "V.le"⟩, ⟨"Corso", "C.so"⟩,
        ⟨"Largo", "L.go"⟩]⟩]),
    ("nl", [
      ⟨"road",
       [⟨"Burgemeester", "Burg."⟩, ⟨"Doctor", "Dr."⟩, ⟨"Professor", "Prof."⟩, ⟨"Sint", "St."⟩]⟩]),
    ("pt", [
      ⟨"road",
       [⟨"Avenida", "Av."⟩, ⟨"Estrada", "Estr."⟩, ⟨"Praça", "Pç."⟩, ⟨"Rua", "R."⟩,
        ⟨"Travessa", "Tv."⟩]⟩])]
  nodup := by decide

end PostalAddress.Bundled
