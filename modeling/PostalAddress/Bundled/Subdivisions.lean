import PostalAddress.Address.Subdivision

/-!
# Bundled states and counties

The codes and names of the states and counties of some countries.
-/

namespace PostalAddress.Bundled

/-- Subdivisions that have one name each. -/
def named (entries : List (String × String)) : Table SubdivisionName :=
  .ofList (entries.map fun (code, name) => (code, .simple name))

/-- A name for each of several languages. -/
def inLanguages (entries : List (String × String)) : SubdivisionName :=
  .localized (.ofList entries)

def stateCodes : SubdivisionTable where
  entries := [
    ("AU", named
      [("ACT", "Australian Capital Territory"), ("NSW", "New South Wales"),
       ("NT", "Northern Territory"), ("QLD", "Queensland"), ("SA", "South Australia"),
       ("TAS", "Tasmania"), ("VIC", "Victoria"), ("WA", "Western Australia")]),
    ("BE", .ofList
      [("BRU", inLanguages [("default", "Brussels-Capital Region"),
         ("fr", "Région de Bruxelles-Capitale"), ("nl", "Brussels Hoofdstedelijk Gewest")]),
       ("VLG", inLanguages [("default", "Flanders"), ("nl", "Vlaanderen"), ("fr", "Flandre")]),
       ("WAL", inLanguages [("default", "Wallonia"), ("fr", "Wallonie"), ("nl", "Wallonië")])]),
    ("BR", named
      [("AC", "Acre"), ("AM", "Amazonas"), ("BA", "Bahia"), ("CE", "Ceará"),
       ("DF", "Distrito Federal"), ("MG", "Minas Gerais"), ("PA", "Pará"), ("PE", "Pernambuco"),
       ("PR", "Paraná"), ("RJ", "Rio de Janeiro"), ("RS", "Rio Grande do Sul"),
       ("SC", "Santa Catarina"), ("SP", "São Paulo")]),
    ("CA", .ofList
      [("AB", .simple "Alberta"), ("BC", .simple "British Columbia"), ("MB", .simple "Manitoba"),
       ("NB", inLanguages [("default", "New Brunswick"), ("fr", "Nouveau-Brunswick")]),
       ("NL", .simple "Newfoundland and Labrador"),
       ("NS", inLanguages [("default", "Nova Scotia"), ("fr", "Nouvelle-Écosse")]),
       ("NT", .simple "Northwest Territories"), ("NU", .simple "Nunavut"),
       ("ON", .simple "Ontario"), ("PE", .simple "Prince Edward Island"),
       ("QC", inLanguages [("default", "Quebec"), ("fr", "Québec")]),
       ("SK", .simple "Saskatchewan"), ("YT", .simple "Yukon")]),
    ("DE", named
      [("BB", "Brandenburg"), ("BE", "Berlin"), ("BW", "Baden-Württemberg"), ("BY", "Bayern"),
       ("HB", "Bremen"), ("HE", "Hessen"), ("HH", "Hamburg"), ("MV", "Mecklenburg-Vorpommern"),
       ("NI", "Niedersachsen"), ("NW", "Nordrhein-Westfalen"), ("RP", "Rheinland-Pfalz"),
       ("SH", "Schleswig-Holstein"), ("SL", "Saarland"), ("SN", "Sachsen"),
       ("ST", "Sachsen-Anhalt"), ("TH", "Thüringen")]),
    ("GB", .ofList
      [("ENG", .simple "England"), ("NIR", .simple "Northern Ireland"),
       ("SCT", .simple "Scotland"), ("WLS", inLanguages [("default", "Wales"), ("cy", "Cymru")])]),
    ("IN", named
      [("DL", "Delhi"), ("KA", "Karnataka"), ("KL", "Kerala"), ("MH", "Maharashtra"),
       ("TN", "Tamil Nadu"), ("UP", "Uttar Pradesh"), ("WB", "West Bengal")]),
    ("NL", .ofList
      [("DR", .simple "Drenthe"), ("FL", .simple "Flevoland"),
       ("FR", inLanguages [("default", "Friesland"), ("fy", "Fryslân")]),
       ("GE", .simple "Gelderland"), ("GR", .simple "Groningen"), ("LI", .simple "Limburg"),
       ("NB", .simple "Noord-Brabant"), ("NH", .simple "Noord-Holland"),
       ("OV", .simple "Overijssel"), ("UT", .simple "Utrecht"), ("ZE", .simple "Zeeland"),
       ("ZH", .simple "Zuid-Holland")]),
    ("US", named
      [("AK", "Alaska"), ("AL", "Alabama"), ("AR", "Arkansas"), ("AS", "American Samoa"),
       ("AZ", "Arizona"), ("CA", "California"), ("CO", "Colorado"), ("CT", "Connecticut"),
       ("DC", "District of Columbia"), ("DE", "Delaware"), ("FL", "Florida"), ("GA", "Georgia"),
       ("GU", "Guam"), ("HI", "Hawaii"), ("IA", "Iowa"), ("ID", "Idaho"), ("IL", "Illinois"),
       ("IN", "Indiana"), ("KS", "Kansas"), ("KY", "Kentucky"), ("LA", "Louisiana"),
       ("MA", "Massachusetts"), ("MD", "Maryland"), ("ME", "Maine"), ("MI", "Michigan"),
       ("MN", "Minnesota"), ("MO", "Missouri"), ("MS", "Mississippi"), ("MT", "Montana"),
       ("NC", "North Carolina"), ("ND", "North Dakota"), ("NE", "Nebraska"),
       ("NH", "New Hampshire"), ("NJ", "New Jersey"), ("NM", "New Mexico"), ("NV", "Nevada"),
       ("NY", "New York"), ("OH", "Ohio"), ("OK", "Oklahoma"), ("OR", "Oregon"),
       ("PA", "Pennsylvania"), ("PR", "Puerto Rico"), ("RI", "Rhode Island"),
       ("SC", "South Carolina"), ("SD", "South Dakota"), ("TN", "Tennessee"), ("TX", "Texas"),
       ("UT", "Utah"), ("VA", "Virginia"), ("VI", "US Virgin Islands"), ("VT", "Vermont"),
       ("WA", "Washington"), ("WI", "Wisconsin"), ("WV", "West Virginia"), ("WY", "Wyoming")])]
  nodup := by decide

def countyCodes : SubdivisionTable where
  entries := [
    ("GB", named
      [("LND", "London")]),
    ("IT", named
      [("AG", "Agrigento"), ("BA", "Bari"), ("BO", "Bologna"), ("CA", "Cagliari"),
       ("CT", "Catania"), ("FI", "Firenze"), ("GE", "Genova"), ("MI", "Milano"), ("NA", "Napoli"),
       ("PA", "Palermo"), ("PD", "Padova"), ("RM", "Roma"), ("TO", "Torino"), ("TS", "Trieste"),
       ("VE", "Venezia"), ("VR", "Verona")])]
  nodup := by decide

end PostalAddress.Bundled
