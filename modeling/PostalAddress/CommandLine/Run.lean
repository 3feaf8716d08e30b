import PostalAddress.Address.Formatter
import PostalAddress.Bundled.Data
import PostalAddress.CommandLine.Command
import PostalAddress.CommandLine.Countries
import PostalAddress.Files.DataFolder
import PostalAddress.Json.Writer

/-!
# Running commands

`Command.run` gives what a command prints and its exit code, from the files it may read. A command
that fails prints nothing but its message and exits with 1.
-/

namespace PostalAddress

structure Outcome where
  output : String
  errors : String
  code : Nat
deriving DecidableEq

namespace Outcome

def unlines (ls : List String) : String := String.join (ls.map (· ++ "\n"))

def success (output : String) : Outcome := ⟨output, "", 0⟩

def failure (lines : List String) : Outcome := ⟨"", unlines lines, 1⟩

end Outcome

/-- Why no formatter could be set up. -/
inductive SetupError
  | data (e : DataError)
  | pattern (f : PatternFault)
deriving DecidableEq

/-- What is said of a pattern that cannot be read. -/
def unreadablePattern : String := "not a pattern"

def PatternFault.message (f : PatternFault) : String :=
  "invalid pattern " ++ String.ofList (Text.quoted f.pattern.toList) ++ " in " ++ f.table ++
    ": " ++ unreadablePattern

def SetupError.message : SetupError → String
  | .data e => "data error: " ++ e.message
  | .pattern f => f.message

namespace Command

def loadData (files : Files) : Option String → Except SetupError AddressData
  | none => .ok .bundled
  | some folder => (files.loadData folder).mapError .data

def formatter (files : Files) (folder : Option String) : Except SetupError Formatter := do
  let data ← loadData files folder
  (Formatter.make data).mapError .pattern

/-- Runs `next` on a result, or fails with the message after `what`. -/
def orFail {ε α : Type} (what : String) (message : ε → String) (result : Except ε α)
    (next : α → Outcome) : Outcome :=
  match result with
  | .ok a => next a
  | .error e => .failure [what ++ ": " ++ message e]

/-- The options of the configuration, which the command line overrides. -/
def options (c : FormatCommand) (o : FormatOptions) : FormatOptions where
  abbreviate := o.abbreviate || c.abbreviate
  appendCountry := o.appendCountry || c.appendCountry
  cleanupPostcode := o.cleanupPostcode && !c.keepPostcode
  countryCode := c.country <|> o.countryCode
  fallbackCountryCode := c.fallbackCountry <|> o.fallbackCountryCode
  output := if c.lines then .array else o.output

/-- Formats the addresses in order, up to the first that fails. -/
def formatAll (fm : Formatter) (o : FormatOptions) :
    List Fields → Cache → Except TemplateError (List Formatted)
  | [], _ => .ok []
  | f :: fs, cache =>
    match fm.format o f cache with
    | (.ok r, cache) => (formatAll fm o fs cache).map (r :: ·)
    | (.error e, _) => .error e

def plainText : Formatted → String
  | .text s => s
  | .lines ls => Outcome.unlines ls

def resultJson : Formatted → Json
  | .text s => .string s
  | .lines ls => .array (ls.map .string)

/-- The results as a list, or one after the other with an empty line between them. -/
def resultText (asJson : Bool) (results : List Formatted) : String :=
  if asJson then (Json.array (results.map resultJson)).pretty ++ "\n"
  else "\n".intercalate (results.map plainText)

def runFormat (files : Files) (c : FormatCommand) : Outcome :=
  let config := match c.config with
    | none => .ok {}
    | some path => files.loadOptions path
  orFail "Error loading config" LoadError.message config fun o =>
  orFail "Error loading address data" SetupError.message (formatter files c.dataFolder) fun fm =>
  orFail "Error reading addresses" LoadError.message (files.loadAddresses c.input) fun fs =>
  orFail "Error formatting address" Formatter.renderingMessage
    (formatAll fm (options c o) fs .empty) fun results =>
  .success (resultText c.json results)

/-- Partials are the files of a folder. -/
def partialsIn (files : Files) (folder : String) : Partials := fun name =>
  (files.read (Path.join folder (name ++ ".mustache"))).toOption

def runRender (files : Files) (template : String) (data partials : Option String) : Outcome :=
  let view : Except LoadError (Value Selector) := match data with
    | none => .ok (.map [])
    | some path => files.loadView path
  let provider := partials.elim Renderer.noPartials (partialsIn files)
  orFail "Error reading template" FileFault.message (files.read template) fun source =>
  orFail "Error reading data" LoadError.message view fun view =>
  orFail "Error rendering template" TemplateError.message
    (Formatter.renderer.render Selector.compute provider source view .empty).1 fun text =>
  .success text

def runValidate (files : Files) (folder : Option String) : Outcome :=
  orFail "Error loading address data" SetupError.message (formatter files folder) fun fm =>
  let issues := (fm.validate .empty).1
  if issues.isEmpty then
    .success ("All " ++ toString fm.data.templates.size ++ " templates compile.\n")
  else
    .failure (issues.map TemplateIssue.message ++
      ["Validation failed: " ++ toString issues.length ++ " template(s) broken"])

def runCountries (code : Option String) : Outcome :=
  let data := AddressData.bundled
  match code with
  | none => .success (Outcome.unlines (Countries.listing data))
  | some code =>
    match data.templates.get? (upper code) with
    | some e => .success (Outcome.unlines (Countries.description data (upper code) e))
    | none => .failure (Countries.unknown data (upper code))

def run (files : Files) : Command → Outcome
  | .format c => runFormat files c
  | .render template data partials => runRender files template data partials
  | .validate folder => runValidate files folder
  | .countries code => runCountries code

end Command

end PostalAddress
