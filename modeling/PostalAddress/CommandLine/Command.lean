/-!
# Commands

What can be asked on the command line, and how the arguments say it. Options are written `--name`,
or with one letter after a single dash; letters may share a dash. A value follows as the next
argument or after `=`. After `--` everything is an operand.
-/

namespace PostalAddress

structure FormatCommand where
  input : String
  country : Option String
  fallbackCountry : Option String
  abbreviate : Bool
  appendCountry : Bool
  keepPostcode : Bool
  lines : Bool
  json : Bool
  config : Option String
  dataFolder : Option String
deriving DecidableEq

inductive Command
  | format (c : FormatCommand)
  | render (template : String) (data partials : Option String)
  | validate (dataFolder : Option String)
  | countries (code : Option String)
deriving DecidableEq

/-- An option of a command, its letter if it has one, and whether a value follows. -/
structure Switch where
  name : String
  letter : Option Char
  hasValue : Bool
deriving DecidableEq

/-- The options met, with their values, and the operands. -/
structure Arguments where
  switches : List (String × String)
  operands : List String
deriving DecidableEq

namespace Arguments

def empty : Arguments := ⟨[], []⟩

def addSwitch (name value : String) (a : Arguments) : Arguments :=
  { a with switches := a.switches ++ [(name, value)] }

def addOperand (s : String) (a : Arguments) : Arguments :=
  { a with operands := a.operands ++ [s] }

def isSet (a : Arguments) (name : String) : Bool := (a.switches.lookup name).isSome

def value? (a : Arguments) (name : String) : Option String := a.switches.lookup name

/-- The letters after a dash: the options without a value, and the one whose value is still to
come or follows the letters. -/
def letters? (known : List Switch) : List Char → Option (List String × Option (String × String))
  | [] => some ([], none)
  | c :: r => do
    let s ← known.find? (·.letter = some c)
    if s.hasValue then
      let value := if r.head? = some '=' then r.drop 1 else r
      some ([], some (s.name, String.ofList value))
    else
      let (names, last) ← letters? known r
      some (s.name :: names, last)

/-- A long option and the value written with it. -/
def longSwitch? (known : List Switch) (t : List Char) : Option (Switch × Option String) := do
  let name := t.takeWhile (· != '=')
  let s ← known.find? (·.name = String.ofList name)
  some (s, if name.length < t.length then some (String.ofList (t.drop (name.length + 1))) else none)

/-- Reads the arguments; `waiting` is the option that needs the next one. -/
def read? (known : List Switch) : (waiting : Option String) → Arguments → List String →
    Option Arguments
  | none, a, [] => some a
  | some _, _, [] => none
  | some name, a, s :: r => read? known none (a.addSwitch name s) r
  | none, a, s :: r =>
    match s.toList with
    | ['-', '-'] => some { a with operands := a.operands ++ r }
    | '-' :: '-' :: t =>
      match longSwitch? known t with
      | none => none
      | some (switch, written) =>
        match switch.hasValue, written with
        | true, none => read? known (some switch.name) a r
        | true, some value => read? known none (a.addSwitch switch.name value) r
        | false, none => read? known none (a.addSwitch switch.name "") r
        | false, some _ => none
    | '-' :: c :: t =>
      match letters? known (c :: t) with
      | none => none
      | some (names, last) =>
        let a := names.foldl (fun a name => a.addSwitch name "") a
        match last with
        | none => read? known none a r
        | some (name, value) =>
          if value.isEmpty then read? known (some name) a r
          else read? known none (a.addSwitch name value) r
    | _ => read? known none (a.addOperand s) r

end Arguments

namespace Command

def verboseSwitch : Switch := ⟨"verbose", some 'v', false⟩

def dataSwitch : Switch := ⟨"data-dir", none, true⟩

def formatSwitches : List Switch :=
  [verboseSwitch, dataSwitch, ⟨"country", some 'c', true⟩, ⟨"fallback-country", none, true⟩,
   ⟨"abbreviate", some 'a', false⟩, ⟨"append-country", none, false⟩,
   ⟨"no-postcode-cleanup", none, false⟩, ⟨"lines", none, false⟩, ⟨"json", none, false⟩,
   ⟨"config", none, true⟩]

def renderSwitches : List Switch := [verboseSwitch, ⟨"partials", none, true⟩]

def formatOf? (a : Arguments) : Option Command :=
  match a.operands with
  | [input] => some (.format {
      input
      country := a.value? "country"
      fallbackCountry := a.value? "fallback-country"
      abbreviate := a.isSet "abbreviate"
      appendCountry := a.isSet "append-country"
      keepPostcode := a.isSet "no-postcode-cleanup"
      lines := a.isSet "lines"
      json := a.isSet "json"
      config := a.value? "config"
      dataFolder := a.value? "data-dir" })
  | _ => none

def renderOf? (a : Arguments) : Option Command :=
  match a.operands with
  | [template] => some (.render template none (a.value? "partials"))
  | [template, data] => some (.render template (some data) (a.value? "partials"))
  | _ => none

def validateOf? (a : Arguments) : Option Command :=
  if a.operands.isEmpty then some (.validate (a.value? "data-dir")) else none

def countriesOf? (a : Arguments) : Option Command :=
  match a.operands with
  | [] => some (.countries none)
  | [code] => some (.countries (some code))
  | _ => none

/-- Reads the arguments of a command that is given by name. -/
def named? (name : String) (args : List String) : Option Command :=
  let read := fun known => Arguments.read? known none .empty args
  match name with
  | "format" => (read formatSwitches).bind formatOf?
  | "render" => (read renderSwitches).bind renderOf?
  | "validate" => (read [verboseSwitch, dataSwitch]).bind validateOf?
  | "countries" => (read [verboseSwitch]).bind countriesOf?
  | _ => none

/-- Reads all arguments; the name of the command comes first, but for `--verbose`. -/
def ofArguments? : List String → Option Command
  | [] => none
  | s :: r => if s = "-v" || s = "--verbose" then ofArguments? r else named? s r

/-- The files and folders that a command reads. -/
def paths : Command → List String
  | .format c => [c.input] ++ c.config.toList ++ c.dataFolder.toList
  | .render template data partials => [template] ++ data.toList ++ partials.toList
  | .validate folder => folder.toList
  | .countries _ => []

end Command

end PostalAddress
