import PostalAddress.Address.Abbreviation
import PostalAddress.Address.Country
import PostalAddress.Address.Fields
import PostalAddress.Pattern.Basic

/-!
# Tables of substitutions

Substitutions whose patterns have been read. Each replaces the leftmost match of its pattern; one
that is meant for a field leaves all other texts alone. Abbreviations replace whole words.
-/

namespace PostalAddress

/-- A pattern that cannot be read, and the table it is in. -/
structure PatternFault where
  table : String
  pattern : String
deriving DecidableEq

structure Rule where
  scope : Option String
  pattern : Pattern
  replacement : Replacement

abbrev RuleTable := List Rule

namespace Rule

def make (table : String) (scope : Option String) (pattern replacement : String) :
    Except PatternFault Rule :=
  match Pattern.parse? pattern with
  | some p => .ok ⟨scope, p, .read replacement.toList⟩
  | none => .error ⟨table, pattern⟩

def appliesTo (r : Rule) (field : Option String) : Bool := r.scope.isNone || r.scope = field

def apply (r : Rule) (field : Option String) (t : List Char) : List Char :=
  if r.appliesTo field then r.pattern.replaceFirst r.replacement t else t

end Rule

namespace RuleTable

/-- Rules for fields, each meant for the field its pattern begins with. -/
def forFields (table : String) (rules : List Substitution) : Except PatternFault RuleTable :=
  rules.mapM fun s =>
    let (scope, pattern) := s.scopeAndPattern
    Rule.make table scope pattern s.replacement

/-- Rules for whole texts. -/
def forText (table : String) (rules : List Substitution) : Except PatternFault RuleTable :=
  rules.mapM fun s => Rule.make table none s.pattern s.replacement

def wordPattern (src : String) : String :=
  "\\b" ++ String.ofList (Pattern.escape src.toList) ++ "\\b"

def forAbbreviations (table : String) (rules : List AbbreviationRule) :
    Except PatternFault RuleTable :=
  (rules.flatMap fun r => r.replacements.map (r.component, ·)).mapM fun (component, a) =>
    Rule.make table (some component) (wordPattern a.src)
      (String.ofList (Replacement.literal a.dest.toList))

/-- Applies the rules in order to a text of the given field. -/
def apply (rules : RuleTable) (field : Option String) (text : String) : String :=
  String.ofList (rules.foldl (fun t r => r.apply field t) text.toList)

def applyFields (rules : RuleTable) (f : Fields) : Fields :=
  Table.mapEntries (fun key value => rules.apply (some key) value) f

end RuleTable

end PostalAddress
