import PostalAddress.Template.Context
import PostalAddress.Text.Front

/-!
# Alternatives

Layouts write alternatives for one place between double bars in a section called `first`, whose
value is a lambda: it has the section rendered and keeps the first part that is not blank.
-/

namespace PostalAddress

namespace Alternatives

open Text

/-- Double bars with the white space around them. -/
def separator : Front := (Front.spaced ['|', '|']).andThen .blanks

def parts (t : List Char) : List (List Char) := separator.split t

/-- The first part that is not blank, trimmed. -/
def firstAvailable (t : List Char) : List Char :=
  (((parts t).map trim).find? fun p => !p.isEmpty).getD []

/-- The name under which the selector is bound. -/
def key : String := "first"

def choose (body : String) : LambdaStep :=
  .render body fun
    | .ok text => .answer (.ok (String.ofList (firstAvailable text.toList)))
    | .error e => .answer (.error e)

end Alternatives

/-- The computed values of layouts: the selector. -/
inductive Selector
  | first
deriving DecidableEq

namespace Selector

/-- The selector gives its lambda for every view. -/
def compute : Compute Selector := fun _ _ => .lambda Alternatives.choose

end Selector

end PostalAddress
