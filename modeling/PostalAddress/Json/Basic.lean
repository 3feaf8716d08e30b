import PostalAddress.Table

/-!
# JSON values

Whole numbers that fit 64 bits, signed or unsigned, are kept apart from the other numbers. An
object keeps its members in the order in which they are written, repeated names included;
`members` settles repetitions.
-/

namespace PostalAddress

inductive Json
  | null
  | bool (b : Bool)
  | whole (n : Int)
  | real (x : Float)
  | string (s : String)
  | array (items : List Json)
  | object (ms : List (String × Json))

namespace Json

instance : Inhabited Json := ⟨.null⟩

/-- The members of an object; a repeated name takes the later value and keeps the earlier place. -/
def members? : Json → Option (Table Json)
  | .object ms => some (.ofList ms)
  | _ => none

def get? (j : Json) (name : String) : Option Json := j.members?.bind (·.get? name)

end Json

end PostalAddress
