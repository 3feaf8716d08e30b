import PostalAddress.Document

/-!
# Address components

The components of an address have canonical names and aliases. A name is canonical for itself even
where it is listed as the alias of another component; an alias that is listed twice belongs to the
component listed first. A table of components carries the index by which they are found.
-/

namespace PostalAddress

structure Component where
  name : String
  aliases : List String
deriving DecidableEq

namespace Component

def toJson (c : Component) : Json :=
  .object (("name", .string c.name) ::
    if c.aliases.isEmpty then [] else [("aliases", .array (c.aliases.map .string))])

def read? {ν : Type} [Document ν] (n : ν) : Option Component := do
  match ← Document.fields? ["name", "aliases"] n with
  | [some name, aliases] =>
    let name ← Document.text? name
    let aliases ← Document.withDefault? [] (Document.list? Document.text?) aliases
    some ⟨name, aliases⟩
  | _ => none

section Positions

variable (keys : Component → List String)

/-- Enters the positions of components, counted from `i`, under those of their keys that have
none. -/
def enterFrom (i : Nat) : List Component → Table Nat → Table Nat
  | [], entered => entered
  | c :: cs, entered =>
    enterFrom (i + 1) cs ((keys c).foldl (fun entered k => entered.insertNew k i) entered)

/-- The positions of components under their names, and then under those of their aliases that
nothing stands under. -/
def positions (cs : List Component) : Table Nat :=
  enterFrom Component.aliases 0 cs (enterFrom (fun c => [c.name]) 0 cs ∅)

/-- Every name with its position, and then every alias. -/
def listing (cs : List Component) : List (String × Nat) :=
  cs.zipIdx.map (fun (c, i) => (c.name, i)) ++
    cs.zipIdx.flatMap fun (c, i) => c.aliases.map (·, i)

end Positions

end Component

/-- Components, and where to find the one that a name or an alias means. -/
structure ComponentTable where
  list : List Component
  index : Table Nat
  index_eq : index = Component.positions list

namespace ComponentTable

def ofList (cs : List Component) : ComponentTable := ⟨cs, Component.positions cs, rfl⟩

instance : Membership Component ComponentTable := ⟨fun t c => c ∈ t.list⟩

instance (t : ComponentTable) (p : Component → Prop) [DecidablePred p] :
    Decidable (∀ c ∈ t, p c) :=
  inferInstanceAs (Decidable (∀ c ∈ t.list, p c))

instance (t : ComponentTable) (c : Component) : Decidable (c ∈ t) :=
  inferInstanceAs (Decidable (c ∈ t.list))

def nameAt? (t : ComponentTable) (i : Nat) : Option String := t.list[i]?.map Component.name

def canonical (t : ComponentTable) (key : String) : Option String :=
  (t.index.get? key).bind t.nameAt?

def isKnown (t : ComponentTable) (key : String) : Bool := t.index.contains key

def isAlias (t : ComponentTable) (key : String) : Bool :=
  (canonical t key).any (· != key)

def names (t : ComponentTable) : List String := t.list.map Component.name

def toJson (t : ComponentTable) : Json := .array (t.list.map Component.toJson)

def read? {ν : Type} [Document ν] (n : ν) : Option ComponentTable :=
  (Document.list? Component.read? n).map ofList

end ComponentTable

end PostalAddress
