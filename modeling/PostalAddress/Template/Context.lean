import PostalAddress.Template.Value

/-!
# Contexts

A context is a stack of views, the innermost on top. A name is looked up from the top down; `.` is
the top view, and a name with a `.` after its first character is a path. Every layer remembers
what names led to while it was on top, hits and misses alike; a computed value is remembered as
such and called anew at every lookup, with the top view.
-/

namespace PostalAddress

structure Layer (κ : Type) where
  view : Value κ
  memo : List (String × Option (Value κ))

structure Context (κ : Type) where
  top : Layer κ
  below : List (Layer κ)

/-- What each computed value gives for a view. -/
abbrev Compute (κ : Type) := κ → Value κ → Value κ

namespace Context

variable {κ : Type}

def ofView (v : Value κ) : Context κ := ⟨⟨v, []⟩, []⟩

def view (c : Context κ) : Value κ := c.top.view

def views (c : Context κ) : List (Value κ) := c.top.view :: c.below.map Layer.view

def depth (c : Context κ) : Nat := c.below.length

def push (c : Context κ) (v : Value κ) : Context κ := ⟨⟨v, []⟩, c.top :: c.below⟩

/-- The root stays where it is. -/
def pop (c : Context κ) : Context κ :=
  match c.below with
  | [] => c
  | l :: ls => ⟨l, ls⟩

def parentView? (c : Context κ) : Option (Value κ) := c.below.head?.map Layer.view

def step? (v : Value κ) (name : String) : Option (Value κ) :=
  v.property name <|> v.primitiveProperty name

def walk? (v : Value κ) : List String → Option (Value κ)
  | [] => some v
  | name :: names => (step? v name).bind (walk? · names)

/-- The segments of a path; a name that is no path has none. -/
def segments (name : String) : List String :=
  match name.toList with
  | [] => []
  | '.' :: _ => []
  | t => if t.contains '.' then (Text.splitOn '.' t).map String.ofList else []

def resolveIn (name : String) (v : Value κ) : Option (Value κ) :=
  match segments name with
  | [] => v.property name
  | names => walk? v names

/-- The nearest hit; null is a hit. -/
def resolve (name : String) (views : List (Value κ)) : Option (Value κ) :=
  if name = "." then views.head? else views.findSome? (resolveIn name)

def settle (compute : Compute κ) (view : Value κ) : Option (Value κ) → Option (Value κ)
  | some (.computed k) => some (compute k view)
  | v => v

/-- What a name stands for, and the context that remembers it. -/
def lookup (compute : Compute κ) (name : String) (c : Context κ) :
    Option (Value κ) × Context κ :=
  match Table.find? name c.top.memo with
  | some v => (settle compute c.view v, c)
  | none =>
    let v := resolve name c.views
    (settle compute c.view v, { c with top := { c.top with memo := (name, v) :: c.top.memo } })

end Context

end PostalAddress
