import PostalAddress.Decimal.Layout
import PostalAddress.Decimal.Reading
import PostalAddress.Json.Basic
import PostalAddress.Template.Delimiters

/-!
# Values of a view

A view is what a template is rendered against. Besides the values of JSON it may hold computed
values, which are called with a view when they are looked up, and lambdas, which are called with
the source of a section. Computed values are named by elements of a type `κ`; what each computes
is given where views are looked up. A lambda may have texts rendered, one after the other, before
it answers.
-/

namespace PostalAddress

/-- What a lambda does next: answer, or have a text rendered and go on with the outcome. -/
inductive LambdaStep
  | answer (result : Except TemplateError String)
  | render (text : String) (next : Except TemplateError String → LambdaStep)

inductive Value (κ : Type)
  | null
  | bool (b : Bool)
  | number (x : Float)
  | string (s : String)
  | list (items : List (Value κ))
  | map (entries : List (String × Value κ))
  | computed (k : κ)
  | lambda (call : String → LambdaStep)

namespace Value

variable {κ : Type}

instance : Inhabited (Value κ) := ⟨.null⟩

def isTruthy : Value κ → Bool
  | .null => false
  | .bool b => b
  | .number x => !(x == 0 || x.isNaN)
  | .string s => !s.isEmpty
  | .list items => !items.isEmpty
  | .map _ => true
  | .computed _ => true
  | .lambda _ => true

/-- Whole numbers below `10 ^ 15` lose the sign of zero. -/
def numberText (x : Float) : String :=
  if x == 0 then "0" else String.ofList (Decimal.Layout.plain.text x)

mutual

def toText : Value κ → String
  | .bool b => if b then "true" else "false"
  | .number x => numberText x
  | .string s => s
  | .list items => ",".intercalate (itemTexts items)
  | .null => ""
  | .map _ => ""
  | .computed _ => ""
  | .lambda _ => ""

def itemTexts : List (Value κ) → List String
  | [] => []
  | v :: vs => toText v :: itemTexts vs

end

def string? : Value κ → Option String
  | .string s => some s
  | _ => none

/-- A place in a list: decimal digits below `2 ^ 64`, with at most a plus sign before them. -/
def index? (name : String) : Option Nat :=
  let ds := match name.toList with
    | '+' :: r => r
    | r => r
  if ds.isEmpty || !ds.all Decimal.isDecimalDigit then none
  else
    let n := Decimal.natOfDigits ds
    if n < Decimal.limit64 then some n else none

/-- The member of a map, or the length or an item of a list. -/
def property (name : String) : Value κ → Option (Value κ)
  | .map es => Table.find? name es
  | .list items =>
    if name = "length" then some (.number (Float.ofNat items.length))
    else (index? name).bind fun i => items[i]?
  | _ => none

/-- The length or a character of a string. -/
def primitiveProperty (name : String) : Value κ → Option (Value κ)
  | .string s =>
    if name = "length" then some (.number (Float.ofNat s.length))
    else (index? name).bind fun i => s.toList[i]?.map fun c => .string (String.singleton c)
  | _ => none

mutual

def ofJson : Json → Value κ
  | .null => .null
  | .bool b => .bool b
  | .whole n => .number (if n < 0 then -(Float.ofNat n.natAbs) else Float.ofNat n.toNat)
  | .real x => .number x
  | .string s => .string s
  | .array js => .list (ofItems js)
  | .object ms => .map (Table.ofList (ofMembers ms)).entries

def ofItems : List Json → List (Value κ)
  | [] => []
  | j :: js => ofJson j :: ofItems js

def ofMembers : List (String × Json) → List (String × Value κ)
  | [] => []
  | (k, j) :: ms => (k, ofJson j) :: ofMembers ms

end

end Value

end PostalAddress
