import PostalAddress.Decimal.Reading

/-!
# Replacements

The text put in place of a match. `$1`, `${1}`, `$name` and `${name}` stand for groups and `$$` for
a dollar sign; without braces a name is the longest run of ASCII letters, digits and `_`. A dollar
sign that starts none of these stands for itself. `literal` writes any text so that it stands for
itself.
-/

namespace PostalAddress

inductive ReplacementPart
  | char (c : Char)
  | number (n : Nat)
  | name (s : String)
deriving DecidableEq

abbrev Replacement := List ReplacementPart

namespace Replacement

def isNameChar (c : Char) : Bool := c.isAlphanum || c = '_'

/-- A whole number below `2 ^ 64` in decimal digits, with at most a plus sign before it. -/
def wholeNumber? (t : List Char) : Option Nat :=
  let ds := match t with
    | '+' :: r => r
    | r => r
  if ds.isEmpty || !ds.all Decimal.isDecimalDigit then none
  else
    let n := Decimal.natOfDigits ds
    if n < Decimal.limit64 then some n else none

def reference (name : List Char) : ReplacementPart :=
  match wholeNumber? name with
  | some n => .number n
  | none => .name (String.ofList name)

/-- The reference after a dollar sign and the number of characters it takes. -/
def reference? : List Char → Option (ReplacementPart × Nat)
  | '\x7b' :: r =>
    let name := r.takeWhile (· != '\x7d')
    if name.length < r.length then some (reference name, name.length + 2) else none
  | r =>
    let name := r.takeWhile isNameChar
    if name.isEmpty then none else some (reference name, name.length)

/-- The first argument counts the characters still inside a reference. -/
def readFrom : Nat → List Char → Replacement
  | _, [] => []
  | k + 1, _ :: r => readFrom k r
  | 0, c :: r =>
    if c = '$' then
      match r with
      | '$' :: _ => .char '$' :: readFrom 1 r
      | _ =>
        match reference? r with
        | some (part, n) => part :: readFrom n r
        | none => .char '$' :: readFrom 0 r
    else .char c :: readFrom 0 r

def read (t : List Char) : Replacement := readFrom 0 t

/-- Doubles every dollar sign. -/
def literal (t : List Char) : List Char := t.flatMap fun c => if c = '$' then ['$', '$'] else [c]

def expand (r : Replacement) (number : Nat → List Char) (name : String → List Char) :
    List Char :=
  r.flatMap fun
    | .char c => [c]
    | .number n => number n
    | .name s => name s

end Replacement

end PostalAddress
