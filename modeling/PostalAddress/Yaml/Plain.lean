import PostalAddress.Decimal.Reading
import PostalAddress.Document
import PostalAddress.Yaml.Node

/-!
# What plain scalars stand for

A plain scalar is null, a truth value, a whole number, another number or else a text. Whole
numbers may be written with base sixteen, eight or two; digits after a leading zero are a text.
Whole numbers beyond 64 bits that would fit 128 are refused, and what is not finite becomes null.
A quoted or block scalar is always a text.
-/

namespace PostalAddress.Yaml

namespace Plain

open Decimal

def isNull (t : String) : Bool := ["", "~", "null", "Null", "NULL"].contains t

def bool? (t : String) : Option Bool :=
  if ["true", "True", "TRUE"].contains t then some true
  else if ["false", "False", "FALSE"].contains t then some false
  else none

/-- The value of a digit in a base up to sixteen. -/
def digitIn? (base : Nat) (c : Char) : Option Nat :=
  (Scalar.hexValue? c).bind fun d => if d < base then some d else none

def natIn? (base : Nat) (ds : List Char) : Option Nat :=
  if ds.isEmpty then none
  else ds.foldl (fun n c => n.bind fun n => (digitIn? base c).map (base * n + ·)) (some 0)

/-- The base after a leading zero. -/
def baseMark? : List Char → Option (Nat × List Char)
  | '0' :: 'x' :: r => some (16, r)
  | '0' :: 'o' :: r => some (8, r)
  | '0' :: 'b' :: r => some (2, r)
  | _ => none

/-- A zero with digits after it. -/
def hasLeadingZero (t : List Char) : Bool :=
  match t with
  | '0' :: c :: r => (c :: r).all isDecimalDigit
  | _ => false

def magnitude? (t : List Char) : Option Nat :=
  match baseMark? t with
  | some (base, ds) => natIn? base ds
  | none => if hasLeadingZero t then none else natIn? 10 t

def signed? : List Char → Bool × List Char
  | '-' :: r => (true, r)
  | '+' :: r => (false, r)
  | r => (false, r)

/-- A whole number of at most 128 bits. -/
def whole? (t : List Char) : Option Int :=
  let (negative, r) := signed? t
  match magnitude? r with
  | none => none
  | some n =>
    if negative then if n ≤ Nat.pow 2 127 then some (-(n : Int)) else none
    else if n < Nat.pow 2 128 then some n else none

def fitsJson (n : Int) : Bool := -(Nat.pow 2 63 : Nat) ≤ n && n < Nat.pow 2 64

/-- The digits around the point of a number, and its exponent. -/
def decimalParts? (t : List Char) : Option (List Char × List Char × Int) :=
  let whole := t.takeWhile isDecimalDigit
  let r := t.dropWhile isDecimalDigit
  let (fraction, r) := match r with
    | '.' :: r => (r.takeWhile isDecimalDigit, r.dropWhile isDecimalDigit)
    | r => ([], r)
  if whole.isEmpty && fraction.isEmpty then none
  else
    match r with
    | [] => some (whole, fraction, 0)
    | c :: r =>
      if c = 'e' || c = 'E' then
        let (negative, ds) := signed? r
        if ds.isEmpty || !ds.all isDecimalDigit then none
        else
          let n : Int := natOfDigits ds
          some (whole, fraction, if negative then -n else n)
      else none

/-- Exponents beyond this change nothing any more for a number with `digits` digits. -/
def exponentBound (digits : Nat) : Int := (digits : Int) + 400

def real? (t : List Char) : Option Float := do
  let (negative, r) := signed? t
  let (whole, fraction, exponent) ← decimalParts? r
  if hasLeadingZero r then none
  let digits := whole ++ fraction
  let bound := exponentBound digits.length
  let exponent := max (-bound) (min bound exponent)
  let x := nearest (natOfDigits digits) (exponent - fraction.length)
  if x.isInf then none else some (if negative then -x else x)

/-- The names of what is not finite. -/
def isBeyondNumbers (t : String) : Bool :=
  [".inf", ".Inf", ".INF", "+.inf", "+.Inf", "+.INF", "-.inf", "-.Inf", "-.INF", ".nan", ".NaN",
   ".NAN"].contains t

def json? (t : String) : Option Json :=
  if isNull t then some .null
  else
    match bool? t with
    | some b => some (.bool b)
    | none =>
      match whole? t.toList with
      | some n => if fitsJson n then some (.whole n) else none
      | none =>
        if isBeyondNumbers t then some .null
        else
          match real? t.toList with
          | some x => some (.real x)
          | none => some (.string t)

end Plain

mutual

/-- The plain data of a node; keys are read as texts. -/
def toJson? : Yaml → Option Json
  | .scalar text plain => if plain then Plain.json? text else some (.string text)
  | .sequence vs => (itemsToJson? vs).map .array
  | .mapping ms => (membersToJson? ms).map .object

def itemsToJson? : List Yaml → Option (List Json)
  | [] => some []
  | v :: vs => do
    let j ← toJson? v
    let js ← itemsToJson? vs
    some (j :: js)

def membersToJson? : List (Yaml × Yaml) → Option (List (String × Json))
  | [] => some []
  | (.scalar name _, v) :: ms => do
    let j ← toJson? v
    let js ← membersToJson? ms
    some ((name, j) :: js)
  | _ :: _ => none

end

def key? : Yaml → Option String
  | .scalar text _ => some text
  | _ => none

/-- An absent value stands for an empty sequence or mapping where one is asked for. -/
def isAbsent : Yaml → Bool
  | .scalar text plain => plain && text.isEmpty
  | _ => false

instance : Document Yaml where
  isNull
    | .scalar text plain => plain && Plain.isNull text
    | _ => false
  text?
    | .scalar text _ => some text
    | _ => none
  choice?
    | .scalar text _ => some text
    | _ => none
  bool?
    | .scalar text true => Plain.bool? text
    | _ => none
  items?
    | .sequence vs => some vs
    | v => if v.isAbsent then some [] else none
  members?
    | .mapping ms => ms.mapM fun (k, v) => k.key?.map (·, v)
    | v => if v.isAbsent then some [] else none
  positional? _ := none
  json? := toJson?

end PostalAddress.Yaml
