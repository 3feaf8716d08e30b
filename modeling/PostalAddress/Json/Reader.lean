import PostalAddress.Decimal.Reading
import PostalAddress.Json.Basic

/-!
# Reading JSON

`Json.parse?` reads one value with white space around it. Each reader returns what it read and the
rest of the text. A value nests at most 127 deep, and a text that breaks the grammar anywhere gives
nothing.
-/

namespace PostalAddress.Json

def isSpace (c : Char) : Bool := c = ' ' || c = '\n' || c = '\t' || c = '\r'

def skipSpace (t : List Char) : List Char := t.dropWhile isSpace

def hexValue? (c : Char) : Option Nat :=
  if '0' ≤ c && c ≤ '9' then some (c.toNat - 48)
  else if 'a' ≤ c && c ≤ 'f' then some (c.toNat - 87)
  else if 'A' ≤ c && c ≤ 'F' then some (c.toNat - 55)
  else none

def readHex4? : List Char → Option (Nat × List Char)
  | a :: b :: c :: d :: r => do
    let a ← hexValue? a
    let b ← hexValue? b
    let c ← hexValue? c
    let d ← hexValue? d
    some (((a * 16 + b) * 16 + c) * 16 + d, r)
  | _ => none

/-- The character after `\u`; a high surrogate must be followed by a low one. -/
def unicodeEscape? (t : List Char) : Option (Char × List Char) := do
  let (n, r) ← readHex4? t
  if 0xDC00 ≤ n && n ≤ 0xDFFF then none
  else if 0xD800 ≤ n && n ≤ 0xDBFF then
    match r with
    | '\\' :: 'u' :: r =>
      let (m, r) ← readHex4? r
      if 0xDC00 ≤ m && m ≤ 0xDFFF then
        some (Char.ofNat (0x10000 + (n - 0xD800) * 0x400 + (m - 0xDC00)), r)
      else none
    | _ => none
  else some (Char.ofNat n, r)

/-- The rest of a string after its opening quote. The fuel bounds the number of characters. -/
def readStringBody? : (fuel : Nat) → List Char → Option (List Char × List Char)
  | 0, _ => none
  | _, [] => none
  | fuel + 1, c :: r =>
    if c = '\x22' then some ([], r)
    else if c = '\\' then do
      let (e, r) ← escaped? r
      let (cs, r) ← readStringBody? fuel r
      some (e :: cs, r)
    else if c.toNat < 32 then none
    else do
      let (cs, r) ← readStringBody? fuel r
      some (c :: cs, r)
where
  escaped? : List Char → Option (Char × List Char)
    | [] => none
    | c :: r =>
      match c with
      | 'b' => some ('\x08', r)
      | 'f' => some ('\x0c', r)
      | 'n' => some ('\n', r)
      | 'r' => some ('\r', r)
      | 't' => some ('\t', r)
      | 'u' => unicodeEscape? r
      | '/' => some ('/', r)
      | _ => if c = '\x22' || c = '\\' then some (c, r) else none

def readString? (t : List Char) : Option (String × List Char) :=
  (readStringBody? (t.length + 1) t).map fun (cs, r) => (String.ofList cs, r)

def digits (t : List Char) : List Char × List Char :=
  (t.takeWhile Decimal.isDecimalDigit, t.dropWhile Decimal.isDecimalDigit)

def readFraction? : List Char → Option (Option (List Char) × List Char)
  | '.' :: r =>
    let (ds, r) := digits r
    if ds.isEmpty then none else some (some ds, r)
  | t => some (none, t)

def readExponent? : List Char → Option (Option Int × List Char)
  | c :: r =>
    if c = 'e' || c = 'E' then
      let (negative, r) := match r with
        | '-' :: r => (true, r)
        | '+' :: r => (false, r)
        | r => (false, r)
      let (ds, r) := digits r
      if ds.isEmpty then none
      else
        let n : Int := Decimal.natOfDigits ds
        some (some (if negative then -n else n), r)
    else some (none, c :: r)
  | [] => some (none, [])

def leastWhole : Int := -(Nat.pow 2 63 : Nat)

/-- A number after its sign. Minus zero is no whole number. -/
def readUnsigned? (negative : Bool) (t : List Char) : Option (Json × List Char) := do
  let (ds, r) := digits t
  if ds.isEmpty then none
  if ds.length > 1 && ds.head? = some '0' then none
  let (fraction, r) ← readFraction? r
  let (exponent, r) ← readExponent? r
  let n := Decimal.natOfDigits ds
  let signed := fun x : Float => if negative then -x else x
  if fraction.isNone && exponent.isNone && n < Decimal.limit64 then
    if !negative then some (.whole n, r)
    else if n = 0 || -(n : Int) < leastWhole then some (.real (signed (Float.ofNat n)), r)
    else some (.whole (-(n : Int)), r)
  else
    let x ← Decimal.scaled ds (fraction.getD []) (exponent.getD 0)
    some (.real (signed x), r)

def readNumber? : List Char → Option (Json × List Char)
  | '-' :: r => readUnsigned? true r
  | t => readUnsigned? false t

def readWord? (word : String) (value : Json) (t : List Char) : Option (Json × List Char) :=
  if word.toList.isPrefixOf t then some (value, t.drop word.length) else none

mutual

/-- A value; the fuel bounds the steps, the depth the nesting that is left. -/
def readValue? : (fuel depth : Nat) → List Char → Option (Json × List Char)
  | 0, _, _ => none
  | fuel + 1, depth, t =>
    match skipSpace t with
    | [] => none
    | c :: r =>
      if c = '\x22' then (readString? r).map fun (s, r) => (.string s, r)
      else if c = '[' then
        match depth with
        | 0 => none
        | depth + 1 =>
          match skipSpace r with
          | ']' :: r => some (.array [], r)
          | r => (readItems? fuel depth r).map fun (js, r) => (.array js, r)
      else if c = '\x7b' then
        match depth with
        | 0 => none
        | depth + 1 =>
          match skipSpace r with
          | '\x7d' :: r => some (.object [], r)
          | r => (readMembers? fuel depth r).map fun (ms, r) => (.object ms, r)
      else if c = 't' then readWord? "true" (.bool true) (c :: r)
      else if c = 'f' then readWord? "false" (.bool false) (c :: r)
      else if c = 'n' then readWord? "null" .null (c :: r)
      else readNumber? (c :: r)

/-- The items of an array up to its closing bracket. -/
def readItems? : (fuel depth : Nat) → List Char → Option (List Json × List Char)
  | 0, _, _ => none
  | fuel + 1, depth, t => do
    let (j, r) ← readValue? fuel depth t
    match skipSpace r with
    | ',' :: r =>
      let (js, r) ← readItems? fuel depth r
      some (j :: js, r)
    | ']' :: r => some ([j], r)
    | _ => none

/-- The members of an object up to its closing brace. -/
def readMembers? : (fuel depth : Nat) → List Char → Option ((List (String × Json)) × List Char)
  | 0, _, _ => none
  | fuel + 1, depth, t =>
    match skipSpace t with
    | '\x22' :: r => do
      let (name, r) ← readString? r
      match skipSpace r with
      | ':' :: r =>
        let (j, r) ← readValue? fuel depth r
        match skipSpace r with
        | ',' :: r =>
          let (ms, r) ← readMembers? fuel depth r
          some ((name, j) :: ms, r)
        | '\x7d' :: r => some ([(name, j)], r)
        | _ => none
      | _ => none
    | _ => none

end

def nesting : Nat := 127

def parse? (text : String) : Option Json :=
  let t := text.toList
  match readValue? (2 * t.length + 2) nesting t with
  | some (j, r) => if (skipSpace r).isEmpty then some j else none
  | none => none

end PostalAddress.Json
