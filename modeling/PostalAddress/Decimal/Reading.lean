/-!
# Reading numbers

A decimal literal is read digit by digit. `nearest` gives the double closest to a decimal.
`scaled` is the cheaper reading used for data in exchange format: the digits that fit 64 bits make
a double, which is then multiplied or divided by a power of ten, each step rounded; a number too
large for a double is refused.
-/

namespace PostalAddress.Decimal

def digitValue? (c : Char) : Option Nat :=
  if '0' ≤ c && c ≤ '9' then some (c.toNat - '0'.toNat) else none

def isDecimalDigit (c : Char) : Bool := '0' ≤ c && c ≤ '9'

/-- The number written by a run of decimal digits. -/
def natOfDigits (ds : List Char) : Nat :=
  ds.foldl (fun n c => 10 * n + (c.toNat - '0'.toNat)) 0

/-- The double closest to `m · 10 ^ e`. -/
def nearest (m : Nat) (e : Int) : Float :=
  if e < 0 then Float.ofScientific m true e.natAbs else Float.ofScientific m false e.natAbs

def powerOfTen (n : Nat) : Float := Float.ofScientific 1 false n

/-- `x · 10 ^ e`, in at most `fuel` divisions by the largest power of ten. -/
def scaleBy : (fuel : Nat) → Float → Int → Option Float
  | fuel, x, e =>
    if e.natAbs ≤ 308 then
      if e < 0 then some (x / powerOfTen e.natAbs)
      else
        let y := x * powerOfTen e.natAbs
        if y.isInf then none else some y
    else if x == 0 then some x
    else if 0 ≤ e then none
    else
      match fuel with
      | 0 => some 0
      | fuel + 1 => scaleBy fuel (x / powerOfTen 308) (e + 308)

def limit64 : Nat := Nat.pow 2 64

/-- The digits that fit 64 bits, and how many are left over. -/
def significand : List Char → (acc : Nat) → Nat × Nat
  | [], acc => (acc, 0)
  | c :: r, acc =>
    let next := 10 * acc + (c.toNat - '0'.toNat)
    if next < limit64 then significand r next else (acc, r.length + 1)

/-- The double for `whole.fraction · 10 ^ exponent`, none when it is too large. -/
def scaled (whole fraction : List Char) (exponent : Int) : Option Float :=
  let (m, dropped) := significand whole 0
  if dropped = 0 then
    let (m', ignored) := significand fraction m
    scaleBy 4 (Float.ofNat m') (exponent - ((fraction.length - ignored : Nat) : Int))
  else
    let (m', ignored) := significand fraction m
    scaleBy 4 (Float.ofNat m')
      (exponent + (dropped : Int) - ((fraction.length - ignored : Nat) : Int))

end PostalAddress.Decimal
