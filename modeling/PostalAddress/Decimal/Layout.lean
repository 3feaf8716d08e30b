import PostalAddress.Decimal.Shortest

/-!
# The text of a number

How the digits of a double are laid out: the window of exponents that is written positionally,
and whether a whole number keeps `.0`. `plain` is the layout of rendered values, `exchange` the
one of data files.
-/

namespace PostalAddress.Decimal

structure Layout where
  /-- The exponents written positionally, when not all are. -/
  window : Option (Int × Int)
  /-- A whole number is followed by `.0`. -/
  keepPoint : Bool
deriving DecidableEq

/-- Every number is written out in full, and whole numbers have no point. -/
def Layout.plain : Layout := ⟨none, false⟩

/-- Numbers from `1e-5` up to below `1e16` are written out, with at least one decimal. -/
def Layout.exchange : Layout := ⟨some (-5, 15), true⟩

def digitText (ds : List Nat) : List Char := ds.map Nat.digitChar

def positional (keepPoint : Bool) (d : Digits) : List Char :=
  let n := d.digits.length
  if d.exponent < 0 then
    ['0', '.'] ++ List.replicate ((-d.exponent).toNat - 1) '0' ++ digitText d.digits
  else
    let whole := d.exponent.toNat + 1
    if n ≤ whole then
      digitText d.digits ++ List.replicate (whole - n) '0' ++
        (if keepPoint then ['.', '0'] else [])
    else digitText (d.digits.take whole) ++ '.' :: digitText (d.digits.drop whole)

def scientific (d : Digits) : List Char :=
  let e := Nat.toDigits 10 d.exponent.natAbs
  let sign := if d.exponent < 0 then '-' else '+'
  match d.digits with
  | [] => []
  | [a] => Nat.digitChar a :: 'e' :: sign :: e
  | a :: r => Nat.digitChar a :: '.' :: digitText r ++ 'e' :: sign :: e

def Layout.digits (l : Layout) (d : Digits) : List Char :=
  match l.window with
  | none => positional l.keepPoint d
  | some (lo, hi) =>
    if lo ≤ d.exponent && d.exponent ≤ hi then positional l.keepPoint d else scientific d

def isNegative (x : Float) : Bool := x.toBits.toNat / Nat.pow 2 63 == 1

def Layout.text (l : Layout) (x : Float) : List Char :=
  if x.isNaN then "NaN".toList
  else
    let body := if x.isInf then "inf".toList else l.digits (shortest (.ofBits x.toBits))
    if isNegative x then '-' :: body else body

end PostalAddress.Decimal
