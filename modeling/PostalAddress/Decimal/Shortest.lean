/-!
# Shortest decimals

The decimal of fewest digits that reads back as a given finite double. A double `m · 2 ^ q` is the
nearest double to every real between the midpoints to its neighbours, the midpoints included when
`m` is even. For one digit, two digits and so on the two decimals around the value are tried; the
first count with one between the midpoints wins, and of two the nearer.
-/

namespace PostalAddress.Decimal

/-- The digits `d₁ d₂ … dₙ`, most significant first, standing for `d₁.d₂…dₙ · 10 ^ exponent`. -/
structure Digits where
  digits : List Nat
  exponent : Int
deriving DecidableEq

/-- The magnitude of a finite double, `mantissa · 2 ^ (power - 1074)`. -/
structure Binary where
  mantissa : Nat
  power : Nat
deriving DecidableEq

def Binary.ofBits (bits : UInt64) : Binary :=
  let biased := (bits.toNat / Nat.pow 2 52) % 2048
  let fraction := bits.toNat % Nat.pow 2 52
  if biased = 0 then ⟨fraction, 0⟩ else ⟨Nat.pow 2 52 + fraction, biased - 1⟩

namespace Binary

/-- All lengths below are in units of `2 ^ (-1076)`. -/
def value (b : Binary) : Nat := 4 * b.mantissa * Nat.pow 2 b.power

def upperGap (b : Binary) : Nat := 2 * Nat.pow 2 b.power

/-- The gap below a power of two is half as wide. -/
def lowerGap (b : Binary) : Nat :=
  if b.mantissa = Nat.pow 2 52 && b.power != 0 then Nat.pow 2 b.power else 2 * Nat.pow 2 b.power

/-- `x / scale` reads back as `b`. -/
def covers (b : Binary) (scale x : Nat) : Bool :=
  let v := b.value * scale
  if x ≤ v then
    let d := v - x
    if b.mantissa % 2 = 0 then d ≤ b.lowerGap * scale else d < b.lowerGap * scale
  else
    let d := x - v
    if b.mantissa % 2 = 0 then d ≤ b.upperGap * scale else d < b.upperGap * scale

end Binary

def digitCount (n : Nat) : Nat := (Nat.toDigits 10 n).length

/-- The least `t` with `den ≤ num · 10 ^ t`, looked for among the first `fuel` exponents. -/
def leastShift (num den : Nat) : (fuel t : Nat) → Nat
  | 0, t => t
  | fuel + 1, t => if den ≤ num * Nat.pow 10 t then t else leastShift num den fuel (t + 1)

/-- The exponent of the first digit of `num / den`. -/
def leadExponent (num den : Nat) : Int :=
  if den ≤ num then (digitCount (num / den) : Int) - 1 else -(leastShift num den 400 1 : Int)

/-- The decimal with `count` digits, first at exponent `lead`, that is nearest to `b` among the
two around it and reads back as `b`. -/
def nearest? (b : Binary) (lead : Int) (count : Nat) : Option Nat :=
  let unit := lead - (count - 1 : Nat)
  -- A decimal `n · 10 ^ unit` is compared with `b` at the common scale `up / down`.
  let up := Nat.pow 10 unit.toNat * Nat.pow 2 1076
  let down := Nat.pow 10 (-unit).toNat
  let v := b.value * down
  let low := v / up
  let fits := fun n => b.covers down (n * up)
  let lowOk := fits low
  let highOk := fits (low + 1)
  if lowOk && highOk then
    let below := v - low * up
    let above := (low + 1) * up - v
    if below < above then some low
    else if above < below then some (low + 1)
    else if low % 2 = 0 then some low else some (low + 1)
  else if lowOk then some low
  else if highOk then some (low + 1)
  else none

def search (b : Binary) (lead : Int) : (fuel count : Nat) → Option (Nat × Nat)
  | 0, _ => none
  | fuel + 1, count =>
    match nearest? b lead count with
    | some n => some (n, count)
    | none => search b lead fuel (count + 1)

def dropZeros (ds : List Nat) : List Nat :=
  (ds.reverse.dropWhile (· == 0)).reverse

def shortest (b : Binary) : Digits :=
  if b.mantissa = 0 then ⟨[0], 0⟩
  else
    let lead := leadExponent b.value (Nat.pow 2 1076)
    match search b lead 17 1 with
    | some (n, count) =>
      let ds := (Nat.toDigits 10 n).map fun c => c.toNat - 48
      ⟨dropZeros ds, lead + (ds.length : Int) - (count : Int)⟩
    | none => ⟨[0], 0⟩

end PostalAddress.Decimal
