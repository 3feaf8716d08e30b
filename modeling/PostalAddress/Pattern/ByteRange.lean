import PostalAddress.Text.CodeSet

/-!
# Code points as bytes

A run of code points is cut into parts of which the bytes in UTF-8 vary independently of each other,
so that each part is a sequence of ranges of bytes.
-/

namespace PostalAddress

/-- The first and the last byte. -/
abbrev ByteRange := Nat × Nat

namespace ByteRange

/-- The last code points that one, two and three bytes can write. -/
def lengthEnds : List Nat := [0x7f, 0x7ff, 0xffff]

/-- Where a run is cut so that its ends lie at multiples of `block`, when they lie in different
blocks. -/
def cutBlock? (a b block : Nat) : Option Nat :=
  if a / block = b / block then none
  else if a % block ≠ 0 then some ((a / block + 1) * block)
  else if (b + 1) % block ≠ 0 then some (b / block * block)
  else none

/-- The end of the first part and the start of the rest of a run. Surrogates lie in neither. -/
def cut? (a b : Nat) : Option (Nat × Nat) :=
  if a < 0xe000 && 0xd7ff < b then some (0xd7ff, 0xe000)
  else
    match lengthEnds.find? fun m => a ≤ m && m < b with
    | some m => some (m, m + 1)
    | none =>
      if b ≤ 0x7f then none
      else ([64, 64 * 64, 64 * 64 * 64].findSome? (cutBlock? a b)).map fun n => (n - 1, n)

/-- A run is cut at the surrogates, at three lengths, and at both ends for three sizes of blocks,
so that the cuts are nested less than `fuel` deep. -/
def parts : (fuel a b : Nat) → List (Nat × Nat)
  | 0, _, _ => []
  | fuel + 1, a, b =>
    if b < a then []
    else
      match cut? a b with
      | some (m, n) => parts fuel a m ++ parts fuel n b
      | none => [(a, b)]

def bytes (n : Nat) : List Nat := (String.utf8EncodeChar (Char.ofNat n)).map UInt8.toNat

/-- The sequences of a set, in order. -/
def sequences (s : Text.CodeSet) : List (List ByteRange) :=
  s.runs.flatMap fun (a, b) => (parts 16 a b).map fun (a, b) => (bytes a).zip (bytes b)

end ByteRange

end PostalAddress
