/-!
# Similarity of texts

The Jaro–Winkler similarity. Two characters agree when they are equal and stand no further apart
than half the longer text, less one; each is used once. An agreement that lies before the one
found last counts as a transposition. Every character of a shared beginning raises the similarity
by a tenth of what is missing.
-/

namespace PostalAddress.Text

/-- Farthest distance at which equal characters still agree. -/
def agreementRange (a b : List Char) : Nat := (max a.length b.length) / 2 - 1

/-- Takes the first free place from `lo` up to `hi` that holds `c`; places count from `i`. -/
def claim (c : Char) (lo hi : Nat) : (i : Nat) → List (Option Char) →
    Option (Nat × List (Option Char))
  | _, [] => none
  | i, d :: r =>
    if lo ≤ i && i ≤ hi && d = some c then some (i, none :: r)
    else (claim c lo hi (i + 1) r).map fun (j, r') => (j, d :: r')

/-- The places in `b` that the characters of `a` agree with, in the order of `a`. -/
def agreements (range : Nat) : (i : Nat) → List Char → List (Option Char) → List Nat
  | _, [], _ => []
  | i, c :: a, b =>
    match claim c (i - range) (i + range) 0 b with
    | some (j, b') => j :: agreements range (i + 1) a b'
    | none => agreements range (i + 1) a b

def descents : List Nat → Nat
  | i :: j :: r => (if j < i then 1 else 0) + descents (j :: r)
  | _ => 0

def jaro (a b : List Char) : Float :=
  if a.isEmpty && b.isEmpty then 1
  else if a.isEmpty || b.isEmpty then 0
  else if a.length = 1 && b.length = 1 then (if a = b then 1 else 0)
  else
    let found := agreements (agreementRange a b) 0 a (b.map some)
    let m := Float.ofNat found.length
    if found.isEmpty then 0
    else
      (1.0 / 3.0) * (m / Float.ofNat a.length + m / Float.ofNat b.length +
        (m - Float.ofNat (descents found)) / m)

def sharedLead : List Char → List Char → Nat
  | c :: a, d :: b => if c = d then sharedLead a b + 1 else 0
  | _, _ => 0

def jaroWinkler (a b : List Char) : Float :=
  let s := jaro a b
  let w := s + 0.1 * Float.ofNat (sharedLead a b) * (1 - s)
  if w ≤ 1 then w else 1

end PostalAddress.Text
