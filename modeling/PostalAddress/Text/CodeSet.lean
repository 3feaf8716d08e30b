import PostalAddress.Decimal.Reading
import PostalAddress.Text.Blank

/-!
# Sets of code points

A `CodeSet` is a set of code points as its runs `(first, last)`, in order and with a gap between
every two of them. A set is written as lengths: of the gap before its first run, of that run, of
the next gap, and so on.
-/

namespace PostalAddress.Text

structure CodeSet where
  runs : List (Nat × Nat)
deriving DecidableEq

namespace CodeSet

def lastCode : Nat := 0x10ffff

def has (s : CodeSet) (n : Nat) : Bool := s.runs.any fun (a, b) => a ≤ n && n ≤ b

def contains (s : CodeSet) (c : Char) : Bool := s.has c.toNat

/-- A run and those that begin after it, joined where they overlap or touch. -/
def joinFrom (a b : Nat) : List (Nat × Nat) → List (Nat × Nat)
  | [] => [(a, b)]
  | (c, d) :: rs => if c ≤ b + 1 then joinFrom a (max b d) rs else (a, b) :: joinFrom c d rs

/-- Joins runs that are given in the order of their first code points. -/
def join : List (Nat × Nat) → List (Nat × Nat)
  | [] => []
  | (a, b) :: rs => joinFrom a b rs

def ofRuns (rs : List (Nat × Nat)) : CodeSet := ⟨join (rs.mergeSort fun r t => r.1 ≤ t.1)⟩

def ofCodes (ns : List Nat) : CodeSet := ofRuns (ns.map fun n => (n, n))

def empty : CodeSet := ⟨[]⟩

def range (a b : Nat) : CodeSet := ⟨[(a, b)]⟩

def single (c : Char) : CodeSet := range c.toNat c.toNat

def full : CodeSet := range 0 lastCode

def union (s t : CodeSet) : CodeSet :=
  ⟨join (List.merge s.runs t.runs fun r u => r.1 ≤ u.1)⟩

def unions (ss : List CodeSet) : CodeSet := ss.foldl union empty

/-- What lies between the runs from `start` on. -/
def gaps (start : Nat) : List (Nat × Nat) → List (Nat × Nat)
  | [] => if start ≤ lastCode then [(start, lastCode)] else []
  | (a, b) :: rs => if start < a then (start, a - 1) :: gaps (b + 1) rs else gaps (b + 1) rs

def compl (s : CodeSet) : CodeSet := ⟨gaps 0 s.runs⟩

def inter (s t : CodeSet) : CodeSet := (s.compl.union t.compl).compl

def diff (s t : CodeSet) : CodeSet := (s.compl.union t).compl

def symmDiff (s t : CodeSet) : CodeSet := (s.diff t).union (t.diff s)

/-- The runs whose lengths, each after the length of the gap before it, are given. -/
def ofLengths (start : Nat) : List Nat → List (Nat × Nat)
  | gap :: length :: r =>
    (start + gap, start + gap + length - 1) :: ofLengths (start + gap + length) r
  | _ => []

def read (s : String) : CodeSet := ⟨ofLengths 0 ((words s.toList).map Decimal.natOfDigits)⟩

def isEmpty (s : CodeSet) : Bool := s.runs.isEmpty

def isAscii (s : CodeSet) : Bool := s.runs.all fun (_, b) => b < 128

/-- The character of a set with no other. -/
def only? (s : CodeSet) : Option Char :=
  match s.runs with
  | [(a, b)] => if a = b then some (Char.ofNat a) else none
  | _ => none

end CodeSet

end PostalAddress.Text
