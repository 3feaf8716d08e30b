import PostalAddress.Text.CodeSet

/-!
# Tables of runs

A property of code points is written as the runs of code points that share a value, from code
point 0 on: the name of the value in letters, then the length of the run in digits, as in
`Cc32Zs1Po3`. The text is read once into the places where runs begin, which are searched by
halving.
-/

namespace PostalAddress.Text

/-- First code point and value of each run. -/
structure RunTable where
  starts : Array (Nat × List Char)

namespace RunTable

/-- Reads on in a run that begins at `start`, with its name so far, backwards, and its length. -/
def readRuns : List Char → (start : Nat) → (name : List Char) → (length : Nat) →
    List (Nat × List Char)
  | [], start, name, _ => [(start, name.reverse)]
  | c :: r, start, name, n =>
    if c.isDigit then readRuns r start name (10 * n + (c.toNat - 48))
    else if n = 0 then readRuns r start (c :: name) 0
    else (start, name.reverse) :: readRuns r (start + n) [c] 0

def read (s : String) : RunTable := ⟨(readRuns s.toList 0 [] 0).toArray⟩

/-- The last run from `lo` on and before `hi` that begins at `n` or before it. -/
def search (t : RunTable) (n : Nat) : (fuel lo hi : Nat) → List Char
  | 0, lo, _ => (t.starts.getD lo (0, [])).2
  | fuel + 1, lo, hi =>
    let mid := (lo + hi) / 2
    if (t.starts.getD mid (0, [])).1 ≤ n then t.search n fuel mid hi else t.search n fuel lo mid

def valueAt (t : RunTable) (c : Char) : List Char := t.search c.toNat 16 0 t.starts.size

/-- The runs, each with its value, of values that `p` holds of. -/
def runsWhere (p : List Char → Bool) : List (Nat × List Char) → List (Nat × Nat)
  | [] => []
  | [(a, v)] => if p v then [(a, CodeSet.lastCode)] else []
  | (a, v) :: (b, w) :: r =>
    if p v then (a, b - 1) :: runsWhere p ((b, w) :: r) else runsWhere p ((b, w) :: r)

/-- The code points with a value that `p` holds of. -/
def having (t : RunTable) (p : List Char → Bool) : CodeSet :=
  ⟨CodeSet.join (runsWhere p t.starts.toList)⟩

end RunTable

end PostalAddress.Text
