/-!
# White space and the cutting of texts

Texts are worked on as lists of characters. `isBlank` is the Unicode property `White_Space`;
`trim` removes it at both ends. `splitOn` cuts at every occurrence of one character and
`List.intercalate` undoes it, `splitOnce` cuts at the first, and `words` keeps the runs of other
characters. `byteLength` is the size of a text in UTF-8.
-/

namespace PostalAddress.Text

def isBlank (c : Char) : Bool :=
  let n := c.toNat
  (9 ≤ n && n ≤ 13) || n == 32 || n == 0x85 || n == 0xA0 || n == 0x1680 ||
    (0x2000 ≤ n && n ≤ 0x200A) || n == 0x2028 || n == 0x2029 || n == 0x202F || n == 0x205F ||
    n == 0x3000

def dropBlanks (t : List Char) : List Char := t.dropWhile isBlank

def dropTrailing (p : Char → Bool) (t : List Char) : List Char :=
  (t.reverse.dropWhile p).reverse

def trim (t : List Char) : List Char := dropTrailing isBlank (dropBlanks t)

def consHead {α : Type} (a : α) : List (List α) → List (List α)
  | [] => [[a]]
  | p :: ps => (a :: p) :: ps

def splitOn (sep : Char) : List Char → List (List Char)
  | [] => [[]]
  | c :: r => if c = sep then [] :: splitOn sep r else consHead c (splitOn sep r)

/-- The parts before and after the first `sep`. -/
def splitOnce (sep : Char) : List Char → Option (List Char × List Char)
  | [] => none
  | c :: r =>
    if c = sep then some ([], r) else (splitOnce sep r).map fun (a, b) => (c :: a, b)

def words (t : List Char) : List (List Char) :=
  (go t).filter (!·.isEmpty)
where
  go : List Char → List (List Char)
    | [] => [[]]
    | c :: r => if isBlank c then [] :: go r else consHead c (go r)

def occursIn (part : List Char) : List Char → Bool
  | [] => part.isEmpty
  | c :: r => part.isPrefixOf (c :: r) || occursIn part r

def byteLength : List Char → Nat
  | [] => 0
  | c :: r => c.utf8Size + byteLength r

/-- What is left after `n` bytes, when a character ends there. -/
def dropBytes : Nat → List Char → Option (List Char)
  | 0, t => some t
  | _ + 1, [] => none
  | n + 1, c :: r => if c.utf8Size ≤ n + 1 then dropBytes (n + 1 - c.utf8Size) r else none

/-- The first `n` bytes, when a character ends there. -/
def takeBytes : Nat → List Char → Option (List Char)
  | 0, _ => some []
  | _ + 1, [] => none
  | n + 1, c :: r =>
    if c.utf8Size ≤ n + 1 then (takeBytes (n + 1 - c.utf8Size) r).map (c :: ·) else none

/-- The bytes from `start` up to `stop`, when characters begin and end there. -/
def sliceBytes (start stop : Nat) (t : List Char) : Option (List Char) :=
  if start ≤ stop then (dropBytes start t).bind (takeBytes (stop - start)) else none

end PostalAddress.Text
