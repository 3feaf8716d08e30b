import PostalAddress.Text.Front

/-!
# Scanning a text

A `Scanner` is a place in a text: what follows it, and how many bytes precede it. `scan` takes a
match that begins at the place, `scanUntil` all that comes before the leftmost match; each gives
the text it passed over.
-/

namespace PostalAddress

structure Scanner where
  rest : List Char
  position : Nat
deriving DecidableEq

namespace Scanner

open Text

def ofText (t : List Char) : Scanner := ⟨t, 0⟩

def atEnd (s : Scanner) : Bool := s.rest.isEmpty

/-- Passes over the next `n` characters. -/
def advance (s : Scanner) (n : Nat) : List Char × Scanner :=
  let passed := s.rest.take n
  (passed, ⟨s.rest.drop n, s.position + byteLength passed⟩)

def scan (s : Scanner) (find : Finder) : List Char × Scanner :=
  match find s.rest with
  | some (0, n) => s.advance n
  | _ => ([], s)

def scanUntil (s : Scanner) (find : Finder) : List Char × Scanner :=
  match find s.rest with
  | some (i, _) => s.advance i
  | none => s.advance s.rest.length

end Scanner

end PostalAddress
