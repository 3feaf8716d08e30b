import PostalAddress.Text.Blank

/-!
# Matches at the front of a text

A `Front` says how long its match at the front of a text is, if there is one. From it come the
leftmost match (`find?`), the replacement of every match (`replaceAll`) and the parts between the
matches (`split`); all of them take matches from left to right without overlap. `exactly x` matches
the characters `x`, and `spaced x` as much white space as can stand before them as well.
-/

namespace PostalAddress.Text

abbrev Front := List Char → Option Nat

/-- Number of characters before a match, and length of the match. -/
abbrev Finder := List Char → Option (Nat × Nat)

namespace Front

def find? (f : Front) : Finder
  | [] => (f []).map fun n => (0, n)
  | c :: r =>
    match f (c :: r) with
    | some n => some (0, n)
    | none => (find? f r).map fun (i, n) => (i + 1, n)

/-- Empty matches are left alone. -/
def replaceAll (f : Front) (new : List Char) (t : List Char) : List Char :=
  go 0 t
where
  /-- The first argument counts the characters still inside a match. -/
  go : Nat → List Char → List Char
    | _, [] => []
    | k + 1, _ :: r => go k r
    | 0, c :: r =>
      match f (c :: r) with
      | some (n + 1) => new ++ go n r
      | _ => c :: go 0 r

/-- Empty matches do not split. -/
def split (f : Front) (t : List Char) : List (List Char) :=
  go 0 t
where
  /-- The first argument counts the characters still inside a match. -/
  go : Nat → List Char → List (List Char)
    | _, [] => [[]]
    | k + 1, _ :: r => go k r
    | 0, c :: r =>
      match f (c :: r) with
      | some (n + 1) => [] :: go n r
      | _ => consHead c (go 0 r)

def exactly (x : List Char) : Front := fun t =>
  if x.isPrefixOf t then some x.length else none

def run (p : Char → Bool) : Front := fun t => some (t.takeWhile p).length

def blanks : Front := run isBlank

def spaced (x : List Char) : Front
  | [] => exactly x []
  | c :: r =>
    if isBlank c then
      match spaced x r with
      | some n => some (n + 1)
      | none => exactly x (c :: r)
    else exactly x (c :: r)

/-- A match of `f` and then one of `g`. -/
def andThen (f g : Front) : Front := fun t =>
  (f t).bind fun n => (g (t.drop n)).map (n + ·)

end Front

end PostalAddress.Text
