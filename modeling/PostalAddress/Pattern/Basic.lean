import PostalAddress.Pattern.Meaning
import PostalAddress.Pattern.Reader
import PostalAddress.Pattern.Replacement
import PostalAddress.Pattern.Search
import PostalAddress.Pattern.Size
import PostalAddress.Text.Front

/-!
# Patterns

A `Pattern` finds the leftmost match in a text, with its groups, and can put a replacement in its
place. A text that is malformed, means nothing or stands for too large an automaton is no pattern.
`escape` writes a text as the pattern that matches it literally.
-/

namespace PostalAddress

structure Pattern where
  program : Program
  names : List (String × Nat)

/-- A match: its start and its end as offsets, and its groups. -/
structure PatternMatch where
  start : Nat
  stop : Nat
  slots : Slots

namespace Pattern

def parse? (s : String) : Option Pattern := do
  let (written, names) ← Written.read? s.toList
  let node ← written.node?
  if node.fits then some ⟨node.program, names⟩ else none

def find? (p : Pattern) (t : List Char) : Option PatternMatch :=
  (p.program.find? t).map fun (start, stop, slots) => ⟨start, stop, slots⟩

/-- Number of characters before the leftmost match, and its length. -/
def finder (p : Pattern) : Text.Finder := fun t =>
  (p.find? t).map fun m => (m.start, m.stop - m.start)

def slice (t : List Char) (start stop : Nat) : List Char := (t.drop start).take (stop - start)

/-- The text of a group; group 0 is the match, and a group that took no part is empty. -/
def group (t : List Char) (m : PatternMatch) (n : Nat) : List Char :=
  if n = 0 then slice t m.start m.stop
  else
    match m.slots.lookup (2 * n), m.slots.lookup (2 * n + 1) with
    | some start, some stop => slice t start stop
    | _, _ => []

def namedGroup (p : Pattern) (t : List Char) (m : PatternMatch) (name : String) : List Char :=
  match p.names.lookup name with
  | some n => group t m n
  | none => []

/-- Puts the replacement in place of the leftmost match. -/
def replaceFirst (p : Pattern) (r : Replacement) (t : List Char) : List Char :=
  match p.find? t with
  | none => t
  | some m => t.take m.start ++ r.expand (group t m) (p.namedGroup t m) ++ t.drop m.stop

def escape (t : List Char) : List Char :=
  t.flatMap fun c => if PatternReader.isMeta c then ['\\', c] else [c]

end Pattern

end PostalAddress
