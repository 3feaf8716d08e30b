import PostalAddress.Pattern.Program
import Std.Data.TreeSet.Basic

/-!
# Search

A program runs in threads, each at a step and a place. The first thread goes on until it fails;
then the next one does. A split puts its second target in front of the threads that wait. No split
is taken twice at one place in a text: what it led to has failed already, or is being tried. So
loops end, and the threads come in the order in which the pattern prefers them.
-/

namespace PostalAddress

/-- Where groups begin and end, the latest first: group `n` begins at slot `2 * n` and ends at the
slot after it. -/
abbrev Slots := List (Nat × Nat)

structure Thread where
  step : Nat
  place : Place
  slots : Slots

namespace Thread

def goto (t : Thread) (step : Nat) : Thread := { t with step := step }

def next (t : Thread) : Thread := t.goto (t.step + 1)

/-- The thread after the character at its place, when `p` holds of it. -/
def read? (t : Thread) (p : Char → Bool) : Option Thread :=
  match t.place.rest with
  | [] => none
  | c :: r =>
    if p c then some ⟨t.step + 1, ⟨some c, r, t.place.offset + 1⟩, t.slots⟩ else none

def save (t : Thread) (slot : Nat) : Thread := { t with slots := (slot, t.place.offset) :: t.slots }

end Thread

/-- The splits taken, as numbers of a step and a place. -/
abbrev Taken := Std.TreeSet Nat

namespace Program

/-- Runs the threads in their order. Gives the first that comes to its end, and the splits taken. -/
def run (p : Program) (limit : Nat) : (fuel : Nat) → Taken → List Thread → Option Thread × Taken
  | 0, taken, _ => (none, taken)
  | _, taken, [] => (none, taken)
  | fuel + 1, taken, t :: ts =>
    match p.getD t.step .done with
    | .char c =>
      match t.read? (· = c) with
      | some u => run p limit fuel taken (u :: ts)
      | none => run p limit fuel taken ts
    | .set s =>
      match t.read? s.contains with
      | some u => run p limit fuel taken (u :: ts)
      | none => run p limit fuel taken ts
    | .look l => run p limit fuel taken (if l.holds t.place then t.next :: ts else ts)
    | .save slot => run p limit fuel taken ((t.save slot).next :: ts)
    | .jump n => run p limit fuel taken (t.goto n :: ts)
    | .split a b =>
      let key := t.step * limit + t.place.offset
      if taken.contains key then run p limit fuel taken ts
      else run p limit fuel (taken.insert key) (t.goto a :: t.goto b :: ts)
    | .done => (some t, taken)

/-- Every split is taken once at every place, and between two splits the numbers of steps grow. -/
def fuel (p : Program) (length : Nat) : Nat := 2 * (p.size + 1) * (p.size + 1) * (length + 1) + 1

/-- The thread of the match that begins at a place of a text, and the splits taken. -/
def matchAt (p : Program) (length : Nat) (taken : Taken) (place : Place) : Option Thread × Taken :=
  p.run (length + 1) (p.fuel length) taken [⟨0, place, []⟩]

/-- The leftmost match from a place on: its start, its end and its groups. What has failed after one
start is not tried after the next. -/
def findFrom (p : Program) (length : Nat) (taken : Taken) (before : Option Char) (offset : Nat) :
    List Char → Option (Nat × Nat × Slots)
  | [] =>
    (p.matchAt length taken ⟨before, [], offset⟩).1.map fun t => (offset, t.place.offset, t.slots)
  | c :: r =>
    match p.matchAt length taken ⟨before, c :: r, offset⟩ with
    | (some t, _) => some (offset, t.place.offset, t.slots)
    | (none, taken) => findFrom p length taken (some c) (offset + 1) r

def find? (p : Program) (t : List Char) : Option (Nat × Nat × Slots) :=
  p.findFrom t.length ∅ none 0 t

end Program

end PostalAddress
