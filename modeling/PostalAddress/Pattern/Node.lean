import PostalAddress.Pattern.Look
import PostalAddress.Text.CodeSet

/-!
# Nodes

What a pattern means once its flags are applied, as a tree of `Node`s. Sequences and alternatives
are chains to the right. The trees are built by `ofSet`, `many`, `concat` and `choice`, which keep
them small: literals that follow each other are one, a choice between characters is a set, a
repetition of what reads nothing is no loop, and alternatives share what they begin with.
-/

namespace PostalAddress

open Text (CodeSet)

inductive Node
  | empty
  | literal (cs : List Char)
  | set (s : CodeSet)
  | look (l : Look)
  | group (index : Nat) (body : Node)
  | seq (first rest : Node)
  | alt (first rest : Node)
  | loop (least : Nat) (most : Option Nat) (greedy : Bool) (body : Node)
deriving DecidableEq

namespace Node

/-- Matches nothing at all. -/
def fail : Node := .set .empty

section Length

/-- The length of the shortest match, when no part is bound to fail. -/
def shortest? : Node → Option Nat
  | .empty => some 0
  | .literal cs => some cs.length
  | .set s => if s.isEmpty then none else some 1
  | .look _ => some 0
  | .group _ body => shortest? body
  | .seq a b => do some ((← shortest? a) + (← shortest? b))
  | .alt a b => do some (min (← shortest? a) (← shortest? b))
  | .loop least _ _ body => (shortest? body).map (least * ·)

/-- Every match reads a character. -/
def reads (n : Node) : Bool := n.shortest?.any (0 < ·)

/-- No match reads a character, and not because none of them can be found. -/
def readsNothing : Node → Bool
  | .empty => true
  | .literal cs => cs.isEmpty
  | .set _ => false
  | .look _ => true
  | .group _ body => readsNothing body
  | .seq a b => readsNothing a && readsNothing b
  | .alt a b => readsNothing a && readsNothing b
  | .loop _ most _ body => most = some 0 || (most.isSome && readsNothing body)

/-- Every match begins at the start of the text. -/
def startsText : Node → Bool
  | .look .textStart => true
  | .group _ body => startsText body
  | .seq a b => startsText a || (a.readsNothing && startsText b)
  | .alt a b => startsText a && startsText b
  | .loop least _ _ body => 0 < least && startsText body
  | _ => false

/-- Every match ends at the end of the text. -/
def endsText : Node → Bool
  | .look .textEnd => true
  | .group _ body => endsText body
  | .seq a b => endsText b || (b.readsNothing && endsText a)
  | .alt a b => endsText a && endsText b
  | .loop least _ _ body => 0 < least && endsText body
  | _ => false

end Length

section Chain

def parts : Node → List Node
  | .seq a b => a :: parts b
  | .empty => []
  | n => [n]

def alternatives : Node → List Node
  | .alt a b => a :: alternatives b
  | n => [n]

def ofParts : List Node → Node
  | [] => .empty
  | [n] => n
  | n :: ns => .seq n (ofParts ns)

def ofAlternatives : List Node → Node
  | [] => fail
  | [n] => n
  | n :: ns => .alt n (ofAlternatives ns)

def size : Node → Nat
  | .group _ body => size body + 1
  | .seq a b => size a + size b + 1
  | .alt a b => size a + size b + 1
  | .loop _ _ _ body => size body + 1
  | _ => 1

end Chain

section Build

/-- A set with one character is that character. -/
def ofSet (s : CodeSet) : Node :=
  match s.only? with
  | some c => .literal [c]
  | none => .set s

/-- A part before others, literals joined. -/
def consPart : Node → List Node → List Node
  | .literal cs, .literal ds :: ns => .literal (cs ++ ds) :: ns
  | n, ns => n :: ns

def concat (ns : List Node) : Node := ofParts ((ns.flatMap parts).foldr consPart [])

/-- What reads nothing is repeated at most once. -/
def many (least : Nat) (most : Option Nat) (greedy : Bool) (body : Node) : Node :=
  let (least, most) :=
    if body.readsNothing then (min least 1, some (min (most.getD 1) 1)) else (least, most)
  if most = some 0 then .empty
  else if least = 1 && most = some 1 then body
  else .loop least most greedy body

def onlyChar? : Node → Option Char
  | .literal [c] => some c
  | _ => none

def set? : Node → Option CodeSet
  | .set s => some s
  | _ => none

def commonLength : List Node → List Node → Nat
  | a :: r, b :: t => if a = b then commonLength r t + 1 else 0
  | _, _ => 0

/-- The number of parts that all sequences in `ps` and `p` begin with. -/
def sharedLength (p : List Node) (ps : List (List Node)) : Nat :=
  ps.foldl (fun n q => min n (commonLength p q)) p.length

/-- The choice between nodes that are no choices. Every round of `fuel` takes a part from the first
of them. -/
def choiceOf : (fuel : Nat) → List Node → Node
  | 0, ns => ofAlternatives ns
  | fuel + 1, ns =>
    match ns with
    | [] => fail
    | [n] => n
    | first :: _ =>
      match ns.mapM onlyChar?, ns.mapM set? with
      | some cs, _ => ofSet (.ofCodes (cs.map Char.toNat))
      | none, some ss => ofSet (.unions ss)
      | none, none =>
        let pss := ns.map parts
        let n := sharedLength first.parts pss
        if n = 0 || pss.any (·.length < 2) then ofAlternatives ns
        else
          let ends := (pss.map fun ps => concat (ps.drop n)).flatMap alternatives
          concat (first.parts.take n ++ [choiceOf fuel ends])

def choice : List Node → Node
  | [n] => n
  | ns =>
    let ns := ns.flatMap alternatives
    choiceOf ((ns.head?.map size).getD 0) ns

end Build

end Node

end PostalAddress
