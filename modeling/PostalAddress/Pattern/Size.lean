import PostalAddress.Pattern.ByteRange
import PostalAddress.Pattern.Node
import Std.Data.TreeMap.Basic

/-!
# The size of patterns

The memory of the automaton over bytes that a node stands for, when it is read forward or backward.
A state takes 32 bytes, an edge of a state with several of them 8, and a choice 4 for each of its
alternatives. States of a set are shared when their edges are the same, as far as a table with a
fixed number of slots remembers them. A node fits when neither automaton takes more than
`Size.limit`; that a small one does shows already in the number of its parts.
-/

namespace PostalAddress

open Text (CodeSet)

/-- A number of states, and the memory of their edges and alternatives. -/
structure Size where
  states : Nat
  extra : Nat

namespace Size

def limit : Nat := 10 * 1024 * 1024

def memory (z : Size) : Nat := 32 * z.states + z.extra

def add (z : Size) (states extra : Nat) : Size := ⟨z.states + states, z.extra + extra⟩

def fits (z : Size) : Bool := z.memory ≤ limit

section Memo

/-- What the slots of a table remember: a key and the number of its state. -/
abbrev Memo (α : Type) := Std.TreeMap Nat (α × Nat)

def mix (h : UInt64) (n : Nat) : UInt64 := (h ^^^ n.toUInt64) * 1099511628211

def slot (slots : Nat) (key : List Nat) : Nat :=
  (key.foldl mix 14695981039346656037).toNat % slots

def Memo.find? {α : Type} [DecidableEq α] (m : Memo α) (slot : Nat) (key : α) : Option Nat :=
  match m[slot]? with
  | some (k, n) => if k = key then some n else none
  | none => none

end Memo

section Forward

/-- The first and the last byte of an edge, and the number of the state it leads to. -/
abbrev Edge := Nat × Nat × Nat

structure Shared where
  memo : Memo (List Edge)
  size : Size

/-- The number of the state with some edges. -/
def state (edges : List Edge) (sh : Shared) : Nat × Shared :=
  let slot := slot 10000 (edges.flatMap fun (a, b, n) => [a, b, n])
  match sh.memo.find? slot edges with
  | some n => (n, sh)
  | none =>
    let n := sh.size.states
    (n, ⟨sh.memo.insert slot (edges, n), sh.size.add 1 (8 * edges.length)⟩)

/-- A state that is still open: its finished edges and the bytes of its last one. -/
structure Frame where
  edges : List Edge
  last : ByteRange

def Frame.close (f : Frame) (target : Nat) : List Edge := f.edges ++ [(f.last.1, f.last.2, target)]

/-- Finishes the states of a path, the deepest first. -/
def finish (target : Nat) : List Frame → Shared → Nat × Shared
  | [], sh => (target, sh)
  | f :: fs, sh =>
    let (n, sh) := finish target fs sh
    state (f.close n) sh

/-- Adds a sequence to a path; what it does not share with the path is finished. -/
def extend (target : Nat) : List Frame → List ByteRange → Shared → List Frame × Shared
  | f :: fs, r :: rs, sh =>
    if f.last = r then
      let (fs, sh) := extend target fs rs sh
      (f :: fs, sh)
    else
      let (n, sh) := finish target fs sh
      (⟨f.close n, r⟩ :: rs.map (⟨[], ·⟩), sh)
  | _, rs, sh => (rs.map (⟨[], ·⟩), sh)

def forwardSet (s : CodeSet) (z : Size) : Size :=
  let target := z.states
  let (path, sh) := (ByteRange.sequences s).foldl
    (fun (path, sh) rs => extend target path rs sh) ([], ⟨∅, z.add 1 0⟩)
  (finish target path sh).2.size

end Forward

section Backward

/-- The state from which a range of bytes leads to another state, and the sizes so far. -/
def backwardRange (st : Nat × Memo (List Nat) × Size) (r : ByteRange) :
    Nat × Memo (List Nat) × Size :=
  let (target, memo, z) := st
  let key := [target, r.1, r.2]
  let slot := slot 1000 key
  match memo.find? slot key with
  | some n => (n, memo, z)
  | none => (z.states, memo.insert slot (key, z.states), z.add 1 0)

def backwardSet (s : CodeSet) (z : Size) : Size :=
  let target := z.states + 1
  let rss := ByteRange.sequences s
  (rss.foldl (fun (memo, z) rs => (rs.foldl backwardRange (target, memo, z)).2)
    ((∅ : Memo (List Nat)), z.add 2 (4 * rss.length))).2

end Backward

section Literals

/-- Cuts a list of texts at the empty ones, the last part first. An empty text before which there
are only empty ones counts once. -/
def chunks (ts : List (List Nat)) : List (List (List Nat)) :=
  ts.foldl (fun cs t =>
    match cs with
    | [] => [[t]]
    | active :: done =>
      if !t.isEmpty then (active ++ [t]) :: done
      else if cs.all List.isEmpty && !done.isEmpty then cs
      else [] :: cs) [[]]

/-- The texts that begin with a byte, without it. -/
def after (b : Nat) (ts : List (List Nat)) : List (List Nat) :=
  ts.filterMap fun
    | c :: r => if c = b then some r else none
    | [] => none

/-- The states of the tree of some texts, below the state at which all of them end. A choice at each
inner place leads to the ranges of next bytes between two ends of texts, and to those ends. -/
def tree : (fuel : Nat) → List (List Nat) → Size
  | 0, _ => ⟨0, 0⟩
  | fuel + 1, ts =>
    if ts.all List.isEmpty then ⟨0, 0⟩
    else
      let cs := chunks ts
      let inner := cs.filter (!·.isEmpty)
      let choice : Size := ⟨1, 4 * (inner.length + (cs.length - 1))⟩
      inner.foldl (fun z chunk =>
        let bytes := (chunk.filterMap List.head?).eraseDups
        let z := z.add 1 (if bytes.length = 1 then 0 else 8 * bytes.length)
        bytes.foldl (fun z b =>
          let sub := tree fuel (after b chunk)
          z.add sub.states sub.extra) z) choice

def literal? : Node → Option (List Nat)
  | .literal cs => some (cs.flatMap fun c => ByteRange.bytes c.toNat)
  | _ => none

def literals (backward : Bool) (ts : List (List Nat)) : Size :=
  let ts := if backward then ts.map List.reverse else ts
  (tree (ts.foldl (fun n t => max n t.length) 0 + 1) ts).add 1 0

end Literals

/-- Where a node stands in a chain of alternatives. -/
inductive Rank
  | alone
  | second
  | later
deriving DecidableEq

/-- The size with the states of the choice that the second alternative completes, when it fits. -/
def settle? (rank : Rank) (z : Size) : Option Size :=
  let z := match rank with
    | .alone => z
    | .second => z.add 2 8
    | .later => z.add 0 4
  if z.fits then some z else none

def times? (step : Size → Option Size) : Nat → Size → Option Size
  | 0, z => some z
  | n + 1, z =>
    match step z with
    | some z => times? step n z
    | none => none

def set (backward : Bool) (s : CodeSet) (z : Size) : Size :=
  if s.isAscii then z.add 2 (8 * s.runs.length)
  else if backward then backwardSet s z
  else forwardSet s z

/-- The size after a node, when it fits. -/
def after? (backward : Bool) : Rank → Node → Size → Option Size
  | k, .empty, z => settle? k (z.add 1 0)
  | k, .literal cs, z => settle? k (z.add (Text.byteLength cs) 0)
  | k, .set s, z => settle? k (set backward s z)
  | k, .look _, z => settle? k (z.add 1 0)
  | k, .group _ body, z =>
    if backward then (after? backward .alone body z).bind (settle? k)
    else (after? backward .alone body (z.add 1 0)).bind fun z => settle? k (z.add 1 0)
  | k, .seq a b, z =>
    (if backward then (after? backward .alone b z).bind (after? backward .alone a)
    else (after? backward .alone a z).bind (after? backward .alone b)).bind (settle? k)
  | .alone, .alt a b, z =>
    match (Node.alt a b).alternatives.mapM literal? with
    | some ts =>
      let sub := literals backward ts
      settle? .alone (z.add sub.states sub.extra)
    | none => (after? backward .alone a z).bind (after? backward .second b)
  | k, .alt a b, z => (after? backward k a z).bind (after? backward .later b)
  | k, .loop least most _ body, z =>
    let once := after? backward .alone body
    let whole : Option Size :=
      match least, most with
      | 0, some 1 => (once (z.add 1 8)).map fun z => z.add 1 0
      | n, some m =>
        if n = m then times? once n z
        else
          (if n = 0 then some (z.add 1 0) else times? once n z).bind fun z =>
            times? (fun z => once (z.add 1 8)) (m - n) (z.add 1 0)
      | 0, none =>
        if body.reads then once (z.add 1 8) else (once z).map fun z => z.add 3 16
      | n, none => (times? once n z).map fun z => z.add 1 8
    whole.bind (settle? k)

/-- What comes before a pattern that may begin anywhere, or one that may not. -/
def lead (anchored : Bool) : Size := if anchored then ⟨1, 0⟩ else ⟨3, 16⟩

def forward? (n : Node) : Option Size :=
  (after? false .alone n ((lead n.startsText).add 1 0)).bind fun z => settle? .alone (z.add 2 0)

def backward? (n : Node) : Option Size :=
  (after? true .alone n (lead n.endsText)).bind fun z => settle? .alone (z.add 1 0)

end Size

namespace Node

/-- The number of characters, of runs of characters and of other parts, each counted as often as it
is repeated. -/
def partCount : Node → Nat
  | .empty => 1
  | .literal cs => cs.length + 1
  | .set s => s.runs.length + 1
  | .look _ => 1
  | .group _ body => partCount body + 1
  | .seq a b => partCount a + partCount b
  | .alt a b => partCount a + partCount b + 1
  | .loop least most _ body => (most.getD least + 1) * (partCount body + 1)

/-- No part takes more memory: the largest are runs, of at most 21 sequences of four states with an
edge each. -/
def partLimit : Nat := 4096

/-- Whether both automata of a node keep within the limit. -/
def fits (n : Node) : Bool :=
  partLimit * n.partCount ≤ Size.limit ||
    ((Size.forward? n).isSome && (Size.backward? n).isSome)

end Node

end PostalAddress
