import PostalAddress.Pattern.Look
import PostalAddress.Text.Property

/-!
# Written patterns

The tree of a pattern as it is written, before its flags are applied. Sequences, alternatives and
the items of a class are chains to the right. `Written.depth` counts how deep a pattern is nested.
-/

namespace PostalAddress

open Text (CodeSet)

inductive PatternFlag
  | ignoreCase
  | multiLine
  | dotAll
  | returns
  | swapGreed
  | unicode
  | spaced
deriving DecidableEq

/-- Flags in the order in which they are written, set or cleared. -/
abbrev FlagChanges := List (PatternFlag × Bool)

/-- A character; `byte` marks one that is written `\xHH`. -/
structure WrittenChar where
  char : Char
  byte : Bool := false
deriving DecidableEq

inductive Assertion
  | lineStart
  | lineEnd
  | textStart
  | textEnd
  | boundary
  | noBoundary
  | wordStart
  | wordEnd
  | beforeWord
  | afterWord
deriving DecidableEq

/-- Classes with a name: `\d`, `\s` and `\w`, the properties `\p`, and `[:name:]`. -/
inductive NamedClass
  | digit
  | space
  | word
  | property (s : CodeSet)
  | ascii (s : CodeSet)
deriving DecidableEq

inductive SetOperation
  | inter
  | diff
  | symmDiff
deriving DecidableEq

/-- What stands between the brackets of a class. -/
inductive WrittenSet
  | empty
  | char (c : WrittenChar)
  | range (first last : WrittenChar)
  | named (negated : Bool) (c : NamedClass)
  | nested (negated : Bool) (body : WrittenSet)
  | items (first rest : WrittenSet)
  | operation (op : SetOperation) (left right : WrittenSet)
deriving DecidableEq

/-- The start of a group: the number it is kept under, or the flags it changes. -/
inductive GroupKind
  | capture (index : Nat)
  | plain (changes : FlagChanges)
deriving DecidableEq

inductive Written
  | empty
  | flags (changes : FlagChanges)
  | char (c : WrittenChar)
  | dot
  | assertion (a : Assertion)
  | named (negated : Bool) (c : NamedClass)
  | set (negated : Bool) (body : WrittenSet)
  | many (least : Nat) (most : Option Nat) (greedy : Bool) (body : Written)
  | group (kind : GroupKind) (body : Written)
  | seq (first rest : Written)
  | alt (first rest : Written)
deriving DecidableEq

namespace WrittenSet

/-- The items of a chain, the last of them first. -/
def ofItems : List WrittenSet → WrittenSet
  | [] => .empty
  | last :: before => before.foldl (fun rest item => .items item rest) last

/-- `chained` tells that a chain of items goes on. -/
def depthFrom (chained : Bool) : WrittenSet → Nat
  | .items a b => (if chained then 0 else 1) + max (depthFrom false a) (depthFrom true b)
  | .operation _ a b => 1 + max (depthFrom false a) (depthFrom false b)
  | .nested _ s => 1 + depthFrom false s
  | _ => 0

def depth : WrittenSet → Nat := depthFrom false

end WrittenSet

namespace Written

/-- The sequence of some parts, the last of them first. -/
def ofParts : List Written → Written
  | [] => .empty
  | last :: before => before.foldl (fun rest part => .seq part rest) last

/-- The choice between some alternatives, the last of them first. -/
def ofAlternatives : List Written → Written
  | [] => .empty
  | last :: before => before.foldl (fun rest part => .alt part rest) last

inductive Chain
  | seq
  | alt
deriving DecidableEq

/-- `chain` tells which chain goes on. -/
def depthFrom (chain : Option Chain) : Written → Nat
  | .seq a b =>
    (if chain = some .seq then 0 else 1) + max (depthFrom none a) (depthFrom (some .seq) b)
  | .alt a b =>
    (if chain = some .alt then 0 else 1) + max (depthFrom none a) (depthFrom (some .alt) b)
  | .many _ _ _ body => 1 + depthFrom none body
  | .group _ body => 1 + depthFrom none body
  | .set _ body => 1 + body.depth
  | _ => 0

def depth : Written → Nat := depthFrom none

end Written

end PostalAddress
