import PostalAddress.Pattern.Node
import PostalAddress.Pattern.Written

/-!
# The meaning of written patterns

`Written.node?` applies the flags of a written pattern. A change of flags holds up to the end of its
group. Without `unicode` a pattern keeps to ASCII, and what would read other characters is refused.
-/

namespace PostalAddress

open Text (CodeSet)

structure PatternFlags where
  ignoreCase : Bool := false
  multiLine : Bool := false
  dotAll : Bool := false
  returns : Bool := false
  swapGreed : Bool := false
  unicode : Bool := true

namespace PatternFlags

def set (f : PatternFlags) : PatternFlag × Bool → PatternFlags
  | (.ignoreCase, on) => { f with ignoreCase := on }
  | (.multiLine, on) => { f with multiLine := on }
  | (.dotAll, on) => { f with dotAll := on }
  | (.returns, on) => { f with returns := on }
  | (.swapGreed, on) => { f with swapGreed := on }
  | (.unicode, on) => { f with unicode := on }
  | (.spaced, _) => f

def change (f : PatternFlags) (changes : FlagChanges) : PatternFlags := changes.foldl set f

/-- The ASCII letters of the other case for those of `s`, which begin at `a`; those of the other
case begin at `b`. -/
def otherCase (s : CodeSet) (a b : Nat) : CodeSet :=
  .ofCodes ((List.range 26).filterMap fun n => if s.has (a + n) then some (b + n) else none)

def asciiCaseless (s : CodeSet) : CodeSet := .unions [s, otherCase s 65 97, otherCase s 97 65]

/-- Adds what differs in case only, when case is ignored. -/
def fold (f : PatternFlags) (s : CodeSet) : CodeSet :=
  if f.ignoreCase then if f.unicode then s.caseless else asciiCaseless s else s

end PatternFlags

namespace NamedClass

/-- The set of a class under its flags, before it is negated. -/
def members (f : PatternFlags) : NamedClass → CodeSet
  | .digit => if f.unicode then Text.decimalDigits else .range 48 57
  | .space => if f.unicode then Text.Listed.whiteSpace else .ofRuns [(9, 13), (32, 32)]
  | .word =>
    if f.unicode then Text.wordCharacters
    else .ofRuns [(48, 57), (65, 90), (95, 95), (97, 122)]
  | .property s => f.fold s
  | .ascii s => f.fold s

def set? (f : PatternFlags) (negated : Bool) (c : NamedClass) : Option CodeSet :=
  let s := c.members f
  let s := if negated then s.compl else s
  match c with
  | .property _ => if f.unicode then some s else none
  | _ => if f.unicode || s.isAscii then some s else none

end NamedClass

namespace WrittenChar

/-- The character, unless it is a byte that is no character by itself. -/
def char? (f : PatternFlags) (c : WrittenChar) : Option Char :=
  if c.byte && !f.unicode && !Text.isAscii c.char then none else some c.char

/-- The code point as a member of a class. -/
def code? (f : PatternFlags) (c : WrittenChar) : Option Nat :=
  if f.unicode || Text.isAscii c.char then some c.char.toNat else none

end WrittenChar

namespace SetOperation

def apply : SetOperation → CodeSet → CodeSet → CodeSet
  | .inter => .inter
  | .diff => .diff
  | .symmDiff => .symmDiff

end SetOperation

namespace WrittenSet

/-- Case is folded before a class is negated. -/
def close? (f : PatternFlags) (negated : Bool) (s : CodeSet) : Option CodeSet :=
  let s := if negated then (f.fold s).compl else f.fold s
  if f.unicode || s.isAscii then some s else none

def members? (f : PatternFlags) : WrittenSet → Option CodeSet
  | .empty => some .empty
  | .char c => (c.code? f).map fun n => .range n n
  | .range a b => do some (.range (← a.code? f) (← b.code? f))
  | .named negated c => c.set? f negated
  | .nested negated s => (members? f s).bind (close? f negated)
  | .items a b => do some ((← members? f a).union (← members? f b))
  | .operation op a b => do
    some (op.apply (f.fold (← members? f a)) (f.fold (← members? f b)))

end WrittenSet

namespace Assertion

def look (f : PatternFlags) : Assertion → Look
  | .lineStart => if f.multiLine then .lineStart f.returns else .textStart
  | .lineEnd => if f.multiLine then .lineEnd f.returns else .textEnd
  | .textStart => .textStart
  | .textEnd => .textEnd
  | .boundary => .boundary f.unicode
  | .noBoundary => .noBoundary f.unicode
  | .wordStart => .wordStart f.unicode
  | .wordEnd => .wordEnd f.unicode
  | .beforeWord => .beforeWord f.unicode
  | .afterWord => .afterWord f.unicode

end Assertion

namespace Written

def charNode (f : PatternFlags) (c : Char) : Node :=
  if f.ignoreCase && (f.unicode || Text.isAscii c) then .ofSet (f.fold (.single c))
  else .literal [c]

def dotSet? (f : PatternFlags) : Option CodeSet :=
  if !f.unicode then none
  else if f.dotAll then some .full
  else if f.returns then some (CodeSet.ofCodes [10, 13]).compl
  else some (CodeSet.range 10 10).compl

/-- The alternatives of a pattern, each as its parts, and the flags in force after it. -/
def branches? : Written → PatternFlags → Option (List (List Node) × PatternFlags)
  | .empty, f => some ([[]], f)
  | .flags changes, f => some ([[]], f.change changes)
  | .char c, f => (c.char? f).map fun c => ([[charNode f c]], f)
  | .dot, f => (dotSet? f).map fun s => ([[.ofSet s]], f)
  | .assertion a, f => some ([[.look (a.look f)]], f)
  | .named negated c, f => (c.set? f negated).map fun s => ([[.ofSet s]], f)
  | .set negated body, f =>
    ((body.members? f).bind (WrittenSet.close? f negated)).map fun s => ([[.ofSet s]], f)
  | .many least most greedy body, f => do
    let (bs, f) ← branches? body f
    some ([[.many least most (greedy != f.swapGreed) (.choice (bs.map .concat))]], f)
  | .group (.capture index) body, f => do
    let (bs, _) ← branches? body f
    some ([[.group index (.choice (bs.map .concat))]], f)
  | .group (.plain changes) body, f => do
    let (bs, _) ← branches? body (f.change changes)
    some ([[.choice (bs.map .concat)]], f)
  | .seq a b, f => do
    let (as, f) ← branches? a f
    let (bs, f) ← branches? b f
    some (as.flatMap fun x => bs.map (x ++ ·), f)
  | .alt a b, f => do
    let (as, f) ← branches? a f
    let (bs, f) ← branches? b f
    some (as ++ bs, f)

def node? (w : Written) : Option Node :=
  (branches? w {}).map fun (bs, _) => .choice (bs.map .concat)

end Written

end PostalAddress
