import PostalAddress.Text.Front
import PostalAddress.Text.LetterCase

/-!
# Cleaning rendered addresses

A layout leaves stray separators and repeated parts behind where fields are missing. `cleanOnce`
runs twelve edits in order, each followed by the removal of repeated lines and of repeated parts
of lines, and `cleanup` runs it until nothing changes, sixteen times at most.
-/

namespace PostalAddress.Cleanup

open Text

def isGap (c : Char) : Bool := c = ' ' || c = '\t'

def isTrailing (c : Char) : Bool := c = '\x7d' || c = ',' || isBlank c

def isLeading (c : Char) : Bool := c = ',' || isBlank c

def dropHyphen : List Char → List Char
  | '-' :: ' ' :: r => r
  | t => t

/-- A comma, white space and a comma. -/
def commaPair : Front
  | ',' :: r => (Front.spaced [','] r).map (· + 1)
  | _ => none

/-- Gaps on both sides of a comma. -/
def gapCommaGap : Front := fun t =>
  let before := t.takeWhile isGap
  match t.drop before.length with
  | ',' :: r =>
    let after := r.takeWhile isGap
    if before.isEmpty || after.isEmpty then none else some (before.length + 1 + after.length)
  | _ => none

/-- At least `least` characters that pass. -/
def atLeast (least : Nat) (p : Char → Bool) : Front := fun t =>
  let n := (t.takeWhile p).length
  if least ≤ n then some n else none

def gapNewline : Front
  | c :: '\n' :: _ => if isGap c then some 2 else none
  | _ => none

def newlineGaps : Front
  | '\n' :: r =>
    let n := (r.takeWhile isGap).length
    if n = 0 then none else some (n + 1)
  | _ => none

def edits : List (List Char → List Char) :=
  [dropTrailing isTrailing,
   List.dropWhile isLeading,
   dropHyphen,
   commaPair.replaceAll [',', ' '],
   gapCommaGap.replaceAll [',', ' '],
   (atLeast 2 isGap).replaceAll [' '],
   gapNewline.replaceAll ['\n'],
   (Front.exactly ['\n', ',']).replaceAll ['\n'],
   (atLeast 2 (· = ',')).replaceAll [','],
   (Front.exactly [',', '\n']).replaceAll ['\n'],
   newlineGaps.replaceAll ['\n'],
   (atLeast 2 (· = '\n')).replaceAll ['\n']]

/-- The one part that may be repeated, since a city and a state share it. -/
def isExempt (t : List Char) : Bool := toLower t = "new york".toList

/-- Trims the parts, changes them by `f` and drops those that came before. -/
def distinct (f : List Char → List Char) (seen : List (List Char)) :
    List (List Char) → List (List Char)
  | [] => []
  | p :: ps =>
    let p := trim p
    if isExempt p then p :: distinct f seen ps
    else if seen.contains p then distinct f seen ps
    else f p :: distinct f (p :: seen) ps

def separator : List Char := [',', ' ']

def dedupeLine (line : List Char) : List Char :=
  separator.intercalate (distinct id [] ((Front.exactly separator).split line))

def dedupe (t : List Char) : List Char :=
  ['\n'].intercalate (distinct dedupeLine [] (splitOn '\n' t))

def cleanOnce (t : List Char) : List Char :=
  trim (edits.foldl (fun t edit => dedupe (edit t)) t)

/-- Cleans until nothing changes, `fuel` more times at most. -/
def settle : (fuel : Nat) → List Char → List Char
  | 0, t => t
  | fuel + 1, t =>
    let next := cleanOnce t
    if next = t then t else settle fuel next

def passes : Nat := 16

end PostalAddress.Cleanup

namespace PostalAddress

def cleanup (s : String) : String :=
  String.ofList (Cleanup.settle (Cleanup.passes - 1) (Cleanup.cleanOnce s.toList))

end PostalAddress
