import PostalAddress.Text.CaseTable
import PostalAddress.Text.CharClass

/-!
# Letter case

Upper and lower case of texts by the full mappings of the Unicode standard: the upper case of a
character may be a longer text, and a sigma at the end of a word has a lower case of its own.
`fold` gives two characters the same image when they differ in case only, and `CodeSet.caseless`
adds to a set all that differ from a member in case only.
-/

namespace PostalAddress.Text

def mapRow (rows : List CaseRow) (c : Char) : Char :=
  match rows.find? fun (first, last, step, _) =>
      first ≤ c.toNat && c.toNat ≤ last && (c.toNat - first) % step == 0 with
  | some (first, _, _, image) => Char.ofNat (image + (c.toNat - first))
  | none => c

def upperChar (c : Char) : Char := if isAscii c then c.toUpper else mapRow upperRows c

def lowerChar (c : Char) : Char := if isAscii c then c.toLower else mapRow lowerRows c

def upperExpansion (c : Char) : List Char :=
  if isAscii c then [c.toUpper]
  else
    match upperExpansions.lookup c.toNat with
    | some ns => ns.map Char.ofNat
    | none => [mapRow upperRows c]

def toUpper (t : List Char) : List Char := t.flatMap upperExpansion

/-- The dotted capital I keeps its dot as a mark of its own. -/
def lowerExpansion (c : Char) : List Char :=
  if c.toNat = 0x130 then ['i', '\u0307'] else [lowerChar c]

/-- The first character that matters for case has case. -/
def meetsCased (t : List Char) : Bool :=
  match t.dropWhile isCaseIgnorable with
  | [] => false
  | c :: _ => isCased c

def toLower (t : List Char) : List Char :=
  go [] t
where
  /-- The first argument is what has been read, last character first. -/
  go : List Char → List Char → List Char
    | _, [] => []
    | before, c :: r =>
      (if c = 'Σ' then [if meetsCased before && !meetsCased r then 'ς' else 'σ']
       else lowerExpansion c) ++ go (c :: before) r

/-- One image for the characters that differ in case only. -/
def fold (c : Char) : Char := if isAscii c then c.toLower else mapRow foldRows c

/-- The rest of `t` after `lead`, case aside. -/
def dropFolded? : (lead t : List Char) → Option (List Char)
  | [], t => some t
  | _ :: _, [] => none
  | p :: ps, c :: r => if fold p = fold c then dropFolded? ps r else none

def rowCodes (row : CaseRow) : List Nat :=
  let (first, last, step, _) := row
  (List.range ((last - first) / step + 1)).map (first + step * ·)

/-- The code points that fold to another one, each with its image. -/
def foldPairs : List (Nat × Nat) :=
  foldRows.flatMap fun row => (rowCodes row).map fun n => (n, row.2.2.2 + (n - row.1))

/-- Adds what differs from a member in case only. -/
def CodeSet.caseless (s : CodeSet) : CodeSet :=
  let images := s.union (.ofCodes (foldPairs.filterMap fun (n, m) =>
    if s.has n then some m else none))
  images.union (.ofCodes (foldPairs.filterMap fun (n, m) =>
    if images.has m then some n else none))

section Changes

def changesWhenLowered : CodeSet :=
  (CodeSet.range 0x41 0x5a).union (.ofCodes (lowerRows.flatMap rowCodes))

def changesWhenUppered : CodeSet :=
  .unions [.range 0x61 0x7a, .ofCodes (upperRows.flatMap rowCodes),
    .ofCodes (upperExpansions.map (·.1))]

/-- Georgian has no title case, and four digraphs have one beside their upper case. -/
def changesWhenTitled : CodeSet :=
  (changesWhenUppered.union (.ofCodes [0x1c4, 0x1c7, 0x1ca, 0x1f1])).diff
    ((Category.among ["Lt"]).union (.range 0x10d0 0x10ff))

def changesWhenMapped : CodeSet :=
  .unions [changesWhenLowered, changesWhenUppered, changesWhenTitled]

/-- The characters that fold to a longer text. -/
def foldExpansions : CodeSet :=
  .ofRuns [(0xdf, 0xdf), (0x130, 0x130), (0x149, 0x149), (0x587, 0x587), (0x1e9a, 0x1e9a),
    (0x1f80, 0x1f87), (0x1f90, 0x1f97), (0x1fa0, 0x1fa7), (0x1fb2, 0x1fb4), (0x1fb7, 0x1fb7),
    (0x1fc2, 0x1fc4), (0x1fc7, 0x1fc7), (0x1ff2, 0x1ff4), (0x1ff7, 0x1ff7), (0xfb00, 0xfb04),
    (0xfb06, 0xfb06), (0xfb13, 0xfb17)]

/-- Three Greek letters fold to others only when they are not taken apart first. -/
def changesWhenFolded : CodeSet :=
  ((CodeSet.ofCodes (foldPairs.map (·.1))).union foldExpansions).diff
    (.ofCodes [0x1fbe, 0x1fd3, 0x1fe3])

end Changes

end PostalAddress.Text

namespace PostalAddress

def upper (s : String) : String := String.ofList (Text.toUpper s.toList)

def lower (s : String) : String := String.ofList (Text.toLower s.toList)

end PostalAddress
