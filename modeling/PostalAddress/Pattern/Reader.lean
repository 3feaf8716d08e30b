import PostalAddress.Pattern.Written

/-!
# Reading patterns

`Written.read?` reads the tree of a pattern and the numbers of its named groups, or nothing when the
pattern is malformed. In spaced parts of a pattern white space and comments between its signs mean
nothing. Look-around and references back to a group are not part of the form.
-/

namespace PostalAddress

/-- What is left to read, whether it is spaced, and the groups met so far. -/
structure PatternState where
  rest : List Char
  spaced : Bool
  groups : Nat
  names : List (String × Nat)

namespace PatternReader

open Text

abbrev State := PatternState

def metaChars : List Char := "\\.+*?()|[]\x7b\x7d^$#&-~".toList

def isMeta (c : Char) : Bool := metaChars.contains c

/-- The characters that stand for themselves after a backslash. -/
def isEscapable (c : Char) : Bool :=
  isMeta c || (isAscii c && !c.isAlphanum && c != '<' && c != '>')

section Spaces

/-- The run of characters that `p` holds of, and the rest. In spaced patterns white space and
comments, which go on to the end of the line, are dropped within and after the run. -/
def run (spaced : Bool) (p : Char → Bool) : (comment : Bool) → List Char → List Char × List Char
  | _, [] => ([], [])
  | true, c :: r => run spaced p (c != '\n') r
  | false, c :: r =>
    if spaced && isBlank c then run spaced p false r
    else if spaced && c = '#' then run spaced p true r
    else if p c then
      let (cs, r) := run spaced p false r
      (c :: cs, r)
    else ([], c :: r)

def skip (spaced : Bool) (t : List Char) : List Char := (run spaced (fun _ => false) false t).2

/-- The run up to the closing brace, and what follows the brace. -/
def braced? (spaced : Bool) (t : List Char) : Option (List Char × List Char) :=
  match run spaced (· != '\x7d') false t with
  | (cs, '\x7d' :: r) => some (cs, r)
  | _ => none

/-- The next character that means something. In spaced patterns the sign of one comment is passed
over, but not the comment. -/
def peek (spaced : Bool) (t : List Char) : Option Char :=
  if spaced then
    match t.dropWhile isBlank with
    | '#' :: r => (r.dropWhile isBlank).head?
    | r => r.head?
  else t.head?

end Spaces

section Escape

/-- What a backslash can introduce. -/
inductive Escape
  | char (c : WrittenChar)
  | named (negated : Bool) (c : NamedClass)
  | assertion (a : Assertion)

def hexValue? (c : Char) : Option Nat :=
  if c.isDigit then some (c.toNat - 48)
  else if 'a' ≤ c && c ≤ 'f' then some (c.toNat - 87)
  else if 'A' ≤ c && c ≤ 'F' then some (c.toNat - 55)
  else none

def hexChar? (ds : List Char) : Option Char := do
  let vs ← ds.mapM hexValue?
  if vs.isEmpty then none
  let n := vs.foldl (fun n v => 16 * n + v) 0
  if n < 0xD800 || (0xDFFF < n && n < 0x110000) then some (Char.ofNat n) else none

def takeSpaced? (spaced : Bool) : (n : Nat) → List Char → Option (List Char × List Char)
  | 0, t => some ([], t)
  | _ + 1, [] => none
  | n + 1, c :: r => (takeSpaced? spaced n (skip spaced r)).map fun (cs, r) => (c :: cs, r)

def readHex? (spaced : Bool) (digits : Nat) (t : List Char) : Option (WrittenChar × List Char) :=
  match skip spaced t with
  | '\x7b' :: r => do
    let (ds, r) ← braced? spaced r
    let c ← hexChar? ds
    some (⟨c, false⟩, r)
  | t => do
    let (ds, r) ← takeSpaced? spaced digits t
    let c ← hexChar? ds
    some (⟨c, digits == 2⟩, r)

def readProperty? (spaced : Bool) (t : List Char) : Option (NamedClass × List Char) :=
  match skip spaced t with
  | '\x7b' :: r => do
    let (query, r) ← braced? spaced r
    let s ← Property.query? query
    some (.property s, r)
  | c :: r => (Property.query? [c]).map fun s => (.property s, r)
  | [] => none

def boundaries : List (String × Assertion) :=
  [("start", .wordStart), ("end", .wordEnd), ("start-half", .beforeWord),
   ("end-half", .afterWord)]

/-- A boundary of words with a side, such as `\b\x7bstart\x7d`; what else stands in braces is the
count of a repetition. -/
def readBoundary? (spaced : Bool) (t : List Char) : Option (Assertion × List Char) :=
  let isLetter := fun c : Char => c.isAlpha || c = '-'
  match t with
  | '\x7b' :: r =>
    match run spaced isLetter false r with
    | (_, []) => none
    | ([], _) => some (.boundary, t)
    | (name, '\x7d' :: r) => (boundaries.lookup (String.ofList name)).map (·, r)
    | _ => none
  | _ => some (.boundary, t)

def namedClass? : Char → Option NamedClass
  | 'd' => some .digit
  | 's' => some .space
  | 'w' => some .word
  | _ => none

/-- The characters that letters stand for after a backslash. -/
def controls : List (Char × Char) :=
  [('a', '\x07'), ('f', '\x0c'), ('t', '\t'), ('n', '\n'), ('r', '\r'), ('v', '\x0b')]

def assertions : List (Char × Assertion) :=
  [('A', .textStart), ('z', .textEnd), ('B', .noBoundary), ('<', .wordStart), ('>', .wordEnd)]

/-- The rest of an escape after its backslash. -/
def readEscape? (spaced : Bool) : List Char → Option (Escape × List Char)
  | [] => none
  | c :: r =>
    match c with
    | 'x' => (readHex? spaced 2 r).map fun (c, r) => (.char c, r)
    | 'u' => (readHex? spaced 4 r).map fun (c, r) => (.char c, r)
    | 'U' => (readHex? spaced 8 r).map fun (c, r) => (.char c, r)
    | 'p' => (readProperty? spaced r).map fun (p, r) => (.named false p, r)
    | 'P' => (readProperty? spaced r).map fun (p, r) => (.named true p, r)
    | 'b' => (readBoundary? spaced r).map fun (a, r) => (.assertion a, r)
    | _ =>
      match namedClass? c.toLower, controls.lookup c, assertions.lookup c with
      | some k, _, _ => some (.named c.isUpper k, r)
      | none, some d, _ => some (.char ⟨d, false⟩, r)
      | none, none, some a => some (.assertion a, r)
      | none, none, none => if isEscapable c then some (.char ⟨c, false⟩, r) else none

end Escape

section Class

/-- One character or one class inside brackets. -/
def readItem? (spaced : Bool) : List Char → Option (WrittenSet × List Char)
  | [] => none
  | '\\' :: r =>
    match readEscape? spaced r with
    | some (.char c, r) => some (.char c, r)
    | some (.named negated c, r) => some (.named negated c, r)
    | _ => none
  | c :: r => some (.char ⟨c, false⟩, r)

/-- A range, a character or a class inside brackets. -/
def readRange? (spaced : Bool) (t : List Char) : Option (WrittenSet × List Char) := do
  let (first, t) ← readItem? spaced t
  match skip spaced t with
  | [] => none
  | '-' :: r =>
    if peek spaced r = some ']' || peek spaced r = some '-' then some (first, '-' :: r)
    else
      let (second, t) ← readItem? spaced (skip spaced r)
      match first, second with
      | .char a, .char b => if a.char ≤ b.char then some (.range a b, t) else none
      | _, _ => none
  | t => some (first, t)

/-- The classes written `[:name:]`. -/
def asciiClasses : List (String × CodeSet) :=
  [("alnum", .ofRuns [(48, 57), (65, 90), (97, 122)]), ("alpha", .ofRuns [(65, 90), (97, 122)]),
   ("ascii", .range 0 127), ("blank", .ofCodes [9, 32]), ("cntrl", .ofRuns [(0, 31), (127, 127)]),
   ("digit", .range 48 57), ("graph", .range 33 126), ("lower", .range 97 122),
   ("print", .range 32 126), ("punct", .ofRuns [(33, 47), (58, 64), (91, 96), (123, 126)]),
   ("space", .ofRuns [(9, 13), (32, 32)]), ("upper", .range 65 90),
   ("word", .ofRuns [(48, 57), (65, 90), (95, 95), (97, 122)]),
   ("xdigit", .ofRuns [(48, 57), (65, 70), (97, 102)])]

/-- An ASCII class after its first bracket. -/
def readAscii? : List Char → Option (WrittenSet × List Char)
  | ':' :: r =>
    let (negated, r) := match r with
      | '^' :: r => (true, r)
      | r => (false, r)
    match splitOnce ':' r with
    | some (name, ']' :: r) =>
      (asciiClasses.lookup (String.ofList name)).map fun s => (.named negated (.ascii s), r)
    | _ => none
  | _ => none

/-- The start of a class after its bracket: whether it is negated, and its first items. Hyphens
stand for themselves there, and so does a closing bracket with none before it. -/
def openClass (spaced : Bool) (t : List Char) : Bool × List WrittenSet × List Char :=
  let (negated, t) := match skip spaced t with
    | '^' :: r => (true, skip spaced r)
    | t => (false, t)
  match run spaced (· = '-') false t with
  | ([], ']' :: r) => (negated, [.char ⟨']', false⟩], r)
  | (hyphens, r) => (negated, hyphens.map fun c => .char ⟨c, false⟩, r)

/-- The last operation of a class with its left side, and the items read since, the last first. -/
def settle (pending : Option (SetOperation × WrittenSet)) (items : List WrittenSet) : WrittenSet :=
  match pending with
  | some (op, left) => .operation op left (.ofItems items)
  | none => .ofItems items

/-- The rest of a class up to its closing bracket. -/
def readClass? (spaced : Bool) : (fuel : Nat) → (pending : Option (SetOperation × WrittenSet)) →
    (items : List WrittenSet) → List Char → Option (WrittenSet × List Char)
  | 0, _, _, _ => none
  | fuel + 1, pending, items, t =>
    let operate := fun op r => readClass? spaced fuel (some (op, settle pending items)) [] r
    match skip spaced t with
    | [] => none
    | ']' :: r => some (settle pending items, r)
    | '[' :: r =>
      match readAscii? r with
      | some (item, r) => readClass? spaced fuel pending (item :: items) r
      | none =>
        let (negated, first, r) := openClass spaced r
        match readClass? spaced fuel none first r with
        | some (body, r) => readClass? spaced fuel pending (.nested negated body :: items) r
        | none => none
    | '&' :: '&' :: r => operate .inter r
    | '-' :: '-' :: r => operate .diff r
    | '~' :: '~' :: r => operate .symmDiff r
    | t =>
      match readRange? spaced t with
      | some (item, r) => readClass? spaced fuel pending (item :: items) r
      | none => none

end Class

section Repetition

/-- How often, and the rest. -/
abbrev Count := Nat × Option Nat

def readNumber? (spaced : Bool) (t : List Char) : Option (Nat × List Char) :=
  match run spaced Char.isDigit false (t.dropWhile isBlank) with
  | ([], _) => none
  | (ds, r) =>
    let n := Decimal.natOfDigits ds
    if n < Nat.pow 2 32 then some (n, r.dropWhile isBlank) else none

/-- The count of a repetition after its opening brace. -/
def readCount? (spaced : Bool) (t : List Char) : Option (Count × List Char) := do
  let (least, t) ← readNumber? spaced (skip spaced t)
  match t with
  | '\x7d' :: r => some ((least, some least), skip spaced r)
  | ',' :: r =>
    match skip spaced r with
    | '\x7d' :: r => some ((least, none), skip spaced r)
    | t =>
      let (most, t) ← readNumber? spaced t
      match t with
      | '\x7d' :: r => if least ≤ most then some ((least, some most), skip spaced r) else none
      | _ => none
  | _ => none

/-- A repetition of `body`, lazy with a question mark after it. -/
def repetition (count : Count) (body : Written) : List Char → Written × List Char
  | '?' :: r => (.many count.1 count.2 false body, r)
  | r => (.many count.1 count.2 true body, r)

end Repetition

section Group

/-- The start of a group, or a change of flags. -/
inductive Opening
  | flags (changes : FlagChanges)
  | plain (changes : FlagChanges)
  | capture (name : Option String)

def flagLetters : List (Char × PatternFlag) :=
  [('i', .ignoreCase), ('m', .multiLine), ('s', .dotAll), ('R', .returns), ('U', .swapGreed),
   ('u', .unicode), ('x', .spaced)]

/-- Flags after `(?`; each may be set or cleared once, and one hyphen clears those after it. -/
def readFlags? (on : Bool) (seen : List Char) (changes : FlagChanges) :
    List Char → Option (Opening × List Char)
  | [] => none
  | ')' :: r =>
    if seen.isEmpty || seen.head? = some '-' then none else some (.flags changes.reverse, r)
  | ':' :: r => if seen.head? = some '-' then none else some (.plain changes.reverse, r)
  | c :: r =>
    if seen.contains c then none
    else if c = '-' then readFlags? false (c :: seen) changes r
    else
      match flagLetters.lookup c with
      | some f => readFlags? on (c :: seen) ((f, on) :: changes) r
      | none => none

/-- Whether a part is spaced after a change of flags. -/
def spacedAfter (changes : FlagChanges) (spaced : Bool) : Bool :=
  (changes.lookup .spaced).getD spaced

def isNameChar (first : Bool) (c : Char) : Bool :=
  c = '_' || isAlphabetic c ||
    (!first && (c = '.' || c = '[' || c = ']' || isAlphanumeric c))

/-- The name of a group up to `>`. -/
def readName? (t : List Char) : Option (String × List Char) :=
  match splitOnce '>' t with
  | some (c :: name, r) =>
    if isNameChar true c && name.all (isNameChar false) then some (String.ofList (c :: name), r)
    else none
  | _ => none

/-- The start of a group after its parenthesis. -/
def readOpening? (t : List Char) : Option (Opening × List Char) :=
  match t with
  | '?' :: '=' :: _ => none
  | '?' :: '!' :: _ => none
  | '?' :: '<' :: '=' :: _ => none
  | '?' :: '<' :: '!' :: _ => none
  | '?' :: 'P' :: '<' :: r => (readName? r).map fun (name, r) => (.capture (some name), r)
  | '?' :: '<' :: r => (readName? r).map fun (name, r) => (.capture (some name), r)
  | '?' :: r => readFlags? true [] [] r
  | t => some (.capture none, t)

end Group

/-- The alternatives read so far and the parts of the one at hand, both backwards. -/
structure Branches where
  finished : List Written
  parts : List Written

namespace Branches

def start : Branches := ⟨[], []⟩

def push (b : Branches) (w : Written) : Branches := { b with parts := w :: b.parts }

def finish (b : Branches) : Branches := ⟨.ofParts b.parts :: b.finished, []⟩

def written (b : Branches) : Written := .ofAlternatives b.finish.finished

end Branches

/-- The state in a group that is kept, when its name is new. -/
def capture? (st : State) (name : Option String) : Option State :=
  match name with
  | none => some { st with groups := st.groups + 1 }
  | some n =>
    if st.names.any (·.1 = n) then none
    else some { st with groups := st.groups + 1, names := st.names ++ [(n, st.groups + 1)] }

/-- Reads on up to the end of the group, or of the pattern when `nested` is false. -/
def readBranches? : (fuel : Nat) → (nested : Bool) → Branches → State → Option (Written × State)
  | 0, _, _, _ => none
  | fuel + 1, nested, b, st =>
    let repeated := fun (count : Count) (r : List Char) =>
      match b.parts with
      | [] => none
      | .flags _ :: _ => none
      | body :: before =>
        let (w, r) := repetition count body r
        readBranches? fuel nested { b with parts := w :: before } { st with rest := r }
    let add := fun (w : Written) (r : List Char) =>
      readBranches? fuel nested (b.push w) { st with rest := r }
    match skip st.spaced st.rest with
    | [] => if nested then none else some (b.written, { st with rest := [] })
    | c :: r =>
      match c with
      | ')' => if nested then some (b.written, { st with rest := r }) else none
      | '|' => readBranches? fuel nested b.finish { st with rest := r }
      | '*' => repeated (0, none) r
      | '+' => repeated (1, none) r
      | '?' => repeated (0, some 1) r
      | '\x7b' =>
        match readCount? st.spaced r with
        | some (count, r) => repeated count r
        | none => none
      | '(' =>
        match readOpening? (skip st.spaced r) with
        | none => none
        | some (.flags changes, r) =>
          readBranches? fuel nested (b.push (.flags changes))
            { st with rest := r, spaced := spacedAfter changes st.spaced }
        | some (.plain changes, r) =>
          match readBranches? fuel true .start
            { st with rest := r, spaced := spacedAfter changes st.spaced } with
          | some (w, inner) =>
            readBranches? fuel nested (b.push (.group (.plain changes) w))
              { inner with spaced := st.spaced }
          | none => none
        | some (.capture name, r) =>
          match capture? st name with
          | none => none
          | some kept =>
            match readBranches? fuel true .start { kept with rest := r } with
            | some (w, inner) =>
              readBranches? fuel nested (b.push (.group (.capture kept.groups) w))
                { inner with spaced := st.spaced }
            | none => none
      | '[' =>
        let (negated, first, r) := openClass st.spaced r
        match readClass? st.spaced (fuel + 1) none first r with
        | some (body, r) => add (.set negated body) r
        | none => none
      | '.' => add .dot r
      | '^' => add (.assertion .lineStart) r
      | '$' => add (.assertion .lineEnd) r
      | '\\' =>
        match readEscape? st.spaced r with
        | some (.char c, r) => add (.char c) r
        | some (.named negated k, r) => add (.named negated k) r
        | some (.assertion a, r) => add (.assertion a) r
        | none => none
      | _ => add (.char ⟨c, false⟩) r

end PatternReader

/-- The deepest nesting of a pattern. -/
def Written.depthLimit : Nat := 250

/-- The tree of a written pattern and the numbers of its named groups. -/
def Written.read? (t : List Char) : Option (Written × List (String × Nat)) :=
  match PatternReader.readBranches? (t.length + 1) false .start ⟨t, false, 0, []⟩ with
  | some (w, st) => if w.depth ≤ depthLimit then some (w, st.names) else none
  | none => none

end PostalAddress
