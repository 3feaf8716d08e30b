import PostalAddress.Yaml.Token

/-!
# YAML documents

A document is a tree of scalars, sequences and mappings. A scalar keeps its text and whether it
was written plainly; what a plain scalar stands for is not decided here. An alias stands for the
node its anchor was set on. A text holds one document; an empty one is an empty plain scalar.
-/

namespace PostalAddress

inductive Yaml
  | scalar (text : String) (plain : Bool)
  | sequence (items : List Yaml)
  | mapping (ms : List (Yaml × Yaml))

namespace Yaml

instance : Inhabited Yaml := ⟨.scalar "" true⟩

def absent : Yaml := .scalar "" true

/-- The nodes that anchors were set on, latest first. -/
abbrev Anchors := List (String × Yaml)

/-- A node, or absent when one of `stops` is next. -/
def endsNode (stops : List Token) (ts : List Token) : Bool :=
  match ts with
  | [] => true
  | t :: _ => stops.contains t

def afterEntry : List Token := [.entry, .blockEnd]

def afterEntryAtKey : List Token := [.entry, .key, .value, .blockEnd]

def afterKeyMark : List Token := [.key, .value, .blockEnd]

def inFlowSequence : List Token := [.value, .separator, .flowSequenceEnd]

def inFlowMapping : List Token := [.value, .separator, .flowMappingEnd]

/-- What follows the comma that stands before all items but the first. -/
def afterSeparator? (first : Bool) : List Token → Option (List Token)
  | .separator :: ts => if first then none else some ts
  | ts => if first then some ts else none

mutual

/-- A node. Block collections may begin where `inBlock` says so, and after a key also a sequence
that is not indented further. -/
def readNode (inBlock atKey : Bool) : (fuel : Nat) → Anchors → List Token →
    Option (Yaml × Anchors × List Token)
  | 0, _, _ => none
  | _ + 1, env, .reference name :: ts => (env.lookup name).map fun v => (v, env, ts)
  | fuel + 1, env, .anchor name :: ts => do
    let (v, env, ts) ← readContent inBlock atKey true fuel env ts
    some (v, (name, v) :: env, ts)
  | fuel + 1, env, ts => readContent inBlock atKey false fuel env ts

/-- A node without its anchor, which may be all there is. -/
def readContent (inBlock atKey anchored : Bool) : (fuel : Nat) → Anchors → List Token →
    Option (Yaml × Anchors × List Token)
  | 0, _, _ => none
  | fuel + 1, env, ts =>
    match ts with
    | .scalar text plain :: ts => some (.scalar text plain, env, ts)
    | .flowSequence :: ts => do
      let (vs, env, ts) ← readFlowItems true fuel env ts
      some (.sequence vs, env, ts)
    | .flowMapping :: ts => do
      let (ms, env, ts) ← readFlowMembers true fuel env ts
      some (.mapping ms, env, ts)
    | t :: ts =>
      if t = .entry && atKey then do
        let (vs, env, ts) ← readItemsAtKey fuel env (t :: ts)
        some (.sequence vs, env, ts)
      else if t = .blockSequence && inBlock then do
        let (vs, env, ts) ← readItems fuel env ts
        some (.sequence vs, env, ts)
      else if t = .blockMapping && inBlock then do
        let (ms, env, ts) ← readMembers fuel env ts
        some (.mapping ms, env, ts)
      else if anchored then some (absent, env, t :: ts)
      else none
    | [] => if anchored then some (absent, env, []) else none

/-- A node that may be absent. -/
def readOptional (inBlock atKey : Bool) (stops : List Token) : (fuel : Nat) → Anchors →
    List Token → Option (Yaml × Anchors × List Token)
  | 0, _, _ => none
  | fuel + 1, env, ts =>
    if endsNode stops ts then some (absent, env, ts) else readNode inBlock atKey fuel env ts

/-- The items of a block sequence and its end. -/
def readItems : (fuel : Nat) → Anchors → List Token → Option (List Yaml × Anchors × List Token)
  | 0, _, _ => none
  | fuel + 1, env, .entry :: ts => do
    let (v, env, ts) ← readOptional true false afterEntry fuel env ts
    let (vs, env, ts) ← readItems fuel env ts
    some (v :: vs, env, ts)
  | _ + 1, env, .blockEnd :: ts => some ([], env, ts)
  | _ + 1, _, _ => none

/-- The items of a block sequence that stands at the column of its key. -/
def readItemsAtKey : (fuel : Nat) → Anchors → List Token →
    Option (List Yaml × Anchors × List Token)
  | 0, _, _ => none
  | fuel + 1, env, .entry :: ts => do
    let (v, env, ts) ← readOptional true false afterEntryAtKey fuel env ts
    let (vs, env, ts) ← readItemsAtKey fuel env ts
    some (v :: vs, env, ts)
  | _ + 1, env, ts => some ([], env, ts)

/-- The members of a block mapping and its end. -/
def readMembers : (fuel : Nat) → Anchors → List Token →
    Option (List (Yaml × Yaml) × Anchors × List Token)
  | 0, _, _ => none
  | fuel + 1, env, .key :: ts => do
    let (k, env, ts) ← readOptional true true afterKeyMark fuel env ts
    let (v, env, ts) ← readValue true afterKeyMark fuel env ts
    let (ms, env, ts) ← readMembers fuel env ts
    some ((k, v) :: ms, env, ts)
  | _ + 1, env, .blockEnd :: ts => some ([], env, ts)
  | _ + 1, _, _ => none

/-- The value of a member, which is absent without a colon. -/
def readValue (inBlock : Bool) (stops : List Token) : (fuel : Nat) → Anchors → List Token →
    Option (Yaml × Anchors × List Token)
  | 0, _, _ => none
  | fuel + 1, env, .value :: ts => readOptional inBlock inBlock stops fuel env ts
  | _ + 1, env, ts => some (absent, env, ts)

/-- The key of a pair in a flow sequence. The token that takes the place of a key is lost. -/
def readPairKey : (fuel : Nat) → Anchors → List Token → Option (Yaml × Anchors × List Token)
  | 0, _, _ => none
  | fuel + 1, env, t :: ts =>
    if inFlowSequence.contains t then some (absent, env, ts)
    else readNode false false fuel env (t :: ts)
  | _ + 1, _, [] => none

/-- The items of a flow sequence and its end. A pair among them is a mapping of its own. -/
def readFlowItems (first : Bool) : (fuel : Nat) → Anchors → List Token →
    Option (List Yaml × Anchors × List Token)
  | 0, _, _ => none
  | _ + 1, env, .flowSequenceEnd :: ts => some ([], env, ts)
  | fuel + 1, env, ts => do
    let ts ← afterSeparator? first ts
    match ts with
    | .flowSequenceEnd :: ts => some ([], env, ts)
    | .key :: ts =>
      let (k, env, ts) ← readPairKey fuel env ts
      let (v, env, ts) ← readValue false [.separator, .flowSequenceEnd] fuel env ts
      let (vs, env, ts) ← readFlowItems false fuel env ts
      some (.mapping [(k, v)] :: vs, env, ts)
    | ts =>
      let (v, env, ts) ← readNode false false fuel env ts
      let (vs, env, ts) ← readFlowItems false fuel env ts
      some (v :: vs, env, ts)

/-- The members of a flow mapping and its end. A node without a colon is a key. -/
def readFlowMembers (first : Bool) : (fuel : Nat) → Anchors → List Token →
    Option (List (Yaml × Yaml) × Anchors × List Token)
  | 0, _, _ => none
  | _ + 1, env, .flowMappingEnd :: ts => some ([], env, ts)
  | fuel + 1, env, ts => do
    let ts ← afterSeparator? first ts
    match ts with
    | .flowMappingEnd :: ts => some ([], env, ts)
    | .key :: ts =>
      let (k, env, ts) ← readOptional false false inFlowMapping fuel env ts
      let (v, env, ts) ← readValue false [.separator, .flowMappingEnd] fuel env ts
      let (ms, env, ts) ← readFlowMembers false fuel env ts
      some ((k, v) :: ms, env, ts)
    | ts =>
      let (k, env, ts) ← readNode false false fuel env ts
      let (ms, env, ts) ← readFlowMembers false fuel env ts
      some ((k, absent) :: ms, env, ts)

end

/-- Enough for the readers above: of five calls in a row one takes a token. -/
def fuelFor (ts : List Token) : Nat := 5 * ts.length + 5

def readDocument (ts : List Token) : Option (Yaml × Anchors × List Token) :=
  match ts with
  | [] => some (absent, [], [])
  | .documentStart :: ts =>
    readOptional true false [.documentStart, .documentEnd] (fuelFor ts) [] ts
  | ts => readNode true false (fuelFor ts) [] ts

/-- The one document of a text. -/
def ofTokens? (ts : List Token) : Option Yaml := do
  let (v, _, rest) ← readDocument ts
  if rest.all (· = .documentEnd) then some v else none

mutual

def depth : Yaml → Nat
  | .scalar _ _ => 0
  | .sequence vs => depthItems vs + 1
  | .mapping ms => depthMembers ms + 1

def depthItems : List Yaml → Nat
  | [] => 0
  | v :: vs => max (depth v) (depthItems vs)

def depthMembers : List (Yaml × Yaml) → Nat
  | [] => 0
  | (k, v) :: ms => max (max (depth k) (depth v)) (depthMembers ms)

end

def nesting : Nat := 128

/-- Reads a text. -/
def parse? (text : String) : Option Yaml := do
  let t := text.toList
  if !t.all isAllowed then none
  let v ← ofTokens? (← Token.read? (normalizeBreaks t))
  if v.depth ≤ nesting then some v else none

end Yaml

end PostalAddress
