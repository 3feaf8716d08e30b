import PostalAddress.Json.Basic

/-!
# Reading tables from documents

Tables are read alike from JSON and from YAML. `Document` is what a reader of tables needs to see
of a node. Records are read by the names of their fields, unknown names being ignored, or in JSON as
a list that gives the fields in order; a known field that comes twice is refused.
-/

namespace PostalAddress

class Document (ν : Type) where
  /-- The node stands for an absent value. -/
  isNull : ν → Bool
  text? : ν → Option String
  /-- The name of one of several alternatives. -/
  choice? : ν → Option String
  bool? : ν → Option Bool
  items? : ν → Option (List ν)
  members? : ν → Option (List (String × ν))
  /-- The fields of a record that is written as a list. -/
  positional? : ν → Option (List ν)
  /-- The node as plain data. -/
  json? : ν → Option Json

instance : Document Json where
  isNull
    | .null => true
    | _ => false
  text?
    | .string s => some s
    | _ => none
  choice?
    | .string s => some s
    | .object [(s, .null)] => some s
    | _ => none
  bool?
    | .bool b => some b
    | _ => none
  items?
    | .array js => some js
    | _ => none
  members?
    | .object ms => some ms
    | _ => none
  positional?
    | .array js => some js
    | _ => none
  json? := some

namespace Document

variable {ν : Type} [Document ν] {α : Type}

/-- The values of the named fields, in the order of the names. -/
def fields? (names : List String) (n : ν) : Option (List (Option ν)) :=
  match members? n with
  | some ms =>
    names.mapM fun name =>
      match ms.filter (·.1 = name) with
      | [] => some none
      | [(_, v)] => some (some v)
      | _ => none
  | none =>
    match positional? n with
    | some vs =>
      if vs.length ≤ names.length then
        some (vs.map some ++ List.replicate (names.length - vs.length) none)
      else none
    | none => none

def list? (item : ν → Option α) (n : ν) : Option (List α) := (items? n).bind (·.mapM item)

/-- A table keeps the later value of a repeated key, in its earlier place. -/
def table? (item : ν → Option α) (n : ν) : Option (Table α) := do
  let ms ← members? n
  let es ← ms.mapM fun (k, v) => (item v).map (k, ·)
  some (.ofList es)

/-- A field that may be absent or null. -/
def optional? (item : ν → Option α) : Option ν → Option (Option α)
  | none => some none
  | some v => if isNull v then some none else (item v).map some

def withDefault? (default : α) (item : ν → Option α) : Option ν → Option α
  | none => some default
  | some v => item v

end Document

end PostalAddress
