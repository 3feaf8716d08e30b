import PostalAddress.Text.Blank

/-!
# Escaping and indentation

`html` makes a text safe inside markup and attribute values. `indentPartial` puts the spaces and
tabs before a partial's tag in front of every line of the partial that is not empty, the first one
only when nothing else precedes the tag.
-/

namespace PostalAddress.Escape

/-- A character as it stands in markup and in quoted attribute values. -/
def safeChar (c : Char) : List Char :=
  match c.toNat with
  | 0x26 => "&amp;".toList
  | 0x3c => "&lt;".toList
  | 0x3e => "&gt;".toList
  | 0x22 => "&quot;".toList
  | 0x27 => "&#x27;".toList
  | 0x2f => "&#x2F;".toList
  | _ => [c]

def safe (t : List Char) : List Char := t.flatMap safeChar

def replaceChar (old : Char) (new : List Char) (t : List Char) : List Char :=
  t.flatMap fun c => if c = old then new else [c]

/-- What is safe in quotes, and then the two characters that matter where there are none. -/
def html (s : String) : String :=
  let graves := replaceChar '\x60' "&#x60;".toList (safe s.toList)
  String.ofList (replaceChar '=' "&#x3D;".toList graves)

def nothing (s : String) : String := s

def indentLine (indent line : List Char) : List Char :=
  if line.isEmpty then [] else indent ++ line

def indentLines (indent : List Char) (lineHasContent : Bool) : List (List Char) → List (List Char)
  | [] => []
  | l :: ls =>
    (if lineHasContent then l else indentLine indent l) :: ls.map (indentLine indent)

def indentPartial (text indentation : String) (lineHasContent : Bool) : String :=
  let indent := indentation.toList.filter fun c => c = ' ' || c = '\t'
  String.ofList
    (['\n'].intercalate (indentLines indent lineHasContent (Text.splitOn '\n' text.toList)))

end PostalAddress.Escape
