import PostalAddress.Decimal.Layout
import PostalAddress.Json.Basic

/-!
# Writing JSON

`compact` writes a value without white space, `pretty` with one item a line and two spaces of
indentation for each level. Strings escape quotes, backslashes and control characters only.
-/

namespace PostalAddress.Json

def hexDigit (n : Nat) : Char := Nat.digitChar n

def escapeChar (c : Char) : List Char :=
  match c.toNat with
  | 8 => ['\\', 'b']
  | 9 => ['\\', 't']
  | 10 => ['\\', 'n']
  | 12 => ['\\', 'f']
  | 13 => ['\\', 'r']
  | 34 => ['\\', '\x22']
  | 92 => ['\\', '\\']
  | n => if n < 32 then ['\\', 'u', '0', '0', hexDigit (n / 16), hexDigit (n % 16)] else [c]

def quote (s : String) : String :=
  "\x22" ++ String.ofList (s.toList.flatMap escapeChar) ++ "\x22"

/-- The text of a number that is not whole; data files know no infinities. -/
def realText (x : Float) : String :=
  if x.isNaN || x.isInf then "null" else String.ofList (Decimal.Layout.exchange.text x)

mutual

def compact : Json → String
  | .null => "null"
  | .bool b => if b then "true" else "false"
  | .whole n => toString n
  | .real x => realText x
  | .string s => quote s
  | .array js => "[" ++ ",".intercalate (compactItems js) ++ "]"
  | .object ms => "\x7b" ++ ",".intercalate (compactMembers ms) ++ "\x7d"

def compactItems : List Json → List String
  | [] => []
  | j :: js => compact j :: compactItems js

def compactMembers : List (String × Json) → List String
  | [] => []
  | (k, j) :: ms => (quote k ++ ":" ++ compact j) :: compactMembers ms

end

def indent (level : Nat) : String := String.ofList (List.replicate (2 * level) ' ')

/-- Items between brackets, each on a line of its own. -/
def block (opening closing : String) (level : Nat) (items : List String) : String :=
  if items.isEmpty then opening ++ closing
  else
    opening ++ "\n" ++ ",\n".intercalate (items.map (indent (level + 1) ++ ·)) ++ "\n" ++
      indent level ++ closing

mutual

def prettyAt (level : Nat) : Json → String
  | .array js => block "[" "]" level (prettyItems (level + 1) js)
  | .object ms => block "\x7b" "\x7d" level (prettyMembers (level + 1) ms)
  | j => compact j

def prettyItems (level : Nat) : List Json → List String
  | [] => []
  | j :: js => prettyAt level j :: prettyItems level js

def prettyMembers (level : Nat) : List (String × Json) → List String
  | [] => []
  | (k, j) :: ms => (quote k ++ ": " ++ prettyAt level j) :: prettyMembers level ms

end

def pretty (j : Json) : String := prettyAt 0 j

end PostalAddress.Json
