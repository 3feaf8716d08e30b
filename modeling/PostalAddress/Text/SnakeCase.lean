import PostalAddress.Text.Blank
import PostalAddress.Text.LetterCase

/-!
# Snake case

`snakeCase` cuts a name into words and joins them by `_` in lower case. Words end at every
character that is neither letter nor digit, between a small and a capital letter, and before the
last of several capitals when a small letter follows it: `postalCode`, `postal-code` and
`POSTALCode` all give `postal_code`.
-/

namespace PostalAddress.Text

inductive LetterRun
  | none
  | small
  | capital
deriving DecidableEq

def LetterRun.after (run : LetterRun) (c : Char) : LetterRun :=
  if isLowercase c then .small else if isUppercase c then .capital else run

/-- Cuts a run of letters and digits; the first argument is the word read so far, backwards. -/
def humps : List Char → LetterRun → List Char → List (List Char)
  | word, _, [] => if word.isEmpty then [] else [word.reverse]
  | word, _, [c] => [(c :: word).reverse]
  | word, run, c :: next :: r =>
    if run.after c = .small && isUppercase next then
      (c :: word).reverse :: humps [] .none (next :: r)
    else if run = .capital && isUppercase c && isLowercase next then
      word.reverse :: humps [c] .none (next :: r)
    else humps (c :: word) (run.after c) (next :: r)

def alphanumericRuns : List Char → List (List Char)
  | [] => [[]]
  | c :: r =>
    if isAlphanumeric c then consHead c (alphanumericRuns r) else [] :: alphanumericRuns r

/-- A sigma at the end of a word takes its final form. -/
def lowerWord : List Char → List Char
  | [] => []
  | [c] => if c = 'Σ' then ['ς'] else lowerExpansion c
  | c :: r => lowerExpansion c ++ lowerWord r

def snakeCase (t : List Char) : List Char :=
  let hs := (alphanumericRuns t).flatMap (humps [] .none)
  ['_'].intercalate (hs.map lowerWord)

end PostalAddress.Text

namespace PostalAddress

def snakeCase (s : String) : String := String.ofList (Text.snakeCase s.toList)

end PostalAddress
