import PostalAddress.Address.Rules
import PostalAddress.Proofs.Pattern.Leftmost
import PostalAddress.Proofs.Pattern.Literal

/-!
# Abbreviations are literal

The pattern of an abbreviation is its word between two boundaries of words, so it finds the leftmost
place where the word stands apart from other words, and the replacement is put there as it is
written: no character of either means anything else.
-/

namespace PostalAddress

section Apart

/-- Begins and ends with a character of a word. -/
structure WordEnds (s : List Char) : Prop where
  head : ∃ c ∈ s.head?, Text.isWord c
  last : ∃ c ∈ s.getLast?, Text.isWord c

/-- What stands between the two texts has no character of a word directly before or after it. -/
structure Apart (before after : List Char) : Prop where
  before : ∀ c ∈ before.getLast?, Text.isWord c = false
  after : ∀ c ∈ after.head?, Text.isWord c = false

/-- `result` is `text` with the leftmost `src` that stands apart replaced by `dest`, when there is
one. -/
def ReplacesWord (src dest text result : List Char) : Prop :=
  (∃ before after, text = before ++ src ++ after ∧ Apart before after ∧
    (∀ b a, text = b ++ src ++ a → Apart b a → before.length ≤ b.length) ∧
    result = before ++ dest ++ after) ∨
  ((∀ before after, text = before ++ src ++ after → ¬ Apart before after) ∧ result = text)

end Apart

section Boundary

open Program (placeBetween)

variable {s : List Char}

theorem any_isWord_eq_false {o : Option Char} :
    o.any (Look.isWord true) = false ↔ ∀ c ∈ o, Text.isWord c = false := by
  cases o <;> simp [Look.isWord]

theorem holds_boundary (before rest : List Char) :
    Look.holds (placeBetween before rest) (.boundary true) =
      (before.getLast?.any (Look.isWord true) != rest.head?.any (Look.isWord true)) := rfl

theorem holds_boundary_before (hs : WordEnds s) (before after : List Char) :
    Look.holds (placeBetween before (s ++ after)) (.boundary true) ↔
      ∀ c ∈ before.getLast?, Text.isWord c = false := by
  obtain ⟨c, hc, hword⟩ := hs.head
  have hahead : (s ++ after).head?.any (Look.isWord true) = true := by
    rw [List.head?_append, hc]
    exact hword
  rw [holds_boundary, hahead, Bool.bne_true, Bool.not_eq_true', any_isWord_eq_false]

theorem holds_boundary_after (hs : WordEnds s) (before after : List Char) :
    Look.holds (placeBetween (before ++ s) after) (.boundary true) ↔
      ∀ c ∈ after.head?, Text.isWord c = false := by
  obtain ⟨c, hc, hword⟩ := hs.last
  have hbehind : (before ++ s).getLast?.any (Look.isWord true) = true := by
    rw [List.getLast?_append, hc]
    exact hword
  rw [holds_boundary, hbehind, Bool.true_bne, Bool.not_eq_true', any_isWord_eq_false]

/-- The node of a word matches it where it stands apart, and nothing else. -/
theorem Node.matches_word (hs : WordEnds s) {before x after : List Char} :
    (Node.word s).Matches before x after ↔ x = s ∧ Apart before after := by
  cases s with
  | nil =>
    obtain ⟨c, hc, -⟩ := hs.head
    cases hc
  | cons c s =>
    rw [word_cons]
    constructor
    · rintro ⟨_, _, rfl, ⟨rfl, hbefore⟩, _, _, rfl, rfl, rfl, hafter⟩
      rw [List.append_nil] at hbefore hafter
      rw [List.append_nil, List.nil_append]
      exact ⟨rfl, (holds_boundary_before hs before after).mp hbefore,
        (holds_boundary_after hs before after).mp hafter⟩
    · rintro ⟨rfl, hapart⟩
      have hbefore := (holds_boundary_before hs before after).mpr hapart.before
      have hafter := (holds_boundary_after hs before after).mpr hapart.after
      refine ⟨[], c :: s, rfl, ⟨rfl, hbefore⟩, c :: s, [], List.append_nil _, rfl, rfl, ?_⟩
      rwa [List.append_nil]

/-- Where a word stands apart, a match of its node begins. -/
theorem Node.startsAt_word (hs : WordEnds s) {before after : List Char} (h : Apart before after) :
    (Node.word s).Matches.StartsAt before (s ++ after) :=
  ⟨s, after, rfl, (matches_word hs).mpr ⟨rfl, h⟩⟩

end Boundary

/-- The pattern of a word finds the leftmost place where it stands apart. -/
theorem Pattern.replacesWord_replaceFirst {s : List Char} (hs : WordEnds s) (d t : List Char) :
    ReplacesWord s d t
      (replaceFirst ⟨(Node.word s).program, []⟩ (d.map .char) t) := by
  unfold replaceFirst
  cases hfind : find? ⟨(Node.word s).program, []⟩ t with
  | none =>
    refine .inr ⟨?_, rfl⟩
    rintro before after rfl hapart
    exact not_startsAt_of_find?_eq_none rfl hfind (List.append_assoc ..).symm
      (Node.startsAt_word hs hapart)
  | some m =>
    obtain ⟨before, x, after, rfl, hstart, hstop, hx, hfirst⟩ :=
      exists_matches_of_find?_eq_some rfl hfind
    obtain ⟨rfl, hapart⟩ := (Node.matches_word hs).mp hx
    refine .inl ⟨before, after, (List.append_assoc ..).symm, hapart, ?_, ?_⟩
    · intro b a hb hba
      refine hfirst b (x ++ a) ?_ (Node.startsAt_word hs hba)
      rw [hb, List.append_assoc]
    · dsimp only
      rw [← hstart, ← hstop, Replacement.expand_chars, List.take_left, ← List.append_assoc,
        List.drop_left]

namespace RuleTable

open Pattern (TooLarge)

theorem toList_wordPattern (src : String) :
    (wordPattern src).toList = ['\\', 'b'] ++ Pattern.escape src.toList ++ ['\\', 'b'] := by
  simp [wordPattern]

/-- The rule that puts `a.dest` in place of the word `a.src`. -/
def wordRule (component : String) (a : Abbreviation) : Rule where
  scope := some component
  pattern := ⟨(Node.word a.src.toList).program, []⟩
  replacement := a.dest.toList.map .char

theorem make_wordPattern (table component : String) {a : Abbreviation}
    (h : ¬ TooLarge (wordPattern a.src)) :
    Rule.make table (some component) (wordPattern a.src)
      (String.ofList (Replacement.literal a.dest.toList)) = .ok (wordRule component a) := by
  rw [Rule.make, Pattern.parse?_word (toList_wordPattern a.src) h, String.toList_ofList,
    Replacement.read_literal]
  rfl

theorem mapM_eq_ok {ε α β : Type} {f : α → Except ε β} {g : α → β} {as : List α}
    (h : ∀ a ∈ as, f a = .ok (g a)) : as.mapM f = .ok (as.map g) := by
  induction as with
  | nil => rfl
  | cons a as ih =>
    obtain ⟨ha, has⟩ := List.forall_mem_cons.mp h
    rw [List.mapM_cons, ha, ih has]
    rfl

/-- The rule of every word, in order. -/
def wordTable (rules : List AbbreviationRule) : RuleTable :=
  (rules.flatMap fun r => r.replacements.map (r.component, ·)).map fun x => wordRule x.1 x.2

/-- Every list of abbreviations is a table, as far as the size of its patterns goes. -/
theorem forAbbreviations_eq_ok (table : String) {rules : List AbbreviationRule}
    (h : ∀ r ∈ rules, ∀ a ∈ r.replacements, ¬ TooLarge (wordPattern a.src)) :
    forAbbreviations table rules = .ok (wordTable rules) := by
  refine mapM_eq_ok fun x hx => ?_
  obtain ⟨r, hr, hx⟩ := List.mem_flatMap.mp hx
  obtain ⟨a, ha, rfl⟩ := List.mem_map.mp hx
  exact make_wordPattern table r.component (h r hr a ha)

theorem apply_wordRule (component : String) (a : Abbreviation) (text : String) :
    (apply [wordRule component a] (some component) text).toList =
      Pattern.replaceFirst ⟨(Node.word a.src.toList).program, []⟩ (a.dest.toList.map .char)
        text.toList := by
  rw [apply, String.toList_ofList, List.foldl_cons, List.foldl_nil, Rule.apply, Rule.appliesTo,
    wordRule, decide_eq_true rfl, Bool.or_true, if_pos rfl]

theorem apply_wordRule_of_ne {component : String} {field : Option String}
    (h : field ≠ some component) (a : Abbreviation) (text : String) :
    apply [wordRule component a] field text = text := by
  have happlies : (wordRule component a).appliesTo field = false :=
    decide_eq_false fun hscope => h hscope.symm
  rw [apply, List.foldl_cons, List.foldl_nil, Rule.apply, happlies]
  exact String.ofList_toList

/-- Abbreviations are read literally, however they are written: with the automata within their
limit there is a table, and that of one abbreviation replaces its word in its component. -/
theorem forAbbreviations_literal (table : String) (rules : List AbbreviationRule)
    (hsize : ∀ r ∈ rules, ∀ a ∈ r.replacements, ¬ TooLarge (wordPattern a.src)) :
    ∃ t, forAbbreviations table rules = .ok t ∧
      ∀ component a, rules = [⟨component, [a]⟩] →
        (WordEnds a.src.toList → ∀ text,
          ReplacesWord a.src.toList a.dest.toList text.toList
            (t.apply (some component) text).toList) ∧
        ∀ field, field ≠ some component → ∀ text, t.apply field text = text := by
  refine ⟨_, forAbbreviations_eq_ok table hsize, ?_⟩
  rintro component a rfl
  refine ⟨fun hends text => ?_, fun field hfield text => apply_wordRule_of_ne hfield a text⟩
  have happly := apply_wordRule component a text
  exact happly ▸ Pattern.replacesWord_replaceFirst hends a.dest.toList text.toList

theorem forAbbreviations_literal_of_dollars :
    ∃ t, forAbbreviations "en" [⟨"road", [⟨"St. John's", "$1 $\x7bx\x7d $$"⟩]⟩] = .ok t ∧
      (∀ text : String, ReplacesWord "St. John's".toList "$1 $\x7bx\x7d $$".toList text.toList
        (t.apply (some "road") text).toList) ∧
      ∀ text, t.apply none text = text := by
  have hends : WordEnds "St. John's".toList :=
    ⟨⟨'S', by decide, by decide⟩, ⟨'s', by decide, by decide⟩⟩
  obtain ⟨t, ht, h⟩ :=
    forAbbreviations_literal "en" [⟨"road", [⟨"St. John's", "$1 $\x7bx\x7d $$"⟩]⟩] (by
      rintro r hr a ha
      obtain rfl := List.mem_singleton.mp hr
      obtain rfl := List.mem_singleton.mp ha
      exact Pattern.not_tooLarge_word (toList_wordPattern _) (by decide))
  obtain ⟨hreplaces, hother⟩ := h "road" _ rfl
  exact ⟨t, ht, hreplaces hends, hother none nofun⟩

example : (forAbbreviations "en" [⟨"road", [⟨"St. John's", "$1"⟩]⟩]).toOption.map
    (·.apply (some "road") "St. John's1, St. John's Hill") = some "St. John's1, $1 Hill" := by
  decide +kernel

end RuleTable

end PostalAddress
