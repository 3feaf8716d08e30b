import PostalAddress.Proofs.Template.Nesting
import PostalAddress.Proofs.Template.Reading
import PostalAddress.Proofs.Template.Squash

/-!
# Bare tokens

A bare token has no white space in its text, no placement, and no span if it is a text; a token
whose text is blank has nothing bare. What is bare of the tokens of a source comes from the pieces
one by one: which lines stand alone, and how texts are joined across them, leaves no trace in it.
-/

namespace PostalAddress

open Text

namespace Leaf

def bare (span : Span) : Leaf → Option (Leaf × Span)
  | .text s =>
    let t := s.toList.filter (!isBlank ·)
    if t = [] then none else some (.text (String.ofList t), ⟨0, 0⟩)
  | .inclusion name _ => some (.inclusion name .start, span)
  | l => some (l, span)

end Leaf

namespace Token

mutual

def bare : Token → Option Token
  | .leaf l span => (l.bare span).map fun (l, span) => .leaf l span
  | .block name inverted span closeStart children =>
    some (.block name inverted span closeStart (bares children))

def bares : List Token → List Token
  | [] => []
  | t :: ts => (bare t).toList ++ bares ts

end

mutual

/-- The token `n` bytes further on. -/
def move (n : Nat) : Token → Token
  | .leaf l span => .leaf l (span.move n)
  | .block name inverted span closeStart children =>
    .block name inverted (span.move n) (closeStart + n) (moveAll n children)

def moveAll (n : Nat) : List Token → List Token
  | [] => []
  | t :: ts => move n t :: moveAll n ts

end

end Token

namespace FlatToken

def bare : FlatToken → Option FlatToken
  | .leaf l span => (l.bare span).map fun (l, span) => .leaf l span
  | t => some t

def move (n : Nat) : FlatToken → FlatToken
  | .leaf l span => .leaf l (span.move n)
  | .opening name inverted span => .opening name inverted (span.move n)
  | .closing name span => .closing name (span.move n)

@[simp] theorem isText_move (n : Nat) (t : FlatToken) : (t.move n).isText = t.isText := by
  cases t with
  | leaf l span => cases l <;> rfl
  | opening => rfl
  | closing => rfl

@[simp] theorem opened_move (names : List String) (n : Nat) (t : FlatToken) :
    opened names (t.move n) = opened names t := by
  cases t with
  | leaf => rfl
  | opening => rfl
  | closing => cases names <;> rfl

theorem bare_eq_some_of_not_isText {t : FlatToken} (h : t.isText = false) :
    ∃ t', t.bare = some t' ∧ t'.isText = false := by
  cases t with
  | leaf l span =>
    cases l with
    | text s => cases h
    | inclusion => exact ⟨_, rfl, rfl⟩
    | var => exact ⟨_, rfl, rfl⟩
    | delimiters => exact ⟨_, rfl, rfl⟩
    | comment => exact ⟨_, rfl, rfl⟩
  | opening => exact ⟨_, rfl, rfl⟩
  | closing => exact ⟨_, rfl, rfl⟩

theorem isText_of_bare_eq_none {t : FlatToken} (h : t.bare = none) : t.isText = true := by
  cases ht : t.isText with
  | true => rfl
  | false =>
    obtain ⟨t', ht', _⟩ := bare_eq_some_of_not_isText ht
    rw [h] at ht'
    cases ht'

end FlatToken

namespace Nested

variable {ts : List FlatToken} {us : List Token}

theorem move (n : Nat) (h : Nested ts us) :
    Nested (ts.map (FlatToken.move n)) (Token.moveAll n us) := by
  induction h with
  | nil => exact .nil
  | leaf l span rest ih => exact .leaf l (span.move n) ih
  | block name inverted span close inner rest ihb iht =>
    rw [List.map_cons, List.map_append, List.map_cons]
    exact .block name inverted (span.move n) (close.move n) ihb iht

theorem bare (h : Nested ts us) : Nested (ts.filterMap FlatToken.bare) (Token.bares us) := by
  induction h with
  | nil => exact .nil
  | @leaf l span ts us rest ih =>
    rw [List.filterMap_cons, FlatToken.bare, Token.bares, Token.bare]
    cases l.bare span with
    | none => exact ih
    | some p => exact .leaf p.1 p.2 ih
  | block name inverted span close inner rest ihb iht =>
    rw [List.filterMap_cons, List.filterMap_append, List.filterMap_cons]
    exact .block name inverted span close ihb iht

end Nested

namespace FlatToken

section Squash

variable {ts us : List FlatToken}

theorem textFirst_map_move (n : Nat) (ts : List FlatToken) :
    textFirst (ts.map (move n)) = textFirst ts := by
  cases ts with
  | nil => rfl
  | cons t ts => exact isText_move n t

theorem Squashed.map_move (n : Nat) (h : Squashed ts us) :
    Squashed (ts.map (move n)) (us.map (move n)) := by
  induction h with
  | nil => exact .nil
  | other no rest ih => exact .other (by rwa [isText_move]) ih
  | alone s a no rest ih => exact .alone s (a.move n) (by rwa [textFirst_map_move]) ih
  | joined s s' a b rest ih => exact .joined s s' (a.move n) (b.move n) ih

theorem squash_map_move (n : Nat) (ts : List FlatToken) :
    squash (ts.map (move n)) = (squash ts).map (move n) :=
  ((squashed ts).map_move n).eq

theorem not_textFirst_filterMap_bare (h : textFirst ts = false) :
    textFirst (ts.filterMap bare) = false := by
  cases ts with
  | nil => rfl
  | cons t ts =>
    obtain ⟨t', ht', hnot⟩ := bare_eq_some_of_not_isText h
    rw [List.filterMap_cons_some ht']
    exact hnot

theorem bare_text_of_blank {s : String} (h : s.toList.filter (!isBlank ·) = []) (a : Span) :
    bare (.leaf (.text s) a) = none := by
  simp [bare, Leaf.bare, h]

theorem bare_text_of_not_blank {s : String} (h : s.toList.filter (!isBlank ·) ≠ []) (a : Span) :
    bare (.leaf (.text s) a) =
      some (.leaf (.text (String.ofList (s.toList.filter (!isBlank ·)))) ⟨0, 0⟩) := by
  simp [bare, Leaf.bare, h]

theorem isText_of_bare_text {s : String} {a : Span} {t : FlatToken}
    (h : bare (.leaf (.text s) a) = some t) : t.isText = true := by
  by_cases hs : s.toList.filter (!isBlank ·) = []
  · rw [bare_text_of_blank hs] at h
    cases h
  · rw [bare_text_of_not_blank hs] at h
    cases h
    rfl

theorem bare_text_append_of_blank {s : String} (h : s.toList.filter (!isBlank ·) = [])
    (s' : String) (a b : Span) : bare (.leaf (.text (s ++ s')) a) = bare (.leaf (.text s') b) := by
  simp [bare, Leaf.bare, h]

/-- Texts may be stripped before they are joined. -/
theorem Squashed.filterMap_bare (h : Squashed ts us) :
    Squashed (ts.filterMap bare) (us.filterMap bare) := by
  induction h with
  | nil => exact .nil
  | other no rest ih =>
    obtain ⟨t', ht', hnot⟩ := bare_eq_some_of_not_isText no
    rw [List.filterMap_cons_some ht', List.filterMap_cons_some ht']
    exact .other hnot ih
  | alone s a no rest ih =>
    by_cases hs : s.toList.filter (!isBlank ·) = []
    · rw [List.filterMap_cons_none (bare_text_of_blank hs a),
        List.filterMap_cons_none (bare_text_of_blank hs a)]
      exact ih
    · rw [List.filterMap_cons_some (bare_text_of_not_blank hs a),
        List.filterMap_cons_some (bare_text_of_not_blank hs a)]
      exact .alone _ _ (not_textFirst_filterMap_bare no) ih
  | @joined s s' a b ts us rest ih =>
    by_cases hs : s.toList.filter (!isBlank ·) = []
    · rw [List.filterMap_cons_none (bare_text_of_blank hs a), List.filterMap_cons,
        bare_text_append_of_blank hs s' _ b, ← List.filterMap_cons]
      exact ih
    · have hjoined : (s ++ s').toList.filter (!isBlank ·) ≠ [] := by simp [hs]
      rw [List.filterMap_cons_some (bare_text_of_not_blank hs a),
        List.filterMap_cons_some (bare_text_of_not_blank hjoined _)]
      by_cases hs' : s'.toList.filter (!isBlank ·) = []
      · rw [List.filterMap_cons_none (bare_text_of_blank hs' b)] at ih
        have hno : textFirst (us.filterMap bare) = false :=
          not_textFirst_filterMap_bare rest.not_textFirst
        rw [String.toList_append, List.filter_append, hs', List.append_nil]
        exact .alone _ _ hno ih
      · rw [List.filterMap_cons_some (bare_text_of_not_blank hs' b)] at ih
        rw [String.toList_append, List.filter_append, String.ofList_append]
        exact .joined _ _ ⟨0, 0⟩ ⟨0, 0⟩ ih

theorem squash_filterMap_bare (ts : List FlatToken) :
    squash (ts.filterMap bare) = (squash ts).filterMap bare :=
  (squashed ts).filterMap_bare.eq

end Squash

/-- A step that leaves the state alone at a text and does the same for a token and what is bare
of it. -/
structure Blind {β : Type} (step : β → FlatToken → Option β) : Prop where
  text : ∀ b s a, step b (.leaf (.text s) a) = some b
  bare : ∀ b t t', t.bare = some t' → step b t' = step b t

namespace Blind

variable {β : Type} {step : β → FlatToken → Option β}

theorem foldlM_squashed (h : Blind step) {ts us : List FlatToken} (hs : Squashed ts us) (b : β) :
    us.foldlM step b = ts.foldlM step b := by
  induction hs generalizing b with
  | nil => rfl
  | other no rest ih =>
    rw [List.foldlM_cons, List.foldlM_cons]
    exact bind_congr fun b' => ih b'
  | alone s a no rest ih =>
    rw [List.foldlM_cons, List.foldlM_cons]
    exact bind_congr fun b' => ih b'
  | joined s s' a c rest ih =>
    have hrest := ih b
    rw [List.foldlM_cons, h.text] at hrest
    rw [List.foldlM_cons, List.foldlM_cons, h.text, h.text]
    exact hrest

theorem foldlM_bare (h : Blind step) (ts : List FlatToken) (b : β) :
    (ts.filterMap FlatToken.bare).foldlM step b = ts.foldlM step b := by
  induction ts generalizing b with
  | nil => rfl
  | cons t ts ih =>
    rw [List.foldlM_cons]
    cases ht : t.bare with
    | none =>
      obtain ⟨s, a, rfl⟩ := isText_iff.mp (isText_of_bare_eq_none ht)
      rw [List.filterMap_cons_none ht, h.text, ih]
      rfl
    | some t' =>
      rw [List.filterMap_cons_some ht, List.foldlM_cons, h.bare b t t' ht]
      exact bind_congr fun b' => ih b'

end Blind

theorem blind_opened : Blind opened where
  text _ _ _ := rfl
  bare names t t' h := by
    cases t with
    | leaf l span =>
      obtain ⟨p, _, rfl⟩ := Option.map_eq_some_iff.mp h
      rfl
    | opening => rw [Option.some.inj h]
    | closing => rw [Option.some.inj h]

theorem blind_delimitersAfter : Blind fun d t => some (delimitersAfter d t) where
  text _ _ _ := rfl
  bare d t t' h := by
    cases t with
    | leaf l span =>
      obtain ⟨p, hp, rfl⟩ := Option.map_eq_some_iff.mp h
      cases l with
      | text s =>
        simp only [Leaf.bare, Option.ite_none_left_eq_some] at hp
        obtain ⟨_, hp⟩ := hp
        rw [← Option.some.inj hp]
        rfl
      | var => rw [← Option.some.inj hp]
      | inclusion => rw [← Option.some.inj hp]; rfl
      | delimiters => rw [← Option.some.inj hp]
      | comment => rw [← Option.some.inj hp]
    | opening => rw [Option.some.inj h]
    | closing => rw [Option.some.inj h]

end FlatToken

end PostalAddress
