import PostalAddress.Proofs.Template.Lines

/-!
# Joining neighbouring texts

`Squashed ts us` says that `us` are the tokens `ts` with neighbouring texts joined: a text that no
text follows stands alone, and another is joined to what the texts after it were joined to.
-/

namespace PostalAddress.FlatToken

theorem isText_iff {t : FlatToken} : t.isText = true ↔ ∃ s a, t = .leaf (.text s) a := by
  constructor
  · intro h
    unfold isText at h
    split at h
    · exact ⟨_, _, rfl⟩
    · cases h
  · rintro ⟨s, a, rfl⟩
    rfl

def textFirst (ts : List FlatToken) : Bool := ts.head?.any isText

theorem textFirst_iff {ts : List FlatToken} :
    textFirst ts = true ↔ ∃ s a r, ts = .leaf (.text s) a :: r := by
  constructor
  · intro h
    cases ts with
    | nil => cases h
    | cons t r =>
      obtain ⟨s, a, rfl⟩ := isText_iff.mp h
      exact ⟨s, a, r, rfl⟩
  · rintro ⟨s, a, r, rfl⟩
    rfl

inductive Squashed : List FlatToken → List FlatToken → Prop
  | nil : Squashed [] []
  | other {t : FlatToken} {ts us : List FlatToken} (no : t.isText = false) (rest : Squashed ts us) :
      Squashed (t :: ts) (t :: us)
  | alone (s : String) (a : Span) {ts us : List FlatToken} (no : textFirst us = false)
      (rest : Squashed ts us) : Squashed (.leaf (.text s) a :: ts) (.leaf (.text s) a :: us)
  | joined (s s' : String) (a b : Span) {ts us : List FlatToken}
      (rest : Squashed ts (.leaf (.text s') b :: us)) :
      Squashed (.leaf (.text s) a :: ts) (.leaf (.text (s ++ s')) ⟨a.start, b.stop⟩ :: us)

theorem squashed (ts : List FlatToken) : Squashed ts (squash ts) := by
  induction ts with
  | nil => exact .nil
  | cons t ts ih =>
    cases ht : t.isText with
    | false =>
      rw [squash]
      · exact .other ht ih
      · rintro s a rfl
        cases ht
    | true =>
      obtain ⟨s, a, rfl⟩ := isText_iff.mp ht
      rw [squash]
      split
      · rename_i s' b us hus
        rw [hus] at ih
        exact .joined s s' a b ih
      · rename_i hno
        refine .alone s a ?_ ih
        cases hfirst : textFirst (squash ts) with
        | false => rfl
        | true =>
          obtain ⟨s', b, us, hus⟩ := textFirst_iff.mp hfirst
          exact absurd hus (hno s' b us)

namespace Squashed

variable {ts us : List FlatToken}

theorem eq (h : Squashed ts us) : squash ts = us := by
  induction h with
  | nil => rfl
  | other no rest ih =>
    rw [squash, ih]
    rintro s a rfl
    cases no
  | alone s a no rest ih =>
    rw [squash, ih]
    split
    · cases no
    · rfl
  | joined s s' a b rest ih => rw [squash, ih]

/-- Once joined, a text is not followed by another. -/
theorem not_textFirst {s : String} {a : Span} (h : Squashed ts (.leaf (.text s) a :: us)) :
    textFirst us = false := by
  generalize hvs : FlatToken.leaf (.text s) a :: us = vs at h
  induction h generalizing s a us with
  | nil => cases hvs
  | other no rest ih =>
    obtain ⟨rfl, _⟩ := List.cons_eq_cons.mp hvs
    cases no
  | alone s' a' no rest ih =>
    obtain ⟨_, rfl⟩ := List.cons_eq_cons.mp hvs
    exact no
  | joined s' s'' a' b rest ih =>
    obtain ⟨_, rfl⟩ := List.cons_eq_cons.mp hvs
    exact ih rfl

/-- Joined tokens come apart at one that is not a text as the tokens do. -/
theorem exists_of_append_cons {before after : List FlatToken} {t : FlatToken}
    (ht : t.isText = false) (h : Squashed ts (before ++ t :: after)) :
    ∃ xs ys, ts = xs ++ t :: ys ∧ Squashed xs before ∧ Squashed ys after := by
  generalize hus : before ++ t :: after = us at h
  induction h generalizing before with
  | nil => simp at hus
  | @other u ts us no rest ih =>
    cases before with
    | nil =>
      obtain ⟨rfl, rfl⟩ := List.cons_eq_cons.mp hus
      exact ⟨[], ts, rfl, .nil, rest⟩
    | cons v before =>
      obtain ⟨rfl, hrest⟩ := List.cons_eq_cons.mp hus
      obtain ⟨xs, ys, rfl, hxs, hys⟩ := ih hrest
      exact ⟨v :: xs, ys, rfl, .other no hxs, hys⟩
  | alone s a no rest ih =>
    cases before with
    | nil =>
      obtain ⟨rfl, _⟩ := List.cons_eq_cons.mp hus
      cases ht
    | cons v before =>
      obtain ⟨rfl, rfl⟩ := List.cons_eq_cons.mp hus
      obtain ⟨xs, ys, rfl, hxs, hys⟩ := ih rfl
      have hbefore : textFirst before = false := by
        cases before with
        | nil => rfl
        | cons w ws => exact no
      exact ⟨.leaf (.text s) a :: xs, ys, rfl, .alone s a hbefore hxs, hys⟩
  | joined s s' a b rest ih =>
    cases before with
    | nil =>
      obtain ⟨rfl, _⟩ := List.cons_eq_cons.mp hus
      cases ht
    | cons v before =>
      obtain ⟨rfl, rfl⟩ := List.cons_eq_cons.mp hus
      have hjoined : FlatToken.leaf (.text s') b :: (before ++ t :: after) =
          (.leaf (.text s') b :: before) ++ t :: after := rfl
      obtain ⟨xs, ys, rfl, hxs, hys⟩ := ih hjoined.symm
      exact ⟨.leaf (.text s) a :: xs, ys, rfl, .joined s s' a b hxs, hys⟩

end Squashed

end PostalAddress.FlatToken
