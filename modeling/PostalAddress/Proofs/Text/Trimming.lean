import Mathlib.Data.List.DropRight
import Mathlib.Data.List.TakeWhile
import PostalAddress.Proofs.Text.Parts

/-!
# Trimmed texts

A text is trimmed when no white space stands at either end of it; `trim` gives a trimmed text and
leaves one alone. A joined text is trimmed where its first and its last part are.
-/

namespace PostalAddress.Text

structure Trimmed (t : List Char) : Prop where
  head : ∀ c ∈ t.head?, isBlank c = false
  last : ∀ c ∈ t.getLast?, isBlank c = false

theorem dropTrailing_isPrefix (p : Char → Bool) (t : List Char) : dropTrailing p t <+: t :=
  List.rdropWhile_prefix p t

theorem dropTrailing_append {p : Char → Bool} {t u : List Char} (h : ∀ c ∈ u, p c) :
    dropTrailing p (t ++ u) = dropTrailing p t := by
  have hu : ∀ c ∈ u.reverse, p c := fun c hc => h c (List.mem_reverse.mp hc)
  rw [dropTrailing, List.reverse_append, List.dropWhile_append_of_pos hu, dropTrailing]

theorem dropTrailing_eq_self {p : Char → Bool} {t : List Char} (h : ∀ c ∈ t.getLast?, p c = false) :
    dropTrailing p t = t := by
  refine List.rdropWhile_eq_self_iff.mpr fun hne => ?_
  rw [h _ (List.getLast?_eq_some_getLast hne)]
  exact Bool.false_ne_true

theorem getLast?_dropTrailing (p : Char → Bool) (t : List Char) :
    ∀ c ∈ (dropTrailing p t).getLast?, p c = false := by
  intro c hc
  obtain ⟨hne, rfl⟩ := List.mem_getLast?_eq_getLast hc
  exact Bool.eq_false_iff.mpr (List.rdropWhile_last_not p t hne)

theorem trim_isInfix (t : List Char) : trim t <:+: t :=
  (dropTrailing_isPrefix isBlank (dropBlanks t)).isInfix.trans (List.dropWhile_suffix _).isInfix

theorem trimmed_trim (t : List Char) : Trimmed (trim t) where
  head c hc := by
    have hhead : (dropBlanks t).head? = some c := by
      obtain ⟨u, hu⟩ := dropTrailing_isPrefix isBlank (dropBlanks t)
      have hfirst : (dropTrailing isBlank (dropBlanks t)).head? = some c := hc
      rw [← hu, List.head?_append, hfirst, Option.some_or]
    have hnot := List.head?_dropWhile_not isBlank t
    rwa [← dropBlanks, hhead] at hnot
  last := getLast?_dropTrailing isBlank (dropBlanks t)

/-- What trimming leaves begins with a character that is no white space. -/
theorem exists_not_isBlank_of_trim {t : List Char} (h : trim t ≠ []) :
    ∃ c ∈ t, isBlank c = false := by
  obtain ⟨c, r, hcons⟩ := List.exists_cons_of_ne_nil h
  have hhead : (trim t).head? = some c := by rw [hcons]; rfl
  have hmem : c ∈ trim t := by rw [hcons]; exact List.mem_cons_self
  exact ⟨c, (trim_isInfix t).subset hmem, (trimmed_trim t).head c hhead⟩

/-- White space around a trimmed text is what `trim` takes away. -/
theorem trim_append {s t u : List Char} (hs : ∀ c ∈ s, isBlank c) (ht : Trimmed t)
    (hu : ∀ c ∈ u, isBlank c) : trim (s ++ (t ++ u)) = t := by
  rw [trim, dropBlanks, List.dropWhile_append_of_pos hs]
  cases t with
  | nil =>
    have hnil : List.dropWhile isBlank ([] ++ u) = [] := List.dropWhile_eq_nil_iff.mpr hu
    rw [hnil]
    rfl
  | cons c r =>
    rw [List.cons_append, List.dropWhile_cons_of_neg (by simp [ht.head c rfl]), ← List.cons_append,
      dropTrailing_append hu, dropTrailing_eq_self ht.last]

theorem Trimmed.trim_eq {t : List Char} (h : Trimmed t) : trim t = t := by
  simpa using trim_append (s := []) (u := []) (by simp) h (by simp)

@[simp] theorem trim_trim (t : List Char) : trim (trim t) = trim t := (trimmed_trim t).trim_eq

theorem trimmed_intercalate {sep : List Char} {ps : List (List Char)}
    (h : ∀ p ∈ ps, p ≠ [] ∧ Trimmed p) : Trimmed (sep.intercalate ps) where
  head c hc := by
    cases ps with
    | nil => simp [List.intercalate] at hc
    | cons p ps =>
      obtain ⟨hne, hp⟩ := h p List.mem_cons_self
      rw [head?_intercalate_cons sep hne] at hc
      exact hp.head c hc
  last c hc := by
    rcases List.eq_nil_or_concat ps with rfl | ⟨qs, p, rfl⟩
    · simp [List.intercalate] at hc
    · obtain ⟨hne, hp⟩ := h p (by simp)
      rw [List.concat_eq_append, getLast?_intercalate_concat sep hne] at hc
      exact hp.last c hc

end PostalAddress.Text
