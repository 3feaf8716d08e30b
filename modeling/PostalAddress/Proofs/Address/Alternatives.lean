import PostalAddress.Proofs.Address.Choices

/-!
# The first part that is not blank

The separator of alternatives takes the white space around its bars along, and the longest run of
it. This moves no cut: `SplitBy` says what the parts between plain occurrences of a text are, and
the parts of an alternative are these but for white space at their ends, however many bars and
blanks stand in a row.
-/

namespace PostalAddress

namespace Text

/-- `ps` are the parts of a text between occurrences of `sep`, of which each is the leftmost in what
the one before it leaves. -/
inductive SplitBy (sep : List Char) : List Char → List (List Char) → Prop
  | last {t : List Char} (no : ¬ sep <:+: t) : SplitBy sep t [t]
  | cut {p t : List Char} {ps : List (List Char)}
      (leftmost : ∀ before after, p ++ (sep ++ t) = before ++ (sep ++ after) →
        p.length ≤ before.length)
      (rest : SplitBy sep t ps) : SplitBy sep (p ++ (sep ++ t)) (p :: ps)

namespace SplitBy

variable {sep t : List Char} {ps qs : List (List Char)}

theorem infix_cut (p t : List Char) : sep <:+: p ++ (sep ++ t) :=
  ⟨p, t, List.append_assoc p sep t⟩

theorem eq (h : SplitBy sep t ps) (h' : SplitBy sep t qs) : ps = qs := by
  induction h generalizing qs with
  | last no =>
    cases h' with
    | last => rfl
    | cut => exact absurd (infix_cut _ _) no
  | @cut p t ps leftmost rest ih =>
    generalize hs : p ++ (sep ++ t) = s at h'
    cases h' with
    | last no => exact absurd (hs ▸ infix_cut p t) no
    | @cut p' t' qs leftmost' rest' =>
      have hlen : p.length = p'.length :=
        Nat.le_antisymm (leftmost p' t' hs) (leftmost' p t hs.symm)
      obtain ⟨rfl, hrest⟩ := List.append_inj hs hlen
      rw [ih (List.append_cancel_left hrest ▸ rest')]

/-- A character in front of a text goes to the first part, where it begins no occurrence. -/
theorem cons (c : Char) (no : ¬ sep <+: c :: t) (h : SplitBy sep t ps) :
    SplitBy sep (c :: t) (consHead c ps) := by
  cases h with
  | last hno => exact .last fun hin => (List.infix_cons_iff.mp hin).elim no hno
  | @cut p t ps leftmost rest =>
    refine SplitBy.cut (p := c :: p) (fun before after heq => ?_) rest
    cases before with
    | nil => exact absurd ⟨after, heq.symm⟩ no
    | cons b before => exact Nat.succ_le_succ (leftmost before after (List.cons.inj heq).2)

theorem split_exactly (hsep : sep ≠ []) (t : List Char) :
    SplitBy sep t ((Front.exactly sep).split t) := by
  induction hlen : t.length using Nat.strong_induction_on generalizing t with
  | h n ih =>
    subst hlen
    cases t with
    | nil => exact .last fun hin => hsep (List.infix_nil.mp hin)
    | cons c r =>
      by_cases hpre : sep <+: c :: r
      · obtain ⟨d, sep, rfl⟩ := List.exists_cons_of_ne_nil hsep
        obtain ⟨rfl, u, rfl⟩ := List.cons_prefix_cons.mp hpre
        have hmatch : Front.exactly (d :: sep) (d :: (sep ++ u)) = some (sep.length + 1) :=
          Front.exactly_eq_some_iff.mpr ⟨List.prefix_append (d :: sep) u, rfl⟩
        have hlt : u.length < (d :: (sep ++ u)).length := by
          simp only [List.length_cons, List.length_append]
          omega
        rw [Front.split_cons_of_some hmatch, List.drop_left]
        exact SplitBy.cut (p := []) (fun _ _ _ => Nat.zero_le _) (ih _ hlt u rfl)
      · rw [Front.split_cons_of_none (Front.exactly_eq_none_iff.mpr hpre)]
        exact (ih _ (Nat.lt_succ_self _) r rfl).cons c hpre

theorem iff_eq_split (hsep : sep ≠ []) : SplitBy sep t ps ↔ ps = (Front.exactly sep).split t :=
  ⟨fun h => h.eq (split_exactly hsep t), fun h => h ▸ split_exactly hsep t⟩

theorem not_infix_of_mem (hsep : sep ≠ []) (h : SplitBy sep t ps) {p : List Char} (hp : p ∈ ps) :
    ¬ sep <:+: p := by
  induction h with
  | last no =>
    obtain rfl := List.mem_singleton.mp hp
    exact no
  | @cut q t ps leftmost rest ih =>
    obtain rfl | hp := List.mem_cons.mp hp
    · rintro ⟨a, b, rfl⟩
      have hle := leftmost a (b ++ (sep ++ t)) (by simp only [List.append_assoc])
      have hpos := List.length_pos_iff.mpr hsep
      simp only [List.length_append] at hle
      omega
    · exact ih hp

theorem infix_of_mem (h : SplitBy sep t ps) {p : List Char} (hp : p ∈ ps) : p <:+: t := by
  induction h with
  | last no =>
    obtain rfl := List.mem_singleton.mp hp
    exact List.infix_refl p
  | @cut q t ps leftmost rest ih =>
    obtain rfl | hp := List.mem_cons.mp hp
    · exact (List.prefix_append p _).isInfix
    · have hsuffix : t <:+ q ++ (sep ++ t) :=
        (List.suffix_append sep t).trans (List.suffix_append q _)
      exact (ih hp).trans hsuffix.isInfix

end SplitBy

end Text

namespace Alternatives

open Text

theorem map_trim_parts (t : List Char) : (parts t).map trim = (cuts t).map trim :=
  (alike_parts_cuts t).map_trim

theorem firstAvailable_eq_find? (t : List Char) :
    firstAvailable t = (((cuts t).map trim).find? fun p => !p.isEmpty).getD [] := by
  rw [firstAvailable, map_trim_parts]

theorem firstAvailable_eq_nil_iff (t : List Char) :
    firstAvailable t = [] ↔ ∀ p ∈ cuts t, trim p = [] := by
  rw [firstAvailable_eq_find?]
  cases hfind : ((cuts t).map trim).find? fun p => !p.isEmpty with
  | none => simpa using hfind
  | some p =>
    have hne : p ≠ [] := by simpa using List.find?_some hfind
    obtain ⟨q, hq, rfl⟩ := List.mem_map.mp (List.mem_of_find?_eq_some hfind)
    exact iff_of_false hne fun hblank => hne (hblank q hq)

/-- What is kept is a part, trimmed; when all are blank, any of them. -/
theorem exists_mem_cuts (t : List Char) : ∃ p ∈ cuts t, firstAvailable t = trim p := by
  cases hfind : ((cuts t).map trim).find? fun p => !p.isEmpty with
  | none =>
    obtain ⟨p, hp⟩ := List.exists_mem_of_ne_nil (cuts t) (cuts_ne_nil t)
    refine ⟨p, hp, ?_⟩
    have hblank : trim p = [] := by
      simpa using List.find?_eq_none.mp hfind _ (List.mem_map_of_mem hp)
    rw [firstAvailable_eq_find?, hfind, hblank, Option.getD_none]
  | some p =>
    obtain ⟨q, hq, rfl⟩ := List.mem_map.mp (List.mem_of_find?_eq_some hfind)
    refine ⟨q, hq, ?_⟩
    rw [firstAvailable_eq_find?, hfind, Option.getD_some]

/-- The part that is kept is the first that is not blank of those between plain double bars. It has
no double bars and no white space at its ends, and it stands in the text as it is. -/
theorem firstAvailable_of_splitBy (t : List Char) :
    ∃ ps, (∀ qs, SplitBy bars t qs ↔ qs = ps) ∧ (parts t).map trim = ps.map trim ∧
      firstAvailable t = ((ps.map trim).find? fun p => !p.isEmpty).getD [] ∧
      (firstAvailable t = [] ↔ ∀ p ∈ ps, trim p = []) ∧
      ¬ bars <:+: firstAvailable t ∧ firstAvailable t <:+: t ∧ Trimmed (firstAvailable t) := by
  have hbars : bars ≠ [] := by decide
  obtain ⟨p, hp, hkept⟩ := exists_mem_cuts t
  have hsplit := SplitBy.split_exactly hbars t
  refine ⟨cuts t, fun qs => SplitBy.iff_eq_split hbars, map_trim_parts t,
    firstAvailable_eq_find? t, firstAvailable_eq_nil_iff t, fun hin => ?_, ?_, ?_⟩
  · rw [hkept] at hin
    exact hsplit.not_infix_of_mem hbars hp (hin.trans (trim_isInfix p))
  · rw [hkept]
    exact (trim_isInfix p).trans (hsplit.infix_of_mem hp)
  · rw [hkept]
    exact trimmed_trim p

-- A third bar in a row stays with the part after it.
example : firstAvailable " |||| ||| b ".toList = "| b".toList := by decide

end Alternatives

end PostalAddress
