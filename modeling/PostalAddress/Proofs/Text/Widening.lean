import PostalAddress.Proofs.Text.Continuing
import PostalAddress.Template.Escape

/-!
# Texts widened behind their line ends

Indenting a partial puts white space in front of its lines and nowhere else. A front that looks for
characters other than white space does not tell the widened text from the other: it matches at the
same places, and what it takes and leaves is widened as well.
-/

namespace PostalAddress.Text

/-- The second text is the first with more white space behind some of its line ends. -/
inductive Widened : List Char → List Char → Prop
  | nil : Widened [] []
  | keep (c : Char) {r r' : List Char} (rest : Widened r r') : Widened (c :: r) (c :: r')
  | line {gap r r' : List Char} (blank : ∀ g ∈ gap, isBlank g) (rest : Widened r r') :
      Widened ('\n' :: r) ('\n' :: (gap ++ r'))

namespace Widened

variable {s s' t t' : List Char}

theorem refl (t : List Char) : Widened t t := by
  induction t with
  | nil => exact .nil
  | cons c t ih => exact .keep c ih

theorem append (h : Widened s s') (h' : Widened t t') : Widened (s ++ t) (s' ++ t') := by
  induction h with
  | nil => exact h'
  | keep c rest ih => exact .keep c ih
  | line blank rest ih =>
    rw [List.cons_append, List.cons_append, List.append_assoc]
    exact .line blank ih

/-- Within a line nothing is put. -/
theorem eq_of_not_mem (h : Widened t t') (hline : '\n' ∉ t) : t' = t := by
  induction h with
  | nil => rfl
  | keep c rest ih => rw [ih fun hmem => hline (List.mem_cons_of_mem c hmem)]
  | line blank rest => exact absurd List.mem_cons_self hline

theorem eq_nil_iff (h : Widened t t') : t' = [] ↔ t = [] := by
  cases h <;> simp

theorem of_blankless {x u : List Char} (hx : Blankless x) (h : Widened (x ++ u) t') :
    ∃ u', t' = x ++ u' ∧ Widened u u' := by
  induction x generalizing t' with
  | nil => exact ⟨t', rfl, h⟩
  | cons c x ih =>
    obtain ⟨hc, hx⟩ := List.forall_mem_cons.mp hx
    cases h with
    | keep _ rest =>
      obtain ⟨u', rfl, hu⟩ := ih hx rest
      exact ⟨u', rfl, hu⟩
    | line => exact absurd hc (by decide)

theorem to_blankless {x u' : List Char} (hx : Blankless x) (h : Widened t (x ++ u')) :
    ∃ u, t = x ++ u ∧ Widened u u' := by
  induction x generalizing t with
  | nil => exact ⟨t, rfl, h⟩
  | cons c x ih =>
    obtain ⟨hc, hx⟩ := List.forall_mem_cons.mp hx
    generalize hs : c :: x ++ u' = s at h
    cases h with
    | nil => cases hs
    | keep _ rest =>
      obtain ⟨rfl, rfl⟩ := List.cons_eq_cons.mp hs
      obtain ⟨u, rfl, hu⟩ := ih hx rest
      exact ⟨u, rfl, hu⟩
    | line =>
      obtain ⟨rfl, _⟩ := List.cons_eq_cons.mp hs
      exact absurd hc (by decide)

theorem prefix_iff {x : List Char} (hx : Blankless x) (h : Widened t t') : x <+: t' ↔ x <+: t := by
  constructor
  · rintro ⟨u', rfl⟩
    obtain ⟨u, rfl, _⟩ := h.to_blankless hx
    exact List.prefix_append x u
  · rintro ⟨u, rfl⟩
    obtain ⟨u', rfl, _⟩ := h.of_blankless hx
    exact List.prefix_append x u'

/-- The words of a text do not change. -/
theorem words_eq (h : Widened t t') : words t' = words t := by
  have hgap : ∀ gap y : List Char, (∀ g ∈ gap, isBlank g) → words (gap ++ y) = words y := by
    intro gap y hgap
    induction gap with
    | nil => rfl
    | cons g gap ih =>
      obtain ⟨hg, hgap⟩ := List.forall_mem_cons.mp hgap
      rw [← ih hgap, words, words, List.cons_append, words.go, if_pos hg, List.filter_cons_of_neg]
      simp
  have hgo : ∃ p ps ps', words.go t = p :: ps ∧ words.go t' = p :: ps' ∧
      ps'.filter (!·.isEmpty) = ps.filter (!·.isEmpty) := by
    induction h with
    | nil => exact ⟨[], [], [], rfl, rfl, rfl⟩
    | @keep c r r' rest ih =>
      obtain ⟨p, ps, ps', hp, hp', hps⟩ := ih
      rw [words.go, words.go, hp, hp']
      split
      · refine ⟨[], p :: ps, p :: ps', rfl, rfl, ?_⟩
        rw [List.filter_cons, List.filter_cons, hps]
      · exact ⟨c :: p, ps, ps', rfl, rfl, hps⟩
    | @line gap r r' blank rest ih =>
      obtain ⟨p, ps, ps', hp, hp', hps⟩ := ih
      have hwords : words (gap ++ r') = words r := by
        rw [hgap gap r' blank, words, words, hp, hp', List.filter_cons, List.filter_cons, hps]
      exact ⟨[], words.go r, words.go (gap ++ r'), rfl, rfl, hwords⟩
  obtain ⟨p, ps, ps', hp, hp', hps⟩ := hgo
  rw [words, words, hp, hp', List.filter_cons, List.filter_cons, hps]

/-- Cut after `n` and `m` characters, both parts are widened. -/
def CutAt (t t' : List Char) (n m : Nat) : Prop :=
  Widened (t.take n) (t'.take m) ∧ Widened (t.drop n) (t'.drop m)

theorem cutAt_length (h : Widened t t') : CutAt t t' t.length t'.length := by
  rw [CutAt, List.take_length, List.take_length, List.drop_length, List.drop_length]
  exact ⟨h, .nil⟩

theorem cutAt_append (h : Widened s s') (h' : Widened t t') :
    CutAt (s ++ t) (s' ++ t') s.length s'.length := by
  rw [CutAt, List.take_left, List.take_left, List.drop_left, List.drop_left]
  exact ⟨h, h'⟩

theorem CutAt.add {n m i j : Nat} (h : CutAt t t' n m) (h' : CutAt (t.drop n) (t'.drop m) i j) :
    CutAt t t' (n + i) (m + j) := by
  rw [CutAt, List.take_add, List.take_add, ← List.drop_drop, ← List.drop_drop]
  exact ⟨h.1.append h'.1, h'.2⟩

end Widened

namespace Front

/-- A front that takes from a widened text what it takes from the text, widened. -/
def Tolerant (f : Front) : Prop :=
  ∀ t t', Widened t t' → (f t = none ∧ f t' = none) ∨
    ∃ n m, f t = some n ∧ f t' = some m ∧ Widened.CutAt t t' n m

theorem tolerant_exactly {x : List Char} (hx : Blankless x) : (exactly x).Tolerant := by
  intro t t' h
  by_cases hstarts : x <+: t
  · have hstarts' := (h.prefix_iff hx).mpr hstarts
    refine .inr ⟨x.length, x.length, exactly_eq_some_iff.mpr ⟨hstarts, rfl⟩,
      exactly_eq_some_iff.mpr ⟨hstarts', rfl⟩, ?_⟩
    obtain ⟨u, rfl⟩ := hstarts
    obtain ⟨u', rfl, hu⟩ := h.of_blankless hx
    exact Widened.cutAt_append (.refl x) hu
  · exact .inl ⟨exactly_eq_none_iff.mpr hstarts,
      exactly_eq_none_iff.mpr fun hstarts' => hstarts ((h.prefix_iff hx).mp hstarts')⟩

theorem tolerant_blanks : blanks.Tolerant := by
  intro t t' h
  refine .inr ⟨_, _, rfl, rfl, ?_⟩
  rw [Widened.CutAt, take_length_takeWhile, take_length_takeWhile, drop_length_takeWhile,
    drop_length_takeWhile]
  induction h with
  | nil => exact ⟨.nil, .nil⟩
  | keep c rest ih =>
    by_cases hc : isBlank c
    · rw [List.takeWhile_cons_of_pos hc, List.takeWhile_cons_of_pos hc,
        List.dropWhile_cons_of_pos hc, List.dropWhile_cons_of_pos hc]
      exact ⟨.keep c ih.1, ih.2⟩
    · rw [List.takeWhile_cons_of_neg hc, List.takeWhile_cons_of_neg hc,
        List.dropWhile_cons_of_neg hc, List.dropWhile_cons_of_neg hc]
      exact ⟨.nil, .keep c rest⟩
  | line blank rest ih =>
    have hc : isBlank '\n' := by decide
    rw [List.takeWhile_cons_of_pos hc, List.takeWhile_cons_of_pos hc,
      List.dropWhile_cons_of_pos hc, List.dropWhile_cons_of_pos hc,
      List.takeWhile_append_of_pos blank, List.dropWhile_append_of_pos blank]
    exact ⟨.line blank ih.1, ih.2⟩

theorem Tolerant.andThen {f g : Front} (hf : f.Tolerant) (hg : g.Tolerant) :
    (f.andThen g).Tolerant := by
  intro t t' h
  obtain ⟨hn, hm⟩ | ⟨n, m, hn, hm, hcut⟩ := hf t t' h
  · exact .inl ⟨by rw [Front.andThen, hn, Option.bind_none],
      by rw [Front.andThen, hm, Option.bind_none]⟩
  · rw [Front.andThen, Front.andThen, hn, hm, Option.bind_some, Option.bind_some]
    obtain ⟨hi, hj⟩ | ⟨i, j, hi, hj, hcut'⟩ := hg _ _ hcut.2
    · exact .inl ⟨by rw [hi, Option.map_none], by rw [hj, Option.map_none]⟩
    · exact .inr ⟨n + i, m + j, by rw [hi, Option.map_some], by rw [hj, Option.map_some],
        hcut.add hcut'⟩

section Spaced

variable {x : List Char} (hx : Blankless x) (hne : x ≠ [])

include hx hne

theorem spaced_eq_andThen : spaced x = blanks.andThen (exactly x) := by
  funext t
  induction t with
  | nil => simp [spaced, Front.andThen, blanks, run]
  | cons c r ih =>
    by_cases hc : isBlank c
    · rw [spaced_cons_of_isBlank hx hne hc, ih]
      simp only [Front.andThen, blanks, run, List.takeWhile_cons_of_pos hc, List.length_cons,
        List.drop_succ_cons, Option.bind_some, Option.map_map]
      refine congrArg (Option.map · _) (funext fun n => ?_)
      dsimp only [Function.comp]
      omega
    · simp [spaced, Front.andThen, blanks, run, hc]

theorem tolerant_spaced : (spaced x).Tolerant := by
  rw [spaced_eq_andThen hx hne]
  exact tolerant_blanks.andThen (tolerant_exactly hx)

theorem spaced_blanks_append {gap : List Char} (hgap : ∀ g ∈ gap, isBlank g) (y : List Char) :
    spaced x (gap ++ y) = (spaced x y).map (gap.length + ·) := by
  induction gap with
  | nil => simp
  | cons g gap ih =>
    obtain ⟨hg, hgap⟩ := List.forall_mem_cons.mp hgap
    rw [List.cons_append, spaced_cons_of_isBlank hx hne hg, ih hgap, Option.map_map]
    refine congrArg (Option.map · _) (funext fun n => ?_)
    simp only [Function.comp, List.length_cons]
    omega

/-- White space that no match follows is passed over. -/
theorem find?_spaced_blanks_append {gap : List Char} (hgap : ∀ g ∈ gap, isBlank g) {y : List Char}
    (h : spaced x y = none) :
    (spaced x).find? (gap ++ y) = ((spaced x).find? y).map fun (i, n) => (gap.length + i, n) := by
  induction gap with
  | nil => simp
  | cons g gap ih =>
    have hnone : spaced x (g :: (gap ++ y)) = none := by
      rw [← List.cons_append, spaced_blanks_append hx hne hgap, h, Option.map_none]
    rw [List.cons_append, find?, hnone, ih (List.forall_mem_cons.mp hgap).2, Option.map_map]
    refine congrArg (Option.map · _) (funext fun p => ?_)
    simp only [Function.comp, List.length_cons]
    exact congrArg (·, p.2) (by omega)

/-- The leftmost matches correspond. -/
theorem find?_spaced_widened {t t' : List Char} (h : Widened t t') :
    ((spaced x).find? t = none ∧ (spaced x).find? t' = none) ∨
      ∃ i n j m, (spaced x).find? t = some (i, n) ∧ (spaced x).find? t' = some (j, m) ∧
        Widened.CutAt t t' i j := by
  have htolerant := tolerant_spaced hx hne
  -- Where a match begins at once, nothing comes before it in either text.
  have hhere : ∀ {t t' : List Char} {n m : Nat}, Widened t t' → spaced x t = some n →
      spaced x t' = some m → ∃ i n j m, (spaced x).find? t = some (i, n) ∧
        (spaced x).find? t' = some (j, m) ∧ Widened.CutAt t t' i j := fun h hn hm =>
    ⟨0, _, 0, _, find?_eq_some_zero_iff.mpr hn, find?_eq_some_zero_iff.mpr hm, .nil, h⟩
  induction h with
  | nil =>
    have hnil : spaced x [] = none := by simp [spaced, exactly, hne]
    exact .inl ⟨by rw [find?, hnil, Option.map_none], by rw [find?, hnil, Option.map_none]⟩
  | @keep c r r' rest ih =>
    obtain ⟨hn, hm⟩ | ⟨n, m, hn, hm, _⟩ := htolerant _ _ (.keep c rest)
    · rw [find?, find?, hn, hm]
      obtain ⟨hi, hj⟩ | ⟨i, n, j, m, hi, hj, hcut⟩ := ih
      · exact .inl ⟨by rw [hi, Option.map_none], by rw [hj, Option.map_none]⟩
      · refine .inr ⟨i + 1, n, j + 1, m, by rw [hi, Option.map_some], by rw [hj, Option.map_some],
          ?_, hcut.2⟩
        exact .keep c hcut.1
    · exact .inr (hhere (.keep c rest) hn hm)
  | @line gap r r' blank rest ih =>
    obtain ⟨hn, hm⟩ | ⟨n, m, hn, hm, _⟩ := htolerant _ _ (.line blank rest)
    · have hnone : spaced x r' = none := by
        have hblank : ∀ g ∈ '\n' :: gap, isBlank g := List.forall_mem_cons.mpr ⟨by decide, blank⟩
        rw [← List.cons_append, spaced_blanks_append hx hne hblank] at hm
        exact Option.map_eq_none_iff.mp hm
      rw [find?, find?, hn, hm, find?_spaced_blanks_append hx hne blank hnone]
      obtain ⟨hi, hj⟩ | ⟨i, n, j, m, hi, hj, hcut⟩ := ih
      · exact .inl ⟨by rw [hi, Option.map_none], by rw [hj, Option.map_none, Option.map_none]⟩
      · refine .inr ⟨i + 1, n, gap.length + j + 1, m, by rw [hi, Option.map_some],
          by rw [hj, Option.map_some, Option.map_some], ?_⟩
        rw [Widened.CutAt, List.take_succ_cons, List.take_succ_cons, List.drop_succ_cons,
          List.drop_succ_cons, List.take_length_add_append, List.drop_length_add_append]
        exact ⟨.line blank hcut.1, hcut.2⟩
    · exact .inr (hhere (.line blank rest) hn hm)

end Spaced

end Front

section Indenting

variable {indent : List Char} (hindent : ∀ g ∈ indent, isBlank g)

include hindent

theorem exists_indentLine (l : List Char) :
    ∃ gap, (∀ g ∈ gap, isBlank g) ∧ Escape.indentLine indent l = gap ++ l := by
  unfold Escape.indentLine
  split
  · rename_i hempty
    exact ⟨[], nofun, (List.isEmpty_iff.mp hempty).symm⟩
  · exact ⟨indent, hindent, rfl⟩

omit hindent in
theorem intercalate_append_cons (sep gap l : List Char) (ls : List (List Char)) :
    sep.intercalate ((gap ++ l) :: ls) = gap ++ sep.intercalate (l :: ls) := by
  cases ls with
  | nil => simp [List.intercalate]
  | cons l' ls => simp [List.intercalate]

/-- Lines but the first are indented behind the line ends before them. -/
theorem widened_intercalate_indentLine (l : List Char) (ls : List (List Char)) :
    Widened (['\n'].intercalate (l :: ls))
      (['\n'].intercalate (l :: ls.map (Escape.indentLine indent))) := by
  induction ls generalizing l with
  | nil => exact .refl _
  | cons l' ls ih =>
    obtain ⟨gap, hgap, hline⟩ := exists_indentLine hindent l'
    have hrest : Widened ('\n' :: ['\n'].intercalate (l' :: ls))
        ('\n' :: (gap ++ ['\n'].intercalate (l' :: ls.map (Escape.indentLine indent)))) :=
      .line hgap (ih l')
    rw [List.map_cons, intercalate_cons _ l (List.cons_ne_nil _ _),
      intercalate_cons _ l (List.cons_ne_nil _ _), hline, intercalate_append_cons]
    exact (Widened.refl l).append hrest

omit hindent in
/-- An indented partial is white space and then the partial, widened. -/
theorem exists_widened_indentPartial (text indentation : String) (lineHasContent : Bool) :
    ∃ gap t, (Escape.indentPartial text indentation lineHasContent).toList = gap ++ t ∧
      (∀ g ∈ gap, isBlank g) ∧ Widened text.toList t := by
  have hindent : ∀ g ∈ indentation.toList.filter fun c => c = ' ' || c = '\t', isBlank g := by
    intro g hg
    have hcases : g = ' ' ∨ g = '\t' := by simpa using (List.mem_filter.mp hg).2
    obtain rfl | rfl := hcases <;> decide
  obtain ⟨l, ls, hlines⟩ := List.exists_cons_of_ne_nil (splitOn_ne_nil '\n' text.toList)
  have hwidened := widened_intercalate_indentLine hindent l ls
  rw [← hlines, intercalate_splitOn] at hwidened
  obtain ⟨gap, hgap, hfirst⟩ := exists_indentLine hindent l
  rw [Escape.indentPartial, String.toList_ofList, hlines, Escape.indentLines]
  split
  · exact ⟨[], _, rfl, nofun, hwidened⟩
  · rw [hfirst, intercalate_append_cons]
    exact ⟨gap, _, rfl, hgap, hwidened⟩

end Indenting

end PostalAddress.Text
