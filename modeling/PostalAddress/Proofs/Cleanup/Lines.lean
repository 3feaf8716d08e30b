import Mathlib.Data.List.Infix
import PostalAddress.Proofs.Cleanup.Passes
import PostalAddress.Proofs.Text.Locality
import PostalAddress.Proofs.Text.Trimming

/-!
# The lines of a cleaned text

A pass leaves no line that is empty or has white space at an end, however many passes follow. The
removal of repeated parts may leave a separator at the end of a line, where a part that was empty
has become the last. The next removal trims the line, and what it trims is then no empty part, so
after two removals in a row every line is trimmed.
-/

namespace PostalAddress.Cleanup

open Text

/-- Every line has something in it, and no white space at an end. -/
def Tidy (t : List Char) : Prop := ∀ l ∈ splitOn '\n' t, l ≠ [] ∧ Trimmed l

section Parts

/-- A text without a separator in it. -/
def Whole (p : List Char) : Prop := ¬ separator <:+: p

theorem Whole.of_isInfix {p q : List Char} (h : Whole p) (hq : q <:+: p) : Whole q :=
  fun hsep => h (hsep.trans hq)

/-- The separator cannot begin in a part and end after it. -/
theorem exactly_separator_eq_none {c : Char} {r : List Char} (h : Whole (c :: r)) (u : List Char) :
    Front.exactly separator (c :: (r ++ (separator ++ u))) = none := by
  rw [Front.exactly_eq_none_iff]
  intro hpre
  obtain ⟨hc, hr⟩ := List.cons_prefix_cons.mp hpre
  cases r with
  | nil => exact absurd (List.cons_prefix_cons.mp hr).1 (by decide)
  | cons d r =>
    obtain ⟨hd, _⟩ := List.cons_prefix_cons.mp hr
    subst hc hd
    exact h (List.prefix_append separator r).isInfix

theorem split_append_separator {p : List Char} (h : Whole p) (u : List Char) :
    (Front.exactly separator).split (p ++ (separator ++ u)) =
      p :: (Front.exactly separator).split u := by
  induction p with
  | nil => rfl
  | cons c r ih =>
    have hr : Whole r := h.of_isInfix (List.suffix_cons c r).isInfix
    rw [List.cons_append, Front.split, Front.split.go, exactly_separator_eq_none h u]
    exact congrArg (consHead c) (ih hr)

theorem split_whole {p : List Char} (h : Whole p) : (Front.exactly separator).split p = [p] := by
  refine Front.split_eq_singleton fun s hs => ?_
  rw [Front.exactly_eq_none_iff]
  exact fun hpre => h (hpre.isInfix.trans hs.isInfix)

theorem split_intercalate {ps : List (List Char)} (hne : ps ≠ []) (h : ∀ p ∈ ps, Whole p) :
    (Front.exactly separator).split (separator.intercalate ps) = ps := by
  induction ps with
  | nil => exact absurd rfl hne
  | cons p ps ih =>
    obtain ⟨hp, hps⟩ := List.forall_mem_cons.mp h
    by_cases hnil : ps = []
    · subst hnil
      simpa [List.intercalate] using split_whole hp
    · rw [intercalate_cons _ _ hnil, split_append_separator hp, ih hnil hps]

/-- The first part stands at the front, and no part holds a separator. -/
theorem split_go_separator (k : Nat) (t : List Char) :
    ∃ p ps, Front.split.go (Front.exactly separator) k t = p :: ps ∧ p <+: t.drop k ∧
      ∀ q ∈ p :: ps, Whole q := by
  have hnil : Whole [] := fun h => by simpa [separator] using h.length_le
  fun_induction Front.split.go (Front.exactly separator) k t with
  | case1 k => exact ⟨[], [], rfl, List.nil_prefix, by simpa using hnil⟩
  | case2 k c r ih => simpa using ih
  | case3 c r n hn ih =>
    obtain ⟨p, ps, hgo, _, hwhole⟩ := ih
    exact ⟨[], p :: ps, by rw [hgo], List.nil_prefix, List.forall_mem_cons.mpr ⟨hnil, hwhole⟩⟩
  | case4 c r hnone ih =>
    obtain ⟨p, ps, hgo, hpre, hwhole⟩ := ih
    obtain ⟨hp, hps⟩ := List.forall_mem_cons.mp hwhole
    rw [List.drop_zero] at hpre
    have hcp : c :: p <+: c :: r := List.cons_prefix_cons.mpr ⟨rfl, hpre⟩
    refine ⟨c :: p, ps, by rw [hgo]; rfl, hcp, List.forall_mem_cons.mpr ⟨fun hin => ?_, hps⟩⟩
    obtain hin | hin := List.infix_cons_iff.mp hin
    · exact hnone 1 (Front.exactly_eq_some_iff.mpr ⟨hin.trans hcp, rfl⟩)
    · exact hp hin

theorem whole_of_mem_split {t p : List Char} (h : p ∈ (Front.exactly separator).split t) :
    Whole p := by
  obtain ⟨q, qs, hgo, _, hwhole⟩ := split_go_separator 0 t
  rw [Front.split, hgo] at h
  exact hwhole p h

end Parts

section Distinct

/-- What becomes of a part that is kept. -/
def kept (f : List Char → List Char) (p : List Char) : List Char :=
  if isExempt (trim p) then trim p else f (trim p)

theorem kept_id (p : List Char) : kept id p = trim p := by
  unfold kept
  split <;> rfl

variable {f : List Char → List Char} {seen ps : List (List Char)} {x : List Char}

theorem exists_distinct_cons (f : List Char → List Char) (p : List Char) (ps : List (List Char)) :
    ∃ seen, distinct f [] (p :: ps) = kept f p :: distinct f seen ps := by
  simp only [distinct, kept, List.contains_nil, Bool.false_eq_true, if_false]
  split
  · exact ⟨_, rfl⟩
  · exact ⟨_, rfl⟩

theorem mem_distinct (h : x ∈ distinct f seen ps) : ∃ p ∈ ps, x = kept f p := by
  fun_induction distinct f seen ps with
  | case1 => cases h
  | case2 seen p ps q hq ih =>
    obtain rfl | h := List.mem_cons.mp h
    · exact ⟨p, List.mem_cons_self, (if_pos hq).symm⟩
    · obtain ⟨p', hp', hx⟩ := ih h
      exact ⟨p', List.mem_cons_of_mem p hp', hx⟩
  | case3 seen p ps q _ _ ih =>
    obtain ⟨p', hp', hx⟩ := ih h
    exact ⟨p', List.mem_cons_of_mem p hp', hx⟩
  | case4 seen p ps q hq _ ih =>
    obtain rfl | h := List.mem_cons.mp h
    · exact ⟨p, List.mem_cons_self, (if_neg hq).symm⟩
    · obtain ⟨p', hp', hx⟩ := ih h
      exact ⟨p', List.mem_cons_of_mem p hp', hx⟩

theorem mem_dropLast_cons {α : Type} {a b : α} {l : List α} :
    b ∈ (a :: l).dropLast ↔ l ≠ [] ∧ (b = a ∨ b ∈ l.dropLast) := by
  cases l with
  | nil => simp
  | cons c l => simp

theorem mem_dropLast_distinct (h : x ∈ (distinct f seen ps).dropLast) :
    ∃ p ∈ ps.dropLast, x = kept f p := by
  have hnil : ∀ {seen' ps'}, distinct f seen' ps' ≠ [] → ps' ≠ [] := by
    rintro seen' ps' hne rfl
    exact hne rfl
  fun_induction distinct f seen ps with
  | case1 => cases h
  | case2 seen p ps q hq ih =>
    obtain ⟨hne, h⟩ := mem_dropLast_cons.mp h
    obtain rfl | h := h
    · exact ⟨p, mem_dropLast_cons.mpr ⟨hnil hne, .inl rfl⟩, (if_pos hq).symm⟩
    · obtain ⟨p', hp', hx⟩ := ih h
      exact ⟨p', mem_dropLast_cons.mpr ⟨hnil hne, .inr hp'⟩, hx⟩
  | case3 seen p ps q _ _ ih =>
    obtain ⟨p', hp', hx⟩ := ih h
    have hne : ps ≠ [] := List.ne_nil_of_mem (List.mem_of_mem_dropLast hp')
    exact ⟨p', mem_dropLast_cons.mpr ⟨hne, .inr hp'⟩, hx⟩
  | case4 seen p ps q hq _ ih =>
    obtain ⟨hne, h⟩ := mem_dropLast_cons.mp h
    obtain rfl | h := h
    · exact ⟨p, mem_dropLast_cons.mpr ⟨hnil hne, .inl rfl⟩, (if_neg hq).symm⟩
    · obtain ⟨p', hp', hx⟩ := ih h
      exact ⟨p', mem_dropLast_cons.mpr ⟨hnil hne, .inr hp'⟩, hx⟩

theorem trimmed_of_mem_distinct (h : x ∈ distinct id seen ps) : Trimmed x := by
  obtain ⟨p, _, rfl⟩ := mem_distinct h
  rw [kept_id]
  exact trimmed_trim p

/-- Parts that are distinct already stay as they are. -/
theorem distinct_distinct (seen ps : List (List Char)) :
    distinct id seen (distinct id seen ps) = distinct id seen ps := by
  fun_induction distinct id seen ps with
  | case1 => rfl
  | case2 seen p ps q hq ih => rw [distinct, trim_trim, if_pos hq, ih]
  | case3 seen p ps q _ _ ih => exact ih
  | case4 seen p ps q hq hseen ih =>
    rw [id, distinct, trim_trim, if_neg hq, if_neg hseen, ih, id]

theorem not_mem_distinct (h : x ∈ seen) (hx : isExempt x = false) : x ∉ distinct id seen ps := by
  fun_induction distinct id seen ps with
  | case1 => exact List.not_mem_nil
  | case2 seen p ps q hq ih =>
    rintro hmem
    obtain rfl | hmem := List.mem_cons.mp hmem
    · rw [hx] at hq
      cases hq
    · exact ih h hmem
  | case3 seen p ps q _ _ ih => exact ih h
  | case4 seen p ps q _ hseen ih =>
    rintro hmem
    obtain rfl | hmem := List.mem_cons.mp hmem
    · exact hseen (List.contains_iff_mem.mpr h)
    · exact ih (List.mem_cons_of_mem _ h) hmem

/-- Of two parts in the list one is not empty. -/
theorem pairwise_distinct (seen ps : List (List Char)) :
    (distinct id seen ps).Pairwise fun p q => p ≠ [] ∨ q ≠ [] := by
  have hempty : isExempt [] = false := by decide
  fun_induction distinct id seen ps with
  | case1 => exact .nil
  | case2 seen p ps q hq ih =>
    refine List.pairwise_cons.mpr ⟨fun _ _ => .inl ?_, ih⟩
    intro hnil
    rw [hnil, hempty] at hq
    cases hq
  | case3 seen p ps q _ _ ih => exact ih
  | case4 seen p ps q _ _ ih =>
    refine List.pairwise_cons.mpr ⟨fun p' hp' => ?_, ih⟩
    by_cases hnil : q = []
    · right
      rintro rfl
      exact not_mem_distinct (List.mem_cons.mpr (.inl hnil.symm)) hempty hp'
    · exact .inl hnil

end Distinct

section Lines

theorem dedupeLine_intercalate {ps : List (List Char)} (hne : ps ≠ []) (h : ∀ p ∈ ps, Whole p) :
    dedupeLine (separator.intercalate ps) = separator.intercalate (distinct id [] ps) := by
  rw [dedupeLine, split_intercalate hne h]

/-- Parts that a removal leaves. -/
structure Parted (ps : List (List Char)) : Prop where
  ne_nil : ps ≠ []
  trimmed : ∀ p ∈ ps, Trimmed p
  whole : ∀ p ∈ ps, Whole p
  single : ps.Pairwise fun p q => p ≠ [] ∨ q ≠ []
  distinct_eq : distinct id [] ps = ps

theorem parted_distinct (l : List Char) :
    Parted (distinct id [] ((Front.exactly separator).split l)) where
  ne_nil := distinct_ne_nil id (Front.split_ne_nil _ l)
  trimmed p hp := trimmed_of_mem_distinct hp
  whole p hp := by
    obtain ⟨q, hq, rfl⟩ := mem_distinct hp
    rw [kept_id]
    exact (whole_of_mem_split hq).of_isInfix (trim_isInfix q)
  single := pairwise_distinct [] _
  distinct_eq := distinct_distinct [] _

/-- Parts that are trimmed make a trimmed line, unless the last of several is empty. -/
theorem trimmed_intercalate_separator {ps : List (List Char)} {p : List Char}
    (h : ∀ q ∈ ps ++ [p], Trimmed q) (hp : ps = [] ∨ p ≠ []) :
    Trimmed (separator.intercalate (ps ++ [p])) := by
  cases ps with
  | nil => simpa [List.intercalate] using h p (by simp)
  | cons q ps =>
    constructor
    · intro c hc
      by_cases hq : q = []
      · rw [hq, List.cons_append, intercalate_cons _ _ (by simp)] at hc
        obtain rfl := Option.some.inj hc
        decide
      · rw [List.cons_append, head?_intercalate_cons _ hq] at hc
        exact (h q (by simp)).head c hc
    · intro c hc
      rw [getLast?_intercalate_concat _ (hp.resolve_left (by simp))] at hc
      exact (h p (by simp)).last c hc

/-- A line of parts none of which is empty. -/
theorem trimmed_dedupeLine_of_filled {ps : List (List Char)} (hne : ps ≠ [])
    (hwhole : ∀ p ∈ ps, Whole p) (hfilled : ∀ p ∈ ps, p ≠ [] ∧ Trimmed p) :
    Trimmed (dedupeLine (separator.intercalate ps)) ∧
      dedupeLine (separator.intercalate ps) ≠ [] := by
  have hkept : ∀ p ∈ distinct id [] ps, p ≠ [] ∧ Trimmed p := by
    intro p hp
    obtain ⟨q, hq, rfl⟩ := mem_distinct hp
    rw [kept_id, (hfilled q hq).2.trim_eq]
    exact hfilled q hq
  rw [dedupeLine_intercalate hne hwhole]
  refine ⟨trimmed_intercalate hkept, fun hnil => ?_⟩
  obtain ⟨p, qs, hqs⟩ := List.exists_cons_of_ne_nil (distinct_ne_nil id hne)
  have hp := (hkept p (hqs ▸ List.mem_cons_self)).1
  have hhead := head?_intercalate_cons separator hp qs
  rw [← hqs, hnil] at hhead
  exact hp (List.head?_eq_none_iff.mp hhead.symm)

theorem Whole.concat_comma {p : List Char} (h : Whole p) : Whole (p ++ [',']) := by
  intro hin
  obtain ⟨u, hu⟩ | hin := List.infix_concat_iff.mp hin
  · have hlast := congrArg List.getLast? hu
    simp [separator] at hlast
  · exact h hin

theorem trimmed_concat_comma {p : List Char} (h : Trimmed p) (hp : p ≠ []) :
    Trimmed (p ++ [',']) := by
  obtain ⟨c, r, rfl⟩ := List.exists_cons_of_ne_nil hp
  refine ⟨h.head, fun c' hc' => ?_⟩
  rw [List.getLast?_concat] at hc'
  obtain rfl := Option.some.inj hc'
  decide

/-- Two removals in a row leave a trimmed line, and leave something of one with something in it. -/
theorem Parted.trimmed_dedupeLine {ps : List (List Char)} (h : Parted ps) :
    Trimmed (dedupeLine (trim (separator.intercalate ps))) ∧
      (separator.intercalate ps ≠ [] →
        dedupeLine (trim (separator.intercalate ps)) ≠ []) := by
  obtain ⟨qs, q, rfl⟩ := (List.eq_nil_or_concat ps).resolve_left h.ne_nil
  rw [List.concat_eq_append] at h ⊢
  by_cases hlast : qs = [] ∨ q ≠ []
  · have hline := trimmed_intercalate_separator h.trimmed hlast
    rw [hline.trim_eq, dedupeLine_intercalate h.ne_nil h.whole, h.distinct_eq]
    exact ⟨hline, id⟩
  · -- The space before the empty part goes, and the comma before it joins the part before.
    obtain ⟨hqs, rfl⟩ : qs ≠ [] ∧ q = [] := by simpa using hlast
    obtain ⟨rs, r, rfl⟩ := (List.eq_nil_or_concat qs).resolve_left hqs
    rw [List.concat_eq_append] at h ⊢
    have hfilled : ∀ p ∈ rs ++ [r], p ≠ [] := by
      intro p hp
      obtain hp | hp := (List.pairwise_append.mp h.single).2.2 p hp [] (by simp)
      · exact hp
      · exact absurd rfl hp
    have hgood : ∀ p ∈ rs ++ [r ++ [',']], p ≠ [] ∧ Trimmed p := by
      intro p hp
      obtain hp | hp := List.mem_append.mp hp
      · exact ⟨hfilled p (by simp [hp]), h.trimmed p (by simp [hp])⟩
      · obtain rfl := List.mem_singleton.mp hp
        exact ⟨by simp, trimmed_concat_comma (h.trimmed r (by simp)) (hfilled r (by simp))⟩
    have hwhole : ∀ p ∈ rs ++ [r ++ [',']], Whole p := by
      intro p hp
      obtain hp | hp := List.mem_append.mp hp
      · exact h.whole p (by simp [hp])
      · obtain rfl := List.mem_singleton.mp hp
        exact (h.whole r (by simp)).concat_comma
    have hjoin : separator.intercalate (rs ++ [r] ++ [[]]) =
        [] ++ (separator.intercalate (rs ++ [r ++ [',']]) ++ [' ']) := by
      rw [intercalate_concat _ _ (by simp), intercalate_concat_append]
      simp [separator]
    have htrim : trim (separator.intercalate (rs ++ [r] ++ [[]])) =
        separator.intercalate (rs ++ [r ++ [',']]) := by
      rw [hjoin]
      exact trim_append (by simp) (trimmed_intercalate hgood)
        (List.forall_mem_singleton.mpr (by decide))
    rw [htrim]
    have hline := trimmed_dedupeLine_of_filled (by simp) hwhole hgood
    exact ⟨hline.1, fun _ => hline.2⟩

end Lines

section Newlines

theorem mem_takeWhile_newline {c : Char} {r : List Char} (h : c ∈ r.takeWhile (· = '\n')) :
    c = '\n' := by
  simpa using List.mem_takeWhile_imp h

theorem splitOn_drop_subset {n : Nat} {r : List Char} (h : ∀ c ∈ r.take n, c = '\n') :
    splitOn '\n' (r.drop n) ⊆ splitOn '\n' r := by
  induction n generalizing r with
  | zero => exact List.Subset.refl _
  | succ n ih =>
    cases r with
    | nil => exact List.Subset.refl _
    | cons c r =>
      obtain ⟨rfl, hr⟩ := List.forall_mem_cons.mp h
      rw [List.drop_succ_cons, splitOn, if_pos rfl]
      exact List.subset_cons_of_subset _ (ih hr)

/-- A text that begins with an empty line begins with a newline, or has no line besides. -/
theorem ne_nil_of_splitOn_eq_cons {r h : List Char} {ts : List (List Char)}
    (hr : r.head? ≠ some '\n') (hsplit : splitOn '\n' r = h :: ts) (hts : ts ≠ []) : h ≠ [] := by
  cases r with
  | nil =>
    obtain ⟨_, rfl⟩ := List.cons_eq_cons.mp hsplit
    exact absurd rfl hts
  | cons c r =>
    rw [splitOn, if_neg (by simpa using hr)] at hsplit
    obtain ⟨p, ps, hps⟩ := List.exists_cons_of_ne_nil (splitOn_ne_nil '\n' r)
    rw [hps] at hsplit
    obtain ⟨rfl, _⟩ := List.cons_eq_cons.mp hsplit
    exact List.cons_ne_nil c p

/-- Joining newlines drops empty lines, all but a first and a last one. -/
def Thinned (ls ms : List (List Char)) : Prop :=
  ∃ l ls' ms', ls = l :: ls' ∧ ms = l :: ms' ∧ ls' ⊆ ms' ∧ ∀ m ∈ ls'.dropLast, m ≠ []

theorem Thinned.newline {r s : List Char} {ms : List (List Char)}
    (h : Thinned (splitOn '\n' s) (splitOn '\n' r)) (hr : r.head? ≠ some '\n')
    (hms : splitOn '\n' r ⊆ ms) : Thinned (splitOn '\n' ('\n' :: s)) ([] :: ms) := by
  obtain ⟨l, ls, rs, hs, hrs, hsub, hfilled⟩ := h
  refine ⟨[], l :: ls, ms, by rw [splitOn, if_pos rfl, hs], rfl, ?_, ?_⟩
  · rw [hrs] at hms
    exact List.Subset.trans (List.cons_subset_cons l hsub) hms
  · intro m hm
    obtain ⟨hne, rfl | hm⟩ := mem_dropLast_cons.mp hm
    · refine ne_nil_of_splitOn_eq_cons hr hrs ?_
      rintro rfl
      exact hne (List.subset_nil.mp hsub)
    · exact hfilled m hm

theorem Thinned.consHead {ls ms : List (List Char)} (h : Thinned ls ms) (c : Char) :
    Thinned (consHead c ls) (consHead c ms) := by
  obtain ⟨l, ls', ms', rfl, rfl, hsub, hfilled⟩ := h
  exact ⟨c :: l, ls', ms', rfl, rfl, hsub, hfilled⟩

theorem atLeast_newline_eq_some {c : Char} {r : List Char} {n : Nat}
    (h : atLeast 2 (· = '\n') (c :: r) = some (n + 1)) :
    c = '\n' ∧ (r.takeWhile (· = '\n')).length = n := by
  simp only [atLeast, Option.ite_none_right_eq_some, Option.some.injEq] at h
  by_cases hc : c = '\n'
  · rw [List.takeWhile_cons_of_pos (by simpa using hc), List.length_cons] at h
    exact ⟨hc, by omega⟩
  · rw [List.takeWhile_cons_of_neg (by simpa using hc)] at h
    simp at h

theorem head?_ne_of_atLeast_newline {r : List Char}
    (h : ∀ n, atLeast 2 (· = '\n') ('\n' :: r) = some (n + 1) → False) :
    r.head? ≠ some '\n' := by
  cases r with
  | nil => simp
  | cons d r =>
    intro hd
    obtain rfl : d = '\n' := by simpa using hd
    refine h ((r.takeWhile (· = '\n')).length + 1) ?_
    simp [atLeast]

theorem thinned_go (k : Nat) (t : List Char) :
    Thinned (splitOn '\n' (Front.replaceAll.go (atLeast 2 (· = '\n')) ['\n'] k t))
      (splitOn '\n' (t.drop k)) := by
  fun_induction Front.replaceAll.go (atLeast 2 (· = '\n')) ['\n'] k t with
  | case1 k => exact ⟨[], [], [], by simp [splitOn], by simp [splitOn], by simp, by simp⟩
  | case2 k c r ih => simpa using ih
  | case3 c r n hn ih =>
    obtain ⟨rfl, rfl⟩ := atLeast_newline_eq_some hn
    rw [List.drop_zero, splitOn, if_pos rfl]
    refine ih.newline ?_ (splitOn_drop_subset fun c hc => ?_)
    · have hnot := List.head?_dropWhile_not (· = '\n') r
      rw [← drop_length_takeWhile] at hnot
      intro hhead
      rw [hhead] at hnot
      simp at hnot
    · rw [take_length_takeWhile] at hc
      exact mem_takeWhile_newline hc
  | case4 c r hnone ih =>
    rw [List.drop_zero] at ih ⊢
    by_cases hc : c = '\n'
    · subst hc
      rw [splitOn, if_pos rfl]
      exact ih.newline (head?_ne_of_atLeast_newline hnone) (List.Subset.refl _)
    · rw [splitOn, if_neg hc, splitOn, if_neg hc]
      exact ih.consHead c

theorem thinned_replaceAll (t : List Char) :
    Thinned (splitOn '\n' ((atLeast 2 (· = '\n')).replaceAll ['\n'] t)) (splitOn '\n' t) :=
  thinned_go 0 t

end Newlines

section Passes

theorem mem_of_mem_dedupeLine {c : Char} {l : List Char} (h : c ∈ dedupeLine l) :
    c ∈ separator ∨ c ∈ l := by
  obtain h | ⟨p, hp, hc⟩ := mem_intercalate h
  · exact .inl h
  · obtain ⟨q, hq, rfl⟩ := mem_distinct hp
    rw [kept_id] at hc
    have hmem := mem_intercalate_of_mem separator hq ((trim_isInfix q).subset hc)
    rw [Front.intercalate_split_exactly] at hmem
    exact .inr hmem

theorem newline_not_mem_kept {p : List Char} (h : '\n' ∉ p) : '\n' ∉ kept dedupeLine p := by
  have htrim : '\n' ∉ trim p := fun hc => h ((trim_isInfix p).subset hc)
  unfold kept
  split
  · exact htrim
  · intro hc
    obtain hc | hc := mem_of_mem_dedupeLine hc
    · exact absurd hc (by decide)
    · exact htrim hc

theorem splitOn_dedupe (t : List Char) :
    splitOn '\n' (dedupe t) = distinct dedupeLine [] (splitOn '\n' t) := by
  refine splitOn_intercalate (distinct_ne_nil _ (splitOn_ne_nil _ t)) fun l hl => ?_
  obtain ⟨p, hp, rfl⟩ := mem_distinct hl
  exact newline_not_mem_kept (not_mem_of_mem_splitOn hp)

theorem ne_nil_of_isExempt {t : List Char} (h : isExempt t) : t ≠ [] := by
  rintro rfl
  exact absurd h (by decide)

/-- A line that was kept twice. -/
theorem trimmed_kept_kept (p : List Char) :
    Trimmed (kept dedupeLine (kept dedupeLine p)) ∧
      (kept dedupeLine p ≠ [] → kept dedupeLine (kept dedupeLine p) ≠ []) := by
  have hexempt : ∀ {q}, isExempt (trim q) →
      Trimmed (kept dedupeLine q) ∧ kept dedupeLine q ≠ [] := by
    intro q hq
    rw [kept, if_pos hq]
    exact ⟨trimmed_trim q, ne_nil_of_isExempt hq⟩
  by_cases hp : isExempt (trim p)
  · have hkept : kept dedupeLine p = trim p := if_pos hp
    have hagain := hexempt (q := trim p) (by rwa [trim_trim])
    rw [hkept]
    exact ⟨hagain.1, fun _ => hagain.2⟩
  · have hkept : kept dedupeLine p = dedupeLine (trim p) := if_neg hp
    rw [hkept]
    by_cases hq : isExempt (trim (dedupeLine (trim p)))
    · exact ⟨(hexempt hq).1, fun _ => (hexempt hq).2⟩
    · rw [kept, if_neg hq]
      exact (parted_distinct (trim p)).trimmed_dedupeLine

/-- The lines at the end of a pass, before its text is trimmed. -/
theorem exists_lines_of_dedupe (t : List Char) :
    ∃ l ls, splitOn '\n' (dedupe ((atLeast 2 (· = '\n')).replaceAll ['\n'] (dedupe t))) =
      l :: ls ∧ (∀ m ∈ l :: ls, Trimmed m) ∧ ∀ m ∈ ls.dropLast, m ≠ [] := by
  have hline : ∀ p ∈ splitOn '\n' (dedupe t),
      Trimmed (kept dedupeLine p) ∧ (p ≠ [] → kept dedupeLine p ≠ []) := by
    intro p hp
    rw [splitOn_dedupe] at hp
    obtain ⟨q, _, rfl⟩ := mem_distinct hp
    exact trimmed_kept_kept q
  obtain ⟨p, ps, qs, hps, hqs, hsub, hfilled⟩ := thinned_replaceAll (dedupe t)
  rw [hqs] at hline
  obtain ⟨seen, hseen⟩ := exists_distinct_cons dedupeLine p ps
  refine ⟨kept dedupeLine p, distinct dedupeLine seen ps, by rw [splitOn_dedupe, hps, hseen],
    List.forall_mem_cons.mpr ⟨(hline p List.mem_cons_self).1, fun m hm => ?_⟩, fun m hm => ?_⟩
  · obtain ⟨q, hq, rfl⟩ := mem_distinct hm
    exact (hline q (List.mem_cons_of_mem p (hsub hq))).1
  · obtain ⟨q, hq, rfl⟩ := mem_dropLast_distinct hm
    have hmem : q ∈ p :: qs := List.mem_cons_of_mem p (hsub (List.mem_of_mem_dropLast hq))
    exact (hline q hmem).2 (hfilled q hq)

theorem tidy_intercalate {ls : List (List Char)} (hne : ls ≠ [])
    (h : ∀ l ∈ ls, (l ≠ [] ∧ Trimmed l) ∧ '\n' ∉ l) :
    Tidy (trim (['\n'].intercalate ls)) := by
  rw [(trimmed_intercalate fun l hl => (h l hl).1).trim_eq, Tidy,
    splitOn_intercalate hne fun l hl => (h l hl).2]
  exact fun l hl => (h l hl).1

/-- An empty last line goes when the text is trimmed. -/
theorem trim_intercalate_of_dropLast {ls : List (List Char)}
    (hlines : ∀ l ∈ ls, Trimmed l ∧ '\n' ∉ l) (hfilled : ∀ l ∈ ls.dropLast, l ≠ []) :
    trim (['\n'].intercalate ls) = [] ∨ Tidy (trim (['\n'].intercalate ls)) := by
  obtain rfl | ⟨ms, m, rfl⟩ := List.eq_nil_or_concat ls
  · exact .inl rfl
  · rw [List.concat_eq_append] at hlines hfilled ⊢
    rw [List.dropLast_concat] at hfilled
    have hms : ∀ l ∈ ms, (l ≠ [] ∧ Trimmed l) ∧ '\n' ∉ l := fun l hl =>
      ⟨⟨hfilled l hl, (hlines l (by simp [hl])).1⟩, (hlines l (by simp [hl])).2⟩
    by_cases hm : m = []
    · subst hm
      by_cases hnil : ms = []
      · subst hnil
        exact .inl rfl
      · have htrim : trim (['\n'].intercalate (ms ++ [[]])) = trim (['\n'].intercalate ms) := by
          rw [(trimmed_intercalate fun l hl => (hms l hl).1).trim_eq, intercalate_concat _ _ hnil]
          exact trim_append (s := []) (by simp) (trimmed_intercalate fun l hl => (hms l hl).1)
            (List.forall_mem_singleton.mpr (by decide))
        rw [htrim]
        exact .inr (tidy_intercalate hnil hms)
    · refine .inr (tidy_intercalate (by simp) fun l hl => ?_)
      obtain hl | hl := List.mem_append.mp hl
      · exact hms l hl
      · obtain rfl := List.mem_singleton.mp hl
        exact ⟨⟨hm, (hlines l (by simp)).1⟩, (hlines l (by simp)).2⟩

theorem cleanOnce_eq_nil_or_tidy (t : List Char) : cleanOnce t = [] ∨ Tidy (cleanOnce t) := by
  -- The last edit works on a text whose repetitions are gone, and they are removed once more.
  obtain ⟨u, hu⟩ : ∃ u, cleanOnce t =
      trim (dedupe ((atLeast 2 (· = '\n')).replaceAll ['\n'] (dedupe u))) := by
    simp only [cleanOnce, edits, List.foldl_cons, List.foldl_nil]
    exact ⟨_, rfl⟩
  obtain ⟨l, ls, hlines, htrimmed, hfilled⟩ := exists_lines_of_dedupe u
  have hwhole : ∀ m ∈ l :: ls, Trimmed m ∧ '\n' ∉ m := fun m hm =>
    ⟨htrimmed m hm, not_mem_of_mem_splitOn (hlines ▸ hm)⟩
  rw [hu, ← intercalate_splitOn '\n' (dedupe _), hlines]
  by_cases hl : l = []
  · subst hl
    by_cases hnil : ls = []
    · subst hnil
      exact .inl rfl
    · rw [intercalate_cons _ _ hnil]
      exact trim_intercalate_of_dropLast (List.forall_mem_cons.mp hwhole).2 hfilled
  · refine trim_intercalate_of_dropLast hwhole fun m hm => ?_
    obtain ⟨_, rfl | hm⟩ := mem_dropLast_cons.mp hm
    · exact hl
    · exact hfilled m hm

/-- A cleaned text is empty, or each of its lines is filled and trimmed. -/
theorem cleanup_eq_nil_or_tidy (s : String) :
    (cleanup s).toList = [] ∨ Tidy (cleanup s).toList := by
  rw [toList_cleanup, passes, Function.iterate_succ_apply']
  exact cleanOnce_eq_nil_or_tidy _

end Passes

end PostalAddress.Cleanup
