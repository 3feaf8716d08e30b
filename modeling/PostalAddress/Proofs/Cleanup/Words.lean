import PostalAddress.Proofs.Cleanup.Passes
import PostalAddress.Proofs.Text.Trimming

/-!
# The words of a cleaned text

Commas and white space divide a text into words. An edit puts separators in the place of others, or
drops what is no word at an end of the text, so it keeps the words as they are; the removal of
repeated lines and parts keeps each word at the place where it came first. Cleaning therefore
neither loses a word nor makes one, however many passes it takes.
-/

namespace PostalAddress.Cleanup

open Text

/-- The words of a text, without closing braces at their ends; a hyphen alone is no word. -/
def bareWords (t : List Char) : List (List Char) :=
  ((t.splitOnP isLeading).map (dropTrailing (· = '\x7d'))).filter fun w => w ≠ [] ∧ w ≠ ['-']

section Separators

@[simp] theorem bareWords_nil : bareWords [] = [] := by decide

/-- Words end at a separator; what follows about words comes from this equation. -/
theorem bareWords_append_cons {c : Char} (hc : isLeading c) (s t : List Char) :
    bareWords (s ++ c :: t) = bareWords s ++ bareWords t := by
  rw [bareWords, List.splitOnP_append_cons s t hc, List.map_append, List.filter_append]
  rfl

theorem bareWords_separators_append {m : List Char} (hm : ∀ c ∈ m, isLeading c) (t : List Char) :
    bareWords (m ++ t) = bareWords t := by
  induction m with
  | nil => rfl
  | cons c m ih =>
    obtain ⟨hc, hm⟩ := List.forall_mem_cons.mp hm
    have hcons := bareWords_append_cons hc [] (m ++ t)
    rw [List.nil_append, bareWords_nil, List.nil_append] at hcons
    rw [List.cons_append, hcons, ih hm]

theorem bareWords_append_separators {m : List Char} (hne : m ≠ []) (hm : ∀ c ∈ m, isLeading c)
    (s t : List Char) : bareWords (s ++ (m ++ t)) = bareWords s ++ bareWords t := by
  obtain ⟨c, m, rfl⟩ := List.exists_cons_of_ne_nil hne
  obtain ⟨hc, hm⟩ := List.forall_mem_cons.mp hm
  rw [List.cons_append, bareWords_append_cons hc, bareWords_separators_append hm]

end Separators

section Ends

theorem splitOnP_concat {c : Char} {p : Char → Bool} (hc : p c = false) (t : List Char) :
    ∃ ws w, t.splitOnP p = ws ++ [w] ∧ (t ++ [c]).splitOnP p = ws ++ [w ++ [c]] := by
  induction t with
  | nil => exact ⟨[], [], rfl, by simp [List.splitOnP_cons_eq_if_modifyHead, hc]⟩
  | cons d t ih =>
    obtain ⟨ws, w, ht, htc⟩ := ih
    rw [List.cons_append, List.splitOnP_cons_eq_if_modifyHead, List.splitOnP_cons_eq_if_modifyHead,
      ht, htc]
    split
    · exact ⟨[] :: ws, w, rfl, rfl⟩
    · cases ws with
      | nil => exact ⟨[], d :: w, rfl, rfl⟩
      | cons v ws => exact ⟨(d :: v) :: ws, w, rfl, rfl⟩

theorem bareWords_concat {c : Char} (hc : isTrailing c) (t : List Char) :
    bareWords (t ++ [c]) = bareWords t := by
  by_cases hsep : isLeading c
  · rw [bareWords_append_cons hsep, bareWords_nil, List.append_nil]
  · have hbrace : c = '\x7d' := by
      simp only [isTrailing, isLeading, Bool.or_eq_true, decide_eq_true_eq] at hc hsep
      tauto
    obtain ⟨ws, w, ht, htc⟩ := splitOnP_concat (Bool.eq_false_iff.mpr hsep) t
    have hw : dropTrailing (· = '\x7d') (w ++ [c]) = dropTrailing (· = '\x7d') w :=
      dropTrailing_append (by simp [hbrace])
    rw [bareWords, bareWords, ht, htc, List.map_append, List.map_append, List.map_singleton, hw,
      List.map_singleton]

theorem bareWords_append_trailing {u : List Char} (hu : ∀ c ∈ u, isTrailing c) (t : List Char) :
    bareWords (t ++ u) = bareWords t := by
  induction u generalizing t with
  | nil => rw [List.append_nil]
  | cons c u ih =>
    obtain ⟨hc, hu⟩ := List.forall_mem_cons.mp hu
    rw [← List.singleton_append, ← List.append_assoc, ih hu, bareWords_concat hc]

theorem bareWords_dropTrailing {p : Char → Bool} (hp : ∀ c, p c → isTrailing c) (t : List Char) :
    bareWords (dropTrailing p t) = bareWords t := by
  have ht : dropTrailing p t ++ t.rtakeWhile p = t := List.rdropWhile_append_rtakeWhile
  have hwords := bareWords_append_trailing (u := t.rtakeWhile p)
    (fun c hc => hp c (List.mem_rtakeWhile_imp hc)) (dropTrailing p t)
  rw [← hwords, ht]

theorem bareWords_dropWhile {p : Char → Bool} (hp : ∀ c, p c → isLeading c) (t : List Char) :
    bareWords (t.dropWhile p) = bareWords t := by
  have hwords := bareWords_separators_append (m := t.takeWhile p)
    (fun c hc => hp c (List.mem_takeWhile_imp hc)) (t.dropWhile p)
  rw [← hwords, List.takeWhile_append_dropWhile]

theorem isLeading_of_isBlank {c : Char} (h : isBlank c) : isLeading c := by
  simp [isLeading, h]

theorem isTrailing_of_isBlank {c : Char} (h : isBlank c) : isTrailing c := by
  simp [isTrailing, h]

/-- White space alone has no words. -/
theorem bareWords_of_isBlank {t : List Char} (h : ∀ c ∈ t, isBlank c) : bareWords t = [] := by
  have hwords := bareWords_append_trailing (fun c hc => isTrailing_of_isBlank (h c hc)) []
  rwa [List.nil_append, bareWords_nil] at hwords

theorem exists_not_isBlank_of_mem_bareWords {t w : List Char} (hw : w ∈ bareWords t) :
    ∃ c ∈ t, isBlank c = false := by
  by_contra hblank
  have hall : ∀ c ∈ t, isBlank c := by
    intro c hc
    by_contra hcblank
    exact hblank ⟨c, hc, Bool.eq_false_iff.mpr hcblank⟩
  rw [bareWords_of_isBlank hall] at hw
  cases hw

theorem bareWords_trim (t : List Char) : bareWords (trim t) = bareWords t := by
  rw [trim, bareWords_dropTrailing fun _ => isTrailing_of_isBlank]
  exact bareWords_dropWhile (fun _ => isLeading_of_isBlank) t

theorem bareWords_dropHyphen (t : List Char) : bareWords (dropHyphen t) = bareWords t := by
  unfold dropHyphen
  split
  · rename_i r
    have hspace := bareWords_append_cons (c := ' ') (by decide) ['-'] r
    have hhyphen : bareWords ['-'] = [] := by decide
    rw [hhyphen, List.nil_append] at hspace
    exact hspace.symm
  · rfl

end Ends

section Replacing

/-- A front that matches separators only. -/
def Separating (f : Front) : Prop := ∀ t n, f t = some n → ∀ c ∈ t.take n, isLeading c

/-- Separators in the place of others leave the words as they are. -/
theorem bareWords_replaceAll {f : Front} (hf : Separating f) {new : List Char} (hne : new ≠ [])
    (hnew : new.all isLeading) (t : List Char) :
    bareWords (f.replaceAll new t) = bareWords t := by
  obtain hself | ⟨s, c, r, n, rfl, hn, hreplaced⟩ := Front.replaceAll_eq_self_or f new t
  · rw [hself]
  · have hrest := bareWords_replaceAll hf hne hnew (r.drop n)
    have hmatch : c :: r = (c :: r).take (n + 1) ++ r.drop n :=
      (List.take_append_drop (n + 1) (c :: r)).symm
    rw [hreplaced, bareWords_append_separators hne (List.all_eq_true.mp hnew), hrest, hmatch,
      bareWords_append_separators (by simp) (hf _ _ hn)]
termination_by t.length
decreasing_by
  subst_vars
  simp only [List.length_append, List.length_cons, List.length_drop]
  omega

theorem isLeading_of_isGap {c : Char} (h : isGap c) : isLeading c := by
  simp only [isGap, Bool.or_eq_true, decide_eq_true_eq] at h
  obtain rfl | rfl := h <;> decide

theorem separating_exactly {x : List Char} (h : x.all isLeading) :
    Separating (Front.exactly x) := by
  intro t n hn
  rw [take_exactly hn]
  exact List.all_eq_true.mp h

theorem separating_atLeast {p : Char → Bool} (hp : ∀ c, p c → isLeading c) (least : Nat) :
    Separating (atLeast least p) :=
  fun _ _ hn c hc => hp c ((take_atLeast hn).2 c hc)

theorem separating_commaPair : Separating commaPair := by
  intro t n hn c hc
  obtain ⟨s, hs, hblank⟩ := take_commaPair hn
  rw [hs] at hc
  simp only [List.mem_cons, List.mem_append, List.not_mem_nil, or_false] at hc
  obtain rfl | hc | rfl := hc
  · decide
  · exact isLeading_of_isBlank (hblank c hc)
  · decide

theorem separating_gapCommaGap : Separating gapCommaGap := by
  intro t n hn c hc
  obtain ⟨a, b, hab, _, _, hgap⟩ := take_gapCommaGap hn
  rw [hab] at hc
  simp only [List.mem_append, List.mem_cons] at hc
  obtain hc | rfl | hc := hc
  · exact isLeading_of_isGap (hgap c (List.mem_append_left b hc))
  · decide
  · exact isLeading_of_isGap (hgap c (List.mem_append_right a hc))

theorem separating_gapNewline : Separating gapNewline := by
  intro t n hn c hc
  obtain ⟨d, hd, hgap⟩ := take_gapNewline hn
  rw [hd] at hc
  simp only [List.mem_cons, List.not_mem_nil, or_false] at hc
  obtain rfl | rfl := hc
  · exact isLeading_of_isGap hgap
  · decide

theorem separating_newlineGaps : Separating newlineGaps := by
  intro t n hn c hc
  obtain ⟨a, ha, _, hgap⟩ := take_newlineGaps hn
  rw [ha] at hc
  obtain rfl | hc := List.mem_cons.mp hc
  · decide
  · exact isLeading_of_isGap (hgap c hc)

theorem bareWords_of_mem_edits {edit : List Char → List Char} (h : edit ∈ edits) (t : List Char) :
    bareWords (edit t) = bareWords t := by
  have hcomma : ∀ c, decide (c = ',') → isLeading c := by simp [isLeading]
  have hnewline : ∀ c, decide (c = '\n') → isLeading c := by
    intro c hc
    rw [of_decide_eq_true hc]
    decide
  simp only [edits, List.mem_cons, List.not_mem_nil, or_false] at h
  rcases h with rfl | rfl | rfl | rfl | rfl | rfl | rfl | rfl | rfl | rfl | rfl | rfl
  · exact bareWords_dropTrailing (fun _ => id) t
  · exact bareWords_dropWhile (fun _ => id) t
  · exact bareWords_dropHyphen t
  · exact bareWords_replaceAll separating_commaPair (by simp) (by decide) t
  · exact bareWords_replaceAll separating_gapCommaGap (by simp) (by decide) t
  · exact bareWords_replaceAll (separating_atLeast (fun _ => isLeading_of_isGap) 2) (by simp)
      (by decide) t
  · exact bareWords_replaceAll separating_gapNewline (by simp) (by decide) t
  · exact bareWords_replaceAll (separating_exactly (by decide)) (by simp) (by decide) t
  · exact bareWords_replaceAll (separating_atLeast hcomma 2) (by simp) (by decide) t
  · exact bareWords_replaceAll (separating_exactly (by decide)) (by simp) (by decide) t
  · exact bareWords_replaceAll separating_newlineGaps (by simp) (by decide) t
  · exact bareWords_replaceAll (separating_atLeast hnewline 2) (by simp) (by decide) t

end Replacing

section FirstOccurrences

variable {α : Type} [BEq α] [LawfulBEq α]

theorem eraseDups_filter (p : α → Bool) (as : List α) :
    (as.filter p).eraseDups = as.eraseDups.filter p := by
  induction hlen : as.length using Nat.strong_induction_on generalizing as with
  | h n ih =>
    subst hlen
    cases as with
    | nil => rfl
    | cons a as =>
      have hlt : (as.filter fun b => !b == a).length < (a :: as).length :=
        Nat.lt_succ_of_le (List.length_filter_le _ as)
      have hothers := ih _ hlt (as.filter fun b => !b == a) rfl
      rw [List.eraseDups_cons]
      by_cases ha : p a
      · rw [List.filter_cons_of_pos ha, List.filter_cons_of_pos ha, List.eraseDups_cons, ← hothers,
          List.filter_filter, List.filter_filter]
        simp only [Bool.and_comm]
      · rw [List.filter_cons_of_neg ha, List.filter_cons_of_neg ha, ← hothers, List.filter_filter]
        refine congrArg List.eraseDups (List.filter_congr fun b _ => ?_)
        by_cases hb : b = a
        · simp [hb, ha]
        · simp [hb]

theorem eraseDups_append_congr {as as' bs bs' : List α} (ha : as.eraseDups = as'.eraseDups)
    (hb : bs.eraseDups = bs'.eraseDups) : (as ++ bs).eraseDups = (as' ++ bs').eraseDups := by
  have helem : ∀ b, as.elem b = as'.elem b := by
    intro b
    rw [Bool.eq_iff_iff, List.elem_iff, List.elem_iff, ← List.mem_eraseDups, ha, List.mem_eraseDups]
  rw [List.eraseDups_append, List.eraseDups_append, List.removeAll, List.removeAll,
    eraseDups_filter, eraseDups_filter, ha, hb]
  simp only [helem]

theorem eraseDups_append_of_subset {as bs : List α} (h : bs ⊆ as) :
    (as ++ bs).eraseDups = as.eraseDups := by
  have hnone : bs.removeAll as = [] := by
    rw [List.removeAll, List.filter_eq_nil_iff]
    intro b hb
    simp [h hb]
  rw [List.eraseDups_append, hnone, List.eraseDups_nil, List.append_nil]

end FirstOccurrences

section Repetitions

/-- A text keeps its words, each at the place where it comes first. -/
def KeepsFirsts (f : List Char → List Char) : Prop :=
  ∀ t, (bareWords (f t)).eraseDups = (bareWords t).eraseDups

theorem KeepsFirsts.comp {f g : List Char → List Char} (hg : KeepsFirsts g) (hf : KeepsFirsts f) :
    KeepsFirsts fun t => g (f t) :=
  fun t => (hg (f t)).trans (hf t)

theorem KeepsFirsts.iterate {f : List Char → List Char} (hf : KeepsFirsts f) (n : Nat) :
    KeepsFirsts f^[n] := by
  induction n with
  | zero => exact fun _ => rfl
  | succ n ih => exact ih.comp hf

theorem KeepsFirsts.mem_iff {f : List Char → List Char} (hf : KeepsFirsts f) {t w : List Char} :
    w ∈ bareWords (f t) ↔ w ∈ bareWords t := by
  rw [← List.mem_eraseDups, hf t, List.mem_eraseDups]

theorem keepsFirsts_foldl {β : Type} (op : List Char → β → List Char) (bs : List β)
    (h : ∀ b ∈ bs, KeepsFirsts fun t => op t b) : KeepsFirsts fun t => bs.foldl op t := by
  induction bs with
  | nil => exact fun _ => rfl
  | cons b bs ih =>
    obtain ⟨hb, hbs⟩ := List.forall_mem_cons.mp h
    exact (ih hbs).comp hb

theorem bareWords_intercalate {sep : List Char} (hne : sep ≠ []) (hsep : sep.all isLeading)
    (ps : List (List Char)) : bareWords (sep.intercalate ps) = ps.flatMap bareWords := by
  induction ps with
  | nil => rfl
  | cons p ps ih =>
    by_cases hnil : ps = []
    · subst hnil
      simp [List.intercalate]
    · rw [intercalate_cons sep p hnil, bareWords_append_separators hne (List.all_eq_true.mp hsep),
        ih, List.flatMap_cons]

theorem mem_bareWords_intercalate {w sep : List Char} (hne : sep ≠ [])
    (hsep : sep.all isLeading) (ps : List (List Char)) :
    w ∈ bareWords (sep.intercalate ps) ↔ ∃ p ∈ ps, w ∈ bareWords p := by
  rw [bareWords_intercalate hne hsep, List.mem_flatMap]

/-- A part that came before has its words among the words `ws` before. -/
theorem eraseDups_flatMap_distinct {f : List Char → List Char} (hf : KeepsFirsts f)
    (seen ps ws : List (List Char)) (hseen : ∀ p ∈ seen, bareWords p ⊆ ws) :
    (ws ++ (distinct f seen ps).flatMap bareWords).eraseDups =
      (ws ++ ps.flatMap bareWords).eraseDups := by
  fun_induction distinct f seen ps generalizing ws with
  | case1 => rfl
  | case2 seen p ps q _ ih =>
    have hwords : bareWords q = bareWords p := bareWords_trim p
    have hrest := ih (ws ++ bareWords p) fun p' hp' =>
      List.Subset.trans (hseen p' hp') (List.subset_append_left _ _)
    rwa [List.flatMap_cons, List.flatMap_cons, hwords, ← List.append_assoc, ← List.append_assoc]
  | case3 seen p ps q _ hmem ih =>
    have hwords : bareWords q = bareWords p := bareWords_trim p
    have hsub : bareWords p ⊆ ws := hwords ▸ hseen q (List.contains_iff_mem.mp hmem)
    rw [ih ws hseen, List.flatMap_cons, ← List.append_assoc]
    exact eraseDups_append_congr (eraseDups_append_of_subset hsub).symm rfl
  | case4 seen p ps q _ _ ih =>
    have hwords : (bareWords (f q)).eraseDups = (bareWords p).eraseDups := by
      rw [hf q, ← bareWords_trim p]
    have hrest := ih (ws ++ bareWords (f q)) <| List.forall_mem_cons.mpr
      ⟨fun w hw => List.mem_append_right _ (hf.mem_iff.mpr hw), fun p' hp' =>
        List.Subset.trans (hseen p' hp') (List.subset_append_left _ _)⟩
    rw [List.flatMap_cons, List.flatMap_cons, ← List.append_assoc, hrest, List.append_assoc]
    exact eraseDups_append_congr rfl (eraseDups_append_congr hwords rfl)

theorem keepsFirsts_distinct {f : List Char → List Char} (hf : KeepsFirsts f) {sep : List Char}
    (hne : sep ≠ []) (hsep : sep.all isLeading) {cut : List Char → List (List Char)}
    (hjoin : ∀ t, sep.intercalate (cut t) = t) :
    KeepsFirsts fun t => sep.intercalate (distinct f [] (cut t)) := by
  intro t
  have hdistinct := eraseDups_flatMap_distinct hf [] (cut t) [] nofun
  rw [List.nil_append, List.nil_append, ← bareWords_intercalate hne hsep,
    ← bareWords_intercalate hne hsep, hjoin] at hdistinct
  exact hdistinct

theorem keepsFirsts_dedupeLine : KeepsFirsts dedupeLine :=
  keepsFirsts_distinct (fun _ => rfl) (by decide) (by decide)
    (Front.intercalate_split_exactly separator)

theorem keepsFirsts_dedupe : KeepsFirsts dedupe :=
  keepsFirsts_distinct keepsFirsts_dedupeLine (by decide) (by decide) (intercalate_splitOn '\n')

theorem keepsFirsts_edits :
    KeepsFirsts fun t => edits.foldl (fun t edit => dedupe (edit t)) t :=
  keepsFirsts_foldl _ _ fun _ hedit =>
    keepsFirsts_dedupe.comp fun t => by rw [bareWords_of_mem_edits hedit t]

theorem keepsFirsts_cleanOnce : KeepsFirsts cleanOnce := by
  intro t
  rw [cleanOnce, bareWords_trim]
  exact keepsFirsts_edits t

/-- The words of a cleaned text are those of the text. -/
theorem mem_bareWords_cleanup {w : List Char} (s : String) :
    w ∈ bareWords (cleanup s).toList ↔ w ∈ bareWords s.toList := by
  rw [toList_cleanup]
  exact (keepsFirsts_cleanOnce.iterate passes).mem_iff

/-- Cleaning loses no word and makes none, and the words come first in the same order. -/
theorem eraseDups_bareWords_cleanup (s : String) :
    (bareWords (cleanup s).toList).eraseDups = (bareWords s.toList).eraseDups := by
  rw [toList_cleanup]
  exact keepsFirsts_cleanOnce.iterate passes s.toList

/-- A word of a line that is dropped keeps its place. -/
example : (bareWords "Bern, Ort\x7d\n- 3011 Bern,\nOrt\x7d".toList).eraseDups =
    ["Bern".toList, "Ort".toList, "3011".toList] := by decide

end Repetitions

end PostalAddress.Cleanup
