import PostalAddress.Proofs.Cleanup.Passes
import PostalAddress.Proofs.Text.Trimming

/-!
# A pass adds nothing

No edit makes a text longer or puts more commas into it, and what is left of repeated parts is a
sublist of the text. With what a pass takes away, this bounds the passes by the characters and the
commas of the text, and a text that is settled within the passes that are made is the result.
-/

namespace PostalAddress.Cleanup

open Text

/-- Has no more characters than `t`, and no more commas. -/
structure NoLarger (s t : List Char) : Prop where
  length_le : s.length ≤ t.length
  commas_le : s.count ',' ≤ t.count ','

namespace NoLarger

variable {s s' t t' u : List Char}

theorem of_sublist (h : s.Sublist t) : NoLarger s t := ⟨h.length_le, h.count_le ','⟩

theorem trans (h : NoLarger s t) (h' : NoLarger t u) : NoLarger s u :=
  ⟨h.length_le.trans h'.length_le, h.commas_le.trans h'.commas_le⟩

theorem append (h : NoLarger s t) (h' : NoLarger s' t') : NoLarger (s ++ s') (t ++ t') where
  length_le := by
    rw [List.length_append, List.length_append]
    exact Nat.add_le_add h.length_le h'.length_le
  commas_le := by
    rw [List.count_append, List.count_append]
    exact Nat.add_le_add h.commas_le h'.commas_le

theorem singleton {c : Char} (hne : t ≠ []) (hc : c = ',' → ',' ∈ t) : NoLarger [c] t where
  length_le := List.length_pos_iff.mpr hne
  commas_le := by
    by_cases h : c = ','
    · rw [h, List.count_singleton_self]
      exact List.count_pos_iff.mpr (hc h)
    · rw [List.count_singleton, if_neg (by simpa using h)]
      exact Nat.zero_le _

end NoLarger

def Shrinks (f : List Char → List Char) : Prop := ∀ t, NoLarger (f t) t

theorem dropHyphen_sublist (t : List Char) : (dropHyphen t).Sublist t := by
  unfold dropHyphen
  split
  · exact ((List.Sublist.refl _).cons _).cons _
  · exact List.Sublist.refl _

section Replacing

variable {new : List Char} {f : Front}

/-- A replacement that is no larger than any text it stands for. -/
def Replaces (new : List Char) (f : Front) : Prop :=
  ∀ t n, f t = some n → 0 < n → NoLarger new (t.take n)

theorem shrinks_replaceAll (h : Replaces new f) : Shrinks (f.replaceAll new) := by
  have hgo : ∀ k t, NoLarger (Front.replaceAll.go f new k t) (t.drop k) := by
    intro k t
    fun_induction Front.replaceAll.go f new k t with
    | case1 => exact .of_sublist (List.nil_sublist _)
    | case2 k c r ih => exact ih
    | case3 c r n hn ih =>
      have hmatch : NoLarger new ((c :: r).take (n + 1)) := h _ _ hn n.succ_pos
      have happend := hmatch.append ih
      rwa [← List.drop_succ_cons (a := c), List.take_append_drop] at happend
    | case4 c r _ ih => exact (NoLarger.of_sublist (List.Sublist.refl [c])).append ih
  exact hgo 0

theorem replaces_exactly {x : List Char} (h : new.Sublist x) : Replaces new (Front.exactly x) := by
  intro t n hn _
  rw [take_exactly hn]
  exact .of_sublist h

/-- One character in the place of at least two that pass. -/
theorem replaces_atLeast {c : Char} {p : Char → Bool} (hp : c = ',' → ∀ d, p d → d = ',') :
    Replaces [c] (atLeast 2 p) := by
  intro t n hn _
  obtain ⟨hle, hall⟩ := take_atLeast hn
  obtain ⟨d, hd⟩ := List.exists_mem_of_length_pos (Nat.lt_of_lt_of_le Nat.zero_lt_two hle)
  refine .singleton (List.ne_nil_of_mem hd) fun hc => ?_
  rwa [hp hc d (hall d hd)] at hd

theorem replaces_commaPair : Replaces [',', ' '] commaPair := by
  intro t n hn _
  obtain ⟨s, hs, _⟩ := take_commaPair hn
  have hrest : NoLarger [' '] (s ++ [',']) := .singleton (by simp) nofun
  rw [hs]
  exact (NoLarger.of_sublist (List.Sublist.refl [','])).append hrest

theorem replaces_gapCommaGap : Replaces [',', ' '] gapCommaGap := by
  intro t n hn _
  obtain ⟨a, b, hab, ha, _⟩ := take_gapCommaGap hn
  rw [hab]
  refine ⟨?_, ?_⟩
  · have hpos : 0 < a.length := List.length_pos_iff.mpr ha
    simp only [List.length_append, List.length_cons, List.length_nil]
    omega
  · have hone : [',', ' '].count ',' = 1 := rfl
    rw [hone, List.count_append, List.count_cons_self]
    exact Nat.le_add_left_of_le (Nat.le_add_left 1 _)

theorem replaces_gapNewline : Replaces ['\n'] gapNewline := by
  intro t n hn _
  obtain ⟨c, hc, _⟩ := take_gapNewline hn
  rw [hc]
  exact .singleton (List.cons_ne_nil _ _) nofun

theorem replaces_newlineGaps : Replaces ['\n'] newlineGaps := by
  intro t n hn _
  obtain ⟨a, ha, _⟩ := take_newlineGaps hn
  rw [ha]
  exact .singleton (List.cons_ne_nil _ _) nofun

theorem shrinks_of_mem_edits {edit : List Char → List Char} (h : edit ∈ edits) :
    Shrinks edit := by
  simp only [edits, List.mem_cons, List.not_mem_nil, or_false] at h
  rcases h with rfl | rfl | rfl | rfl | rfl | rfl | rfl | rfl | rfl | rfl | rfl | rfl
  · exact fun t => .of_sublist (dropTrailing_isPrefix isTrailing t).sublist
  · exact fun t => .of_sublist (List.dropWhile_sublist isLeading)
  · exact fun t => .of_sublist (dropHyphen_sublist t)
  · exact shrinks_replaceAll replaces_commaPair
  · exact shrinks_replaceAll replaces_gapCommaGap
  · exact shrinks_replaceAll (replaces_atLeast fun hc => absurd hc (by decide))
  · exact shrinks_replaceAll replaces_gapNewline
  · exact shrinks_replaceAll (replaces_exactly (by decide))
  · exact shrinks_replaceAll (replaces_atLeast fun _ d hd => of_decide_eq_true hd)
  · exact shrinks_replaceAll (replaces_exactly (by decide))
  · exact shrinks_replaceAll replaces_newlineGaps
  · exact shrinks_replaceAll (replaces_atLeast fun hc => absurd hc (by decide))

end Replacing

section Repetitions

variable {f : List Char → List Char}

/-- Of the parts after the first, each with a separator before it, a sublist is left. -/
theorem flatMap_distinct_sublist (hf : ∀ p, (f p).Sublist p) (sep : List Char)
    (seen ps : List (List Char)) :
    ((distinct f seen ps).flatMap (sep ++ ·)).Sublist (ps.flatMap (sep ++ ·)) := by
  fun_induction distinct f seen ps with
  | case1 => exact List.Sublist.refl _
  | case2 seen p ps q _ ih =>
    rw [List.flatMap_cons, List.flatMap_cons]
    exact ((List.Sublist.refl sep).append (trim_isInfix p).sublist).append ih
  | case3 seen p ps q _ _ ih =>
    rw [List.flatMap_cons]
    exact ih.trans (List.sublist_append_right _ _)
  | case4 seen p ps q _ _ ih =>
    rw [List.flatMap_cons, List.flatMap_cons]
    exact ((List.Sublist.refl sep).append ((hf q).trans (trim_isInfix p).sublist)).append ih

theorem append_intercalate (sep : List Char) {ps : List (List Char)} (h : ps ≠ []) :
    sep ++ sep.intercalate ps = ps.flatMap (sep ++ ·) := by
  induction ps with
  | nil => exact absurd rfl h
  | cons p ps ih =>
    rw [List.flatMap_cons]
    by_cases hps : ps = []
    · subst hps
      simp [List.intercalate]
    · rw [intercalate_cons sep p hps, List.append_assoc, ih hps]

theorem intercalate_distinct_sublist (hf : ∀ p, (f p).Sublist p) (sep : List Char)
    {ps : List (List Char)} (h : ps ≠ []) :
    (sep.intercalate (distinct f [] ps)).Sublist (sep.intercalate ps) := by
  rw [← List.append_sublist_append_left sep, append_intercalate sep (distinct_ne_nil f h),
    append_intercalate sep h]
  exact flatMap_distinct_sublist hf sep [] ps

theorem dedupeLine_sublist (t : List Char) : (dedupeLine t).Sublist t := by
  have h := intercalate_distinct_sublist (f := id) List.Sublist.refl separator
    (Front.split_ne_nil (Front.exactly separator) t)
  rwa [Front.intercalate_split_exactly] at h

theorem dedupe_sublist (t : List Char) : (dedupe t).Sublist t := by
  have h := intercalate_distinct_sublist dedupeLine_sublist ['\n'] (splitOn_ne_nil '\n' t)
  rwa [intercalate_splitOn] at h

end Repetitions

theorem shrinks_cleanOnce : Shrinks cleanOnce := by
  intro t
  have hedits : NoLarger (edits.foldl (fun t edit => dedupe (edit t)) t) t := by
    refine List.foldlRecOn edits _ (motive := (NoLarger · t)) (.of_sublist (List.Sublist.refl t)) ?_
    intro u hu edit hedit
    have hedit : NoLarger (edit u) u := shrinks_of_mem_edits hedit u
    exact (NoLarger.of_sublist (dedupe_sublist (edit u))).trans (hedit.trans hu)
  exact (NoLarger.of_sublist (trim_isInfix _).sublist).trans hedits

/-- When a text is settled within the passes that are made, what it has become is the result. -/
theorem cleanup_eq_of_settled {t : List Char} {n : Nat} (hn : n ≤ passes)
    (h : cleanOnce (cleanOnce^[n] t) = cleanOnce^[n] t) :
    cleanup (.ofList t) = .ofList (cleanOnce^[n] t) := by
  rw [← String.toList_inj, toList_cleanup, String.toList_ofList, String.toList_ofList,
    ← Nat.sub_add_cancel hn, Function.iterate_add_apply, Function.iterate_fixed h]

/-- A pass adds neither characters nor commas and takes some of them away when it changes a text.
So the text settles within as many passes as it has characters and commas, and what it settles to
is the result of cleaning unless it takes more passes than are made. -/
theorem cleanOnce_settles (t : List Char) :
    (cleanOnce t).length ≤ t.length ∧ (cleanOnce t).count ',' ≤ t.count ',' ∧
      (cleanOnce t ≠ t →
        (cleanOnce t).length + (cleanOnce t).count ',' < t.length + t.count ',') ∧
      (∃ n ≤ t.length + t.count ',', cleanOnce (cleanOnce^[n] t) = cleanOnce^[n] t) ∧
      ∀ n ≤ passes, cleanOnce (cleanOnce^[n] t) = cleanOnce^[n] t →
        cleanup (.ofList t) = .ofList (cleanOnce^[n] t) :=
  ⟨(shrinks_cleanOnce t).length_le, (shrinks_cleanOnce t).commas_le, weight_cleanOnce_lt,
    ⟨passesNeeded t, passesNeeded_le_weight t, (cleanOnce_iterate_eq_iff _ t).mpr le_rfl⟩,
    fun _ hn h => cleanup_eq_of_settled hn h⟩

/-- The first pass leaves a hyphen and a repeated part behind, the second settles the text. -/
theorem cleanOnce_settles_of_hyphens :
    ∃ t, t = ",,-  - a,,,,b ,\n b".toList ∧ cleanOnce t ≠ t ∧
      (cleanOnce t).length + (cleanOnce t).count ',' < t.length + t.count ',' ∧
      cleanOnce (cleanOnce^[2] t) = cleanOnce^[2] t ∧
      cleanup (.ofList t) = .ofList (cleanOnce^[2] t) ∧ cleanOnce^[2] t = "a, b\nb".toList := by
  have hsettles := cleanOnce_settles ",,-  - a,,,,b ,\n b".toList
  have hne : cleanOnce ",,-  - a,,,,b ,\n b".toList ≠ ",,-  - a,,,,b ,\n b".toList := by
    decide +kernel
  have htwice : cleanOnce (cleanOnce^[2] ",,-  - a,,,,b ,\n b".toList) =
      cleanOnce^[2] ",,-  - a,,,,b ,\n b".toList := by
    decide +kernel
  exact ⟨_, rfl, hne, hsettles.2.2.1 hne, htwice, hsettles.2.2.2.2 2 (by decide) htwice,
    by decide +kernel⟩

end PostalAddress.Cleanup
