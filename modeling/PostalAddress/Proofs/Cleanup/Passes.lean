import Mathlib.Logic.Function.Iterate
import PostalAddress.Proofs.Cleanup.Weight

/-!
# How many passes a text needs

Every pass of `cleanOnce` that changes a text lightens it, so after `passesNeeded` passes nothing
changes any more. `cleanup` makes sixteen passes: its result is settled, and cleaning it again
changes nothing, exactly when the text needs no more than that. No number of passes is enough for
all texts, since a pass drops one leading hyphen.
-/

namespace PostalAddress.Cleanup

open Text

theorem weight_cleanOnce_lt {t : List Char} (h : cleanOnce t ≠ t) :
    weight (cleanOnce t) < weight t :=
  (lightens_cleanOnce t).resolve_left h

/-- The number of passes after which a text no longer changes. -/
def passesNeeded (t : List Char) : Nat :=
  if cleanOnce t = t then 0 else passesNeeded (cleanOnce t) + 1
termination_by weight t
decreasing_by exact weight_cleanOnce_lt ‹_›

theorem passesNeeded_eq_zero_iff {t : List Char} : passesNeeded t = 0 ↔ cleanOnce t = t := by
  rw [passesNeeded]
  split <;> simp_all

theorem passesNeeded_of_ne {t : List Char} (h : cleanOnce t ≠ t) :
    passesNeeded t = passesNeeded (cleanOnce t) + 1 := by
  rw [passesNeeded, if_neg h]

theorem passesNeeded_le_weight (t : List Char) : passesNeeded t ≤ weight t := by
  fun_induction passesNeeded t with
  | case1 => exact Nat.zero_le _
  | case2 t h ih =>
    have hlt : weight (cleanOnce t) < weight t := weight_cleanOnce_lt h
    omega

theorem cleanOnce_iterate_eq_iff (n : Nat) (t : List Char) :
    cleanOnce (cleanOnce^[n] t) = cleanOnce^[n] t ↔ passesNeeded t ≤ n := by
  induction n generalizing t with
  | zero => exact passesNeeded_eq_zero_iff.symm.trans Nat.le_zero.symm
  | succ n ih =>
    rw [Function.iterate_succ_apply, ih]
    by_cases h : cleanOnce t = t
    · have hzero : passesNeeded t = 0 := passesNeeded_eq_zero_iff.mpr h
      rw [h, hzero]
      omega
    · rw [passesNeeded_of_ne h]
      omega

theorem settle_eq_iterate (fuel : Nat) (t : List Char) : settle fuel t = cleanOnce^[fuel] t := by
  induction fuel generalizing t with
  | zero => rfl
  | succ fuel ih =>
    rw [Function.iterate_succ_apply]
    simp only [settle]
    split
    · rename_i h
      rw [h, Function.iterate_fixed h]
    · exact ih (cleanOnce t)

theorem toList_cleanup (s : String) : (cleanup s).toList = cleanOnce^[passes] s.toList := by
  rw [cleanup, String.toList_ofList, settle_eq_iterate, ← Function.iterate_succ_apply]
  rfl

theorem weight_iterate_le (n : Nat) (t : List Char) : weight (cleanOnce^[n] t) ≤ weight t := by
  induction n generalizing t with
  | zero => exact le_rfl
  | succ n ih =>
    rw [Function.iterate_succ_apply]
    exact (ih (cleanOnce t)).trans (lightens_cleanOnce.weight_le t)

/-- Passes that change a text never lead back to it. -/
theorem iterate_succ_eq_self_iff (n : Nat) (t : List Char) :
    cleanOnce^[n + 1] t = t ↔ cleanOnce t = t := by
  constructor
  · intro h
    by_contra hne
    have hlt : weight (cleanOnce t) < weight t := weight_cleanOnce_lt hne
    have hle : weight (cleanOnce^[n] (cleanOnce t)) ≤ weight (cleanOnce t) :=
      weight_iterate_le n (cleanOnce t)
    rw [← Function.iterate_succ_apply, h] at hle
    omega
  · intro h
    exact Function.iterate_fixed h (n + 1)

section Hyphens

/-- A letter after `n` hyphens, each set apart by a space. -/
def hyphens : Nat → List Char
  | 0 => ['a']
  | n + 1 => '-' :: ' ' :: hyphens n

theorem mem_hyphens {c : Char} {n : Nat} (h : c ∈ hyphens n) : c = '-' ∨ c = ' ' ∨ c = 'a' := by
  induction n with
  | zero => exact .inr (.inr (List.mem_singleton.mp h))
  | succ n ih =>
    rcases List.mem_cons.mp h with h | h
    · exact .inl h
    · rcases List.mem_cons.mp h with h | h
      · exact .inr (.inl h)
      · exact ih h

theorem not_mem_hyphens {c : Char} (h : ¬ (c = '-' ∨ c = ' ' ∨ c = 'a')) (n : Nat) :
    c ∉ hyphens n := fun hc => h (mem_hyphens hc)

theorem hyphens_eq_concat (n : Nat) : ∃ s, hyphens n = s ++ ['a'] := by
  induction n with
  | zero => exact ⟨[], rfl⟩
  | succ n ih =>
    obtain ⟨s, hs⟩ := ih
    exact ⟨'-' :: ' ' :: s, by rw [hyphens, hs]; rfl⟩

theorem dropTrailing_hyphens {p : Char → Bool} (hp : p 'a' = false) (n : Nat) :
    dropTrailing p (hyphens n) = hyphens n := by
  obtain ⟨s, hs⟩ := hyphens_eq_concat n
  simp [dropTrailing, hs, hp]

theorem dropWhile_hyphens {p : Char → Bool} (hp : p '-' = false) (hp' : p 'a' = false) (n : Nat) :
    (hyphens n).dropWhile p = hyphens n := by
  cases n with
  | zero => simp [hyphens, hp']
  | succ n => simp [hyphens, hp]

theorem trim_hyphens (n : Nat) : trim (hyphens n) = hyphens n := by
  rw [trim, dropBlanks, dropWhile_hyphens (by decide) (by decide),
    dropTrailing_hyphens (by decide)]

theorem dropHyphen_hyphens (n : Nat) : dropHyphen (hyphens (n + 1)) = hyphens n := rfl

theorem distinct_singleton (f : List Char → List Char) (t : List Char) :
    distinct f [] [t] = [trim t] ∨ distinct f [] [t] = [f (trim t)] := by
  simp only [distinct, List.contains_nil, Bool.false_eq_true, if_false]
  split
  · exact .inl rfl
  · exact .inr rfl

theorem dedupeLine_hyphens (n : Nat) : dedupeLine (hyphens n) = hyphens n := by
  have hone : (Front.exactly separator).split (hyphens n) = [hyphens n] :=
    Front.split_eq_singleton
      ((Front.needs_exactly (c := ',') (by decide)).eq_none (not_mem_hyphens (by decide) n))
  rw [dedupeLine, hone]
  rcases distinct_singleton id (hyphens n) with h | h <;>
    simp [h, trim_hyphens, List.intercalate]

theorem dedupe_hyphens (n : Nat) : dedupe (hyphens n) = hyphens n := by
  rw [dedupe, splitOn_of_not_mem (not_mem_hyphens (by decide) n)]
  rcases distinct_singleton dedupeLine (hyphens n) with h | h <;>
    simp [h, trim_hyphens, dedupeLine_hyphens, List.intercalate]

theorem replaceAll_hyphens {c : Char} {f : Front} {new : List Char} (hf : f.Needs c)
    (hc : ¬ (c = '-' ∨ c = ' ' ∨ c = 'a')) (n : Nat) :
    f.replaceAll new (hyphens n) = hyphens n :=
  Front.replaceAll_eq_self (hf.eq_none (not_mem_hyphens hc n))

theorem needs_commaPair : commaPair.Needs ',' := by
  intro t n h
  unfold commaPair at h
  split at h
  · exact List.mem_cons_self
  · cases h

theorem needs_gapCommaGap : gapCommaGap.Needs ',' := by
  intro t n h
  simp only [gapCommaGap] at h
  split at h
  · rename_i r hr
    exact (List.drop_suffix _ t).subset (hr ▸ List.mem_cons_self)
  · cases h

theorem needs_gapNewline : gapNewline.Needs '\n' := by
  intro t n h
  unfold gapNewline at h
  split at h
  · exact List.mem_cons_of_mem _ List.mem_cons_self
  · cases h

theorem needs_newlineGaps : newlineGaps.Needs '\n' := by
  intro t n h
  unfold newlineGaps at h
  split at h
  · exact List.mem_cons_self
  · cases h

theorem needs_atLeast (c : Char) (least : Nat) : (atLeast (least + 1) (· = c)).Needs c := by
  intro t n h
  simp only [atLeast, Option.ite_none_right_eq_some] at h
  obtain ⟨d, hd⟩ := List.exists_mem_of_length_pos (Nat.lt_of_lt_of_le least.succ_pos h.1)
  have hdc : d = c := by simpa using List.mem_takeWhile_imp hd
  exact (List.takeWhile_sublist _).subset (hdc ▸ hd)

theorem replaceAll_gaps_hyphens (n : Nat) :
    (atLeast 2 isGap).replaceAll [' '] (hyphens n) = hyphens n := by
  have hgo : Front.replaceAll.go (atLeast 2 isGap) [' '] 0 (hyphens n) = hyphens n := by
    induction n with
    | zero => rfl
    | succ n ih =>
      have hhyphen : atLeast 2 isGap ('-' :: ' ' :: hyphens n) = none := rfl
      have hspace : atLeast 2 isGap (' ' :: hyphens n) = none := by cases n <;> rfl
      rw [hyphens, Front.replaceAll.go, hhyphen, Front.replaceAll.go, hspace, ih]
  exact hgo

theorem cleanOnce_hyphens (n : Nat) : cleanOnce (hyphens (n + 1)) = hyphens n := by
  simp only [cleanOnce, edits, List.foldl_cons, List.foldl_nil]
  rw [dropTrailing_hyphens (by decide), dedupe_hyphens, dropWhile_hyphens (by decide) (by decide),
    dedupe_hyphens, dropHyphen_hyphens, dedupe_hyphens,
    replaceAll_hyphens needs_commaPair (by decide), dedupe_hyphens,
    replaceAll_hyphens needs_gapCommaGap (by decide), dedupe_hyphens,
    replaceAll_gaps_hyphens, dedupe_hyphens,
    replaceAll_hyphens needs_gapNewline (by decide), dedupe_hyphens,
    replaceAll_hyphens (Front.needs_exactly (c := ',') (by decide)) (by decide), dedupe_hyphens,
    replaceAll_hyphens (needs_atLeast ',' 1) (by decide), dedupe_hyphens,
    replaceAll_hyphens (Front.needs_exactly (c := ',') (by decide)) (by decide), dedupe_hyphens,
    replaceAll_hyphens needs_newlineGaps (by decide), dedupe_hyphens,
    replaceAll_hyphens (needs_atLeast '\n' 1) (by decide), dedupe_hyphens, trim_hyphens]

theorem passesNeeded_hyphens (n : Nat) : passesNeeded (hyphens n) = n := by
  induction n with
  | zero => exact passesNeeded_eq_zero_iff.mpr (by decide +kernel)
  | succ n ih =>
    have hne : cleanOnce (hyphens (n + 1)) ≠ hyphens (n + 1) := by
      intro h
      have hlen := congrArg List.length ((cleanOnce_hyphens n).symm.trans h)
      simp only [hyphens, List.length_cons] at hlen
      omega
    rw [passesNeeded_of_ne hne, cleanOnce_hyphens, ih]

end Hyphens

theorem cleanup_eq_self_iff (s : String) : cleanup s = s ↔ cleanOnce s.toList = s.toList := by
  rw [← iterate_succ_eq_self_iff (passes - 1), ← String.toList_inj, toList_cleanup]
  rfl

end PostalAddress.Cleanup

namespace PostalAddress

open Cleanup

/-- Cleaning a text twice is the same as cleaning it once, and the cleaned text one that no pass
changes, exactly when the text needs no more passes than are made. Every text settles, but no
number of passes is enough for all of them. -/
theorem cleanup_cleanup_eq_iff (s : String) :
    (cleanup (cleanup s) = cleanup s ↔ passesNeeded s.toList ≤ passes) ∧
      (cleanOnce (cleanup s).toList = (cleanup s).toList ↔ passesNeeded s.toList ≤ passes) ∧
      passesNeeded s.toList ≤ weight s.toList ∧
      ∀ n, ∃ t : String, passesNeeded t.toList = n := by
  have hsettled : cleanOnce (cleanup s).toList = (cleanup s).toList ↔
      passesNeeded s.toList ≤ passes := by
    rw [toList_cleanup, cleanOnce_iterate_eq_iff]
  refine ⟨(cleanup_eq_self_iff _).trans hsettled, hsettled, passesNeeded_le_weight _, ?_⟩
  intro n
  exact ⟨String.ofList (hyphens n), by rw [String.toList_ofList, passesNeeded_hyphens]⟩

/-- One hyphen more than there are passes. -/
theorem cleanup_cleanup_ne_of_hyphens :
    cleanup (cleanup "- - - - - - - - - - - - - - - - - a") ≠
      cleanup "- - - - - - - - - - - - - - - - - a" := by
  decide +kernel

end PostalAddress
