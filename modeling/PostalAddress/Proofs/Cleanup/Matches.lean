import Mathlib.Data.List.TakeWhile
import PostalAddress.Address.Cleanup
import PostalAddress.Proofs.Text.Parts

/-!
# What the edits match

The text that stands where a front of an edit has matched: a comma with others or with white space
around it, a run of characters of one kind, or a newline with a gap beside it.
-/

namespace PostalAddress.Cleanup

open Text

variable {t : List Char} {n : Nat}

theorem take_exactly {x : List Char} (h : Front.exactly x t = some n) : t.take n = x := by
  simp only [Front.exactly, Option.ite_none_right_eq_some, Option.some.injEq,
    List.isPrefixOf_iff_prefix] at h
  obtain ⟨⟨u, rfl⟩, rfl⟩ := h
  exact List.take_left

theorem take_atLeast {least : Nat} {p : Char → Bool} (h : atLeast least p t = some n) :
    least ≤ (t.take n).length ∧ ∀ c ∈ t.take n, p c := by
  simp only [atLeast, Option.ite_none_right_eq_some, Option.some.injEq] at h
  obtain ⟨hle, rfl⟩ := h
  rw [take_length_takeWhile]
  exact ⟨hle, fun c hc => List.mem_takeWhile_imp hc⟩

theorem take_commaPair (h : commaPair t = some n) :
    ∃ s, t.take n = ',' :: (s ++ [',']) ∧ ∀ c ∈ s, isBlank c := by
  unfold commaPair at h
  split at h
  · obtain ⟨m, hm, rfl⟩ := Option.map_eq_some_iff.mp h
    obtain ⟨s, u, rfl, rfl, hs⟩ := Front.spaced_split hm
    exact ⟨s, by rw [List.take_succ_cons, List.take_left], hs⟩
  · cases h

theorem take_gapCommaGap (h : gapCommaGap t = some n) :
    ∃ a b, t.take n = a ++ ',' :: b ∧ a ≠ [] ∧ b ≠ [] ∧ ∀ c ∈ a ++ b, isGap c := by
  simp only [gapCommaGap, drop_length_takeWhile] at h
  split at h
  · rename_i r hr
    simp only [Option.ite_none_left_eq_some, Bool.or_eq_true, List.isEmpty_iff, not_or,
      Option.some.injEq] at h
    obtain ⟨⟨hbefore, hafter⟩, rfl⟩ := h
    refine ⟨t.takeWhile isGap, r.takeWhile isGap, ?_, hbefore, hafter, fun c hc => ?_⟩
    · have hpre : t.takeWhile isGap ++ ',' :: r.takeWhile isGap <+: t := by
        refine ⟨r.dropWhile isGap, ?_⟩
        rw [List.append_assoc, List.cons_append, List.takeWhile_append_dropWhile, ← hr,
          List.takeWhile_append_dropWhile]
      have hlen : (t.takeWhile isGap ++ ',' :: r.takeWhile isGap).length =
          (t.takeWhile isGap).length + 1 + (r.takeWhile isGap).length := by
        simp only [List.length_append, List.length_cons]
        omega
      rw [← hlen]
      exact (List.prefix_iff_eq_take.mp hpre).symm
    · obtain hc | hc := List.mem_append.mp hc
      · exact List.mem_takeWhile_imp hc
      · exact List.mem_takeWhile_imp hc
  · cases h

theorem take_gapNewline (h : gapNewline t = some n) : ∃ c, t.take n = [c, '\n'] ∧ isGap c := by
  unfold gapNewline at h
  split at h
  · rename_i c r
    simp only [Option.ite_none_right_eq_some, Option.some.injEq] at h
    obtain ⟨hc, rfl⟩ := h
    exact ⟨c, rfl, hc⟩
  · cases h

theorem take_newlineGaps (h : newlineGaps t = some n) :
    ∃ a, t.take n = '\n' :: a ∧ a ≠ [] ∧ ∀ c ∈ a, isGap c := by
  unfold newlineGaps at h
  split at h
  · rename_i r
    simp only [Option.ite_none_left_eq_some, Option.some.injEq] at h
    obtain ⟨hne, rfl⟩ := h
    refine ⟨r.takeWhile isGap, by rw [List.take_succ_cons, take_length_takeWhile], ?_,
      fun c hc => List.mem_takeWhile_imp hc⟩
    exact fun hnil => hne (List.length_eq_zero_iff.mpr hnil)
  · cases h

end PostalAddress.Cleanup
