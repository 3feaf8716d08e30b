import PostalAddress.Proofs.Address.Validated
import PostalAddress.Proofs.Cleanup.Lines

/-!
# The two shapes of a formatted address

Whichever way a text comes about, `finish` ends it with a cleaned text and a newline. The lines of
such a text that are not empty are all its lines, so an address given as lines and one given as a
text are the same, and no line is empty or has white space at an end.
-/

namespace PostalAddress

open Cleanup

namespace Formatter

theorem finish_eq_cleanup (fm : Formatter) (n : Normalized) (s : String) :
    ∃ t, fm.finish n (cleanup s) = cleanup t ++ "\n" := by
  have hpostformatted : ∃ t, fm.postformatted n.templateKey (cleanup s) = cleanup t := by
    unfold postformatted
    split
    · exact ⟨s, rfl⟩
    · exact ⟨s, rfl⟩
    · exact ⟨_, rfl⟩
  obtain ⟨t, ht⟩ := hpostformatted
  rw [finish, ht]
  split
  · exact ⟨_, rfl⟩
  · exact ⟨t, rfl⟩

/-- The text that a body which is missing leaves is a cleaned one as well. -/
theorem cleanup_empty : cleanup "" = "" := by decide

theorem render_eq_cleanup {fm : Formatter} {n : Normalized} {cache : Cache} {text : String}
    (h : (fm.render n cache).1 = .ok text) : ∃ t, text = cleanup t ++ "\n" := by
  unfold render at h
  split at h
  · obtain ⟨t, ht⟩ := fm.finish_eq_cleanup n ""
    rw [cleanup_empty] at ht
    exact ⟨t, (Except.ok.inj h).symm.trans ht⟩
  · dsimp only at h
    cases hbody : (renderBody n.fields _ cache).1 with
    | error e =>
      rw [hbody] at h
      cases h
    | ok s =>
      rw [hbody] at h
      obtain ⟨t, ht⟩ := fm.finish_eq_cleanup n s
      exact ⟨t, (Except.ok.inj h).symm.trans ht⟩

theorem render_eq {cache : Cache} (h : cache.Sound) (fm : Formatter) (n : Normalized) :
    (fm.render n cache).1 = (fm.render n .off).1 := by
  unfold render
  split
  · rfl
  · rename_i body _
    exact congrArg (Except.map _) (renderBody_eq h n.fields body).1

theorem intercalate_map_ofList (ps : List (List Char)) :
    "\n".intercalate (ps.map String.ofList) = String.ofList (['\n'].intercalate ps) := by
  have hmap : (ps.map String.ofList).map String.toList = ps := by simp [Function.comp_def]
  rw [← String.toList_inj, String.toList_intercalate, hmap, String.toList_ofList,
    String.toList_ofList]

/-- The lines of a cleaned text are those that are not empty. -/
theorem nonEmptyLines_cleanup (s : String) :
    cleanup s = "\n".intercalate (nonEmptyLines (cleanup s ++ "\n")) ∧
      ∀ l ∈ nonEmptyLines (cleanup s ++ "\n"),
        l ≠ "" ∧ '\n' ∉ l.toList ∧ Text.Trimmed l.toList := by
  have hlines : nonEmptyLines (cleanup s ++ "\n") =
      ((Text.splitOn '\n' (cleanup s).toList).filter (!·.isEmpty)).map String.ofList := by
    rw [nonEmptyLines, String.toList_append]
    have hend : Text.splitOn '\n' ((cleanup s).toList ++ "\n".toList) = _ :=
      Text.splitOn_append_cons '\n' (cleanup s).toList []
    rw [hend]
    simp [Text.splitOn]
  obtain hnil | htidy := cleanup_eq_nil_or_tidy s
  · rw [hlines, hnil, String.toList_eq_nil_iff.mp hnil]
    exact ⟨rfl, fun l hl => by cases hl⟩
  · have hfilter : (Text.splitOn '\n' (cleanup s).toList).filter (!·.isEmpty) =
        Text.splitOn '\n' (cleanup s).toList :=
      List.filter_eq_self.mpr fun l hl => by simp [(htidy l hl).1]
    rw [hlines, hfilter]
    refine ⟨?_, fun l hl => ?_⟩
    · rw [intercalate_map_ofList, Text.intercalate_splitOn, String.ofList_toList]
    · obtain ⟨p, hp, rfl⟩ := List.mem_map.mp hl
      rw [String.toList_ofList]
      refine ⟨fun hempty => (htidy p hp).1 ?_, Text.not_mem_of_mem_splitOn hp, (htidy p hp).2⟩
      rw [← String.toList_ofList (l := p), hempty]
      rfl

/-- An address is given as a text and as lines alike, whatever calls came before: both fail with
the same error, or the text is the lines with a newline between them and one at the end. -/
theorem format_string_array (fm : Formatter) (calls calls' : List Call) (o : FormatOptions)
    (input : Fields) :
    (∃ e,
      (fm.format { o with output := .string } input (calls.foldl fm.after .empty)).1 = .error e ∧
      (fm.format { o with output := .array } input (calls'.foldl fm.after .empty)).1 = .error e) ∨
    ∃ ls,
      (fm.format { o with output := .string } input (calls.foldl fm.after .empty)).1 =
        .ok (.text ("\n".intercalate ls ++ "\n")) ∧
      (fm.format { o with output := .array } input (calls'.foldl fm.after .empty)).1 =
        .ok (.lines ls) ∧
      ∀ l ∈ ls, l ≠ "" ∧ '\n' ∉ l.toList ∧ Text.Trimmed l.toList := by
  have hformat : ∀ (kind : OutputKind) (calls : List Call),
      (fm.format { o with output := kind } input (calls.foldl fm.after .empty)).1 =
        (fm.render (fm.normalize o input) .off).1.map (output kind) := fun kind calls =>
    congrArg (Except.map (output kind))
      (render_eq (sound_foldl_after Cache.sound_empty fm calls) fm (fm.normalize o input))
  rw [hformat, hformat]
  cases hrender : (fm.render (fm.normalize o input) .off).1 with
  | error e => exact .inl ⟨e, rfl, rfl⟩
  | ok text =>
    obtain ⟨s, rfl⟩ := render_eq_cleanup hrender
    obtain ⟨hjoin, hlines⟩ := nonEmptyLines_cleanup s
    refine .inr ⟨nonEmptyLines (cleanup s ++ "\n"), ?_, rfl, hlines⟩
    rw [← hjoin]
    rfl

end Formatter

end PostalAddress
