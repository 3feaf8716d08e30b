import PostalAddress.Proofs.Address.Placed

/-!
# Addresses that are not blank

Layouts and rules for output may leave nothing of an address. Then the values of the fields stand
in for it, and these are cleaned as well; but cleaning loses no word, so a text with a word never
turns blank.
-/

namespace PostalAddress

open Cleanup

namespace Formatter

theorem mem_bareWords_joinedValues {f : Fields} {value : String} (hvalue : value ∈ f.values)
    {w : List Char} (hw : w ∈ bareWords value.toList) :
    w ∈ bareWords (joinedValues f).toList := by
  have hfilled : value ∈ f.values.filter (!·.isEmpty) := by
    refine List.mem_filter.mpr ⟨hvalue, ?_⟩
    by_contra hempty
    have hnil : value = "" := by simpa using hempty
    subst hnil
    cases hw
  have hjoined := @mem_bareWords_intercalate w ", ".toList (by decide) (by decide)
  rw [joinedValues, String.toList_intercalate, hjoined]
  exact ⟨value.toList, List.mem_map.mpr ⟨value, hfilled, rfl⟩, hw⟩

/-- The text that ends rendering is the one after the rules for output or, when that is blank, the
values of the fields. -/
theorem exists_not_isBlank_finish (fm : Formatter) (n : Normalized) (s : String) {value : String}
    (hvalue : value ∈ n.fields.values) {w : List Char} (hw : w ∈ bareWords value.toList) :
    ∃ c ∈ (fm.finish n s).toList, Text.isBlank c = false := by
  unfold finish
  dsimp only
  split
  · have hjoined : w ∈ bareWords (cleanup (joinedValues n.fields)).toList :=
      (mem_bareWords_cleanup _).mpr (mem_bareWords_joinedValues hvalue hw)
    exact exists_not_isBlank_of_mem_bareWords ((mem_bareWords_concat_newline _).mpr hjoined)
  · rename_i hfilled
    have htrim : Text.trim (fm.postformatted n.templateKey s).toList ≠ [] := by
      simpa using hfilled
    obtain ⟨c, hc, hblank⟩ := Text.exists_not_isBlank_of_trim htrim
    rw [String.toList_append]
    exact ⟨c, List.mem_append_left _ hc, hblank⟩

/-- Whatever the layout and the rules for output leave, and with no layout as well, an address is
not blank when a value of its fields has a word. -/
theorem exists_not_isBlank_of_render (fm : Formatter) (n : Normalized) (cache : Cache)
    {value : String} (hvalue : value ∈ n.fields.values) {w : List Char}
    (hw : w ∈ bareWords value.toList) {text : String} (h : (fm.render n cache).1 = .ok text) :
    ∃ c ∈ text.toList, Text.isBlank c = false := by
  unfold render at h
  split at h
  · rw [← Except.ok.inj h]
    exact fm.exists_not_isBlank_finish n "" hvalue hw
  · dsimp only at h
    cases hbody : (renderBody n.fields _ cache).1 with
    | error e =>
      rw [hbody] at h
      cases h
    | ok s =>
      rw [hbody] at h
      rw [← Except.ok.inj h]
      exact fm.exists_not_isBlank_finish n (cleanup s) hvalue hw

/-- No layout has a place for the continent. -/
theorem exists_not_isBlank_of_continent :
    ∃ fm n, make .bundled = .ok fm ∧
      fm.normalize {} (.ofList [("continent", " - \x7da\x7d, - ")]) = n ∧
      " - \x7da\x7d, - " ∈ n.fields.values ∧
      "\x7da".toList ∈ bareWords " - \x7da\x7d, - ".toList ∧
      (fm.render n .empty).1 = .ok "\x7da\x7d, -\n" ∧
      ∃ c ∈ "\x7da\x7d, -\n".toList, Text.isBlank c = false := by
  have hsettled : bundled.normalize {} (.ofList [("continent", " - \x7da\x7d, - ")]) =
      ⟨.ofList [("continent", " - \x7da\x7d, - ")], none, "default", none⟩ :=
    Normalized.eq_of_parts (by decide +kernel)
  have hvalue : " - \x7da\x7d, - " ∈ (bundled.normalize {}
      (.ofList [("continent", " - \x7da\x7d, - ")])).fields.values := by
    rw [hsettled]
    exact List.mem_singleton_self _
  have hword : "\x7da".toList ∈ bareWords " - \x7da\x7d, - ".toList := by decide
  have hrender : (bundled.render (bundled.normalize {} (.ofList [("continent", " - \x7da\x7d, - ")]))
      .empty).1 = .ok "\x7da\x7d, -\n" := by
    rw [hsettled, render_eq_shown make_bundled Cache.sound_empty (l := Bundled.fallback1) (by decide)
      (by decide +kernel)]
    exact congrArg Except.ok (by decide +kernel)
  exact ⟨bundled, _, make_bundled, rfl, hvalue, hword, hrender,
    exists_not_isBlank_of_render bundled _ .empty hvalue hword hrender⟩

end Formatter

end PostalAddress
