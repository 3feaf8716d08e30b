import PostalAddress.Proofs.Address.Shown
import PostalAddress.Proofs.Address.Spelling

/-!
# What `UK` is read as

Two addresses that differ by the country code alone keep doing so while their keys are spelled out,
and are the same from the moment that one code is settled for both. `UK` is settled as the fallback
when there is one, since it has no entry of its own, and as `GB` otherwise.
-/

namespace PostalAddress

namespace Fields

/-- The fields with another country code, when they have one. -/
def withCode (code : String) (f : Fields) : Fields :=
  Table.mapEntries (fun key value => if key = "country_code" then code else value) f

section WithCode

variable (code : String) {f : Fields} {key : String}

theorem withCode_eq_insert (h : (Table.get? f "country_code").isSome) :
    f.withCode code = Table.insert f "country_code" code :=
  (Table.insert_eq_mapEntries h code).symm

theorem get?_withCode_of_ne (h : key ≠ "country_code") (f : Fields) :
    Table.get? (f.withCode code) key = Table.get? f key := by
  rw [withCode, Table.get?_mapEntries]
  simp [h]

theorem present_withCode_of_ne (h : key ≠ "country_code") (f : Fields) :
    (f.withCode code).present key = f.present key := by
  rw [present, get?_withCode_of_ne code h, present]

theorem insert_withCode_of_ne (h : key ≠ "country_code") (f : Fields) (value : String) :
    Table.insert (f.withCode code) key value = withCode code (Table.insert f key value) := by
  rw [withCode, withCode, Table.mapEntries_insert, if_neg h]

theorem insertSome_withCode_of_ne (h : key ≠ "country_code") (f : Fields)
    (value : Option String) :
    Table.insertSome (f.withCode code) key value = withCode code (Table.insertSome f key value) := by
  cases value with
  | none => rfl
  | some value => exact insert_withCode_of_ne code h f value

theorem insert_code_withCode (h : (Table.get? f "country_code").isSome) (code' : String) :
    Table.insert (f.withCode code) "country_code" code' = Table.insert f "country_code" code' := by
  rw [withCode_eq_insert code h, Table.insert_insert]

theorem isPresent_withCode (h : f.isPresent "country_code") (hcode : code ≠ "") (key : String) :
    (f.withCode code).isPresent key = f.isPresent key := by
  by_cases hkey : key = "country_code"
  · subst hkey
    obtain ⟨value, hvalue⟩ := Option.isSome_iff_exists.mp h
    have hget : Table.get? (f.withCode code) "country_code" = some code := by
      rw [withCode, Table.get?_mapEntries, get?_eq_of_present hvalue]
      rfl
    rw [h, isPresent, present_of_get? hget hcode]
    rfl
  · rw [isPresent, present_withCode_of_ne code hkey, isPresent]

end WithCode

section Spelling

variable {spell : String → String} {components : ComponentTable} {f out : Fields}

theorem movesTo_withCode {code : String} (hpresent : f.isPresent "country_code")
    (hcode : code ≠ "") (key : String) :
    movesTo spell components (f.withCode code) (out.withCode code) key =
      movesTo spell components f out key := by
  rw [movesTo, movesTo, isPresent_withCode code hpresent hcode]
  by_cases hkey : spell key = "country_code"
  · rw [hkey, hpresent]
    simp
  · rw [isPresent.eq_def (out.withCode code), present_withCode_of_ne code hkey, ← isPresent.eq_def]

/-- A value under a key that is spelled as it is stays there. -/
theorem addField_of_spelled {key value : String} (hspell : spell key = key) (hvalue : value ≠ "") :
    addField spell components f out key value = Table.insert out key value := by
  simp [addField, movesTo, hspell, hvalue]

theorem addField_withCode {code : String} (hspell : spell "country_code" = "country_code")
    (hpresent : f.isPresent "country_code") (hcode : code ≠ "") (e : String × String)
    (he : e.1 = "country_code" → e.2 ≠ "") :
    addField spell components (f.withCode code) (out.withCode code) e.1
        (if e.1 = "country_code" then code else e.2) =
      (addField spell components f out e.1 e.2).withCode code := by
  by_cases hkey : e.1 = "country_code"
  · rw [if_pos hkey, hkey, addField_of_spelled hspell hcode,
      addField_of_spelled hspell (he hkey), withCode, withCode, Table.mapEntries_insert]
    rfl
  · rw [if_neg hkey, addField, addField, movesTo_withCode hpresent hcode,
      isPresent.eq_def (out.withCode code), present_withCode_of_ne code hkey, ← isPresent.eq_def]
    split
    · rename_i hmoves
      split
      · rfl
      · exact insert_withCode_of_ne code (spell_ne_of_movesTo hpresent hmoves) out e.2
    · split
      · rfl
      · exact insert_withCode_of_ne code hkey out e.2

theorem normalizeKeys_withCode {code value : String}
    (hspell : spell "country_code" = "country_code")
    (hpresent : f.present "country_code" = some value) (hcode : code ≠ "") :
    normalizeKeys spell components (f.withCode code) =
      (normalizeKeys spell components f).withCode code := by
  have hsome : f.isPresent "country_code" := Option.isSome_iff_exists.mpr ⟨_, hpresent⟩
  have hvalues : ∀ e ∈ f.entries, e.1 = "country_code" → e.2 ≠ "" := by
    rintro ⟨key, v⟩ he rfl
    rw [Table.get?_eq_some_iff.mpr he |>.symm.trans (get?_eq_of_present hpresent) |> Option.some.inj]
    exact ne_empty_of_present hpresent
  rw [normalizeKeys, normalizeKeys, withCode, Table.mapEntries, List.foldl_map]
  refine List.foldl_rel (r := fun out out' => out = withCode code out') rfl ?_
  rintro e he out out' rfl
  exact addField_withCode hspell hsome hcode e (hvalues e he)

end Spelling

section Settling

variable {templates : CountryTable} {fallback : Option String} {f : Fields}

theorem isSome_applyRedirect (h : (Table.get? f "country_code").isSome) (e : CountryEntry) :
    (Table.get? (applyRedirect f e) "country_code").isSome := by
  rwa [applyRedirect_eq, Table.get?_insertSome_of_ne (by decide),
    Table.get?_insertSome_of_ne (by decide)]

theorem applyRedirect_withCode (code : String) {e : CountryEntry}
    (hasked : ∀ text ∈ e.changeCountry, askedFor text.toList ≠ some "country_code") (f : Fields) :
    applyRedirect (f.withCode code) e = (applyRedirect f e).withCode code := by
  have hname : (f.withCode code).changedName e = f.changedName e := by
    cases hchange : e.changeCountry with
    | none => simp [changedName, hchange]
    | some text =>
      have hexpand : expandField (f.withCode code) text.toList = expandField f text.toList :=
        expandField_congr fun name hname => present_withCode_of_ne code
          (fun heq => hasked text hchange (heq ▸ hname)) f
      simp [changedName, hchange, hexpand]
  rw [applyRedirect_eq, applyRedirect_eq, hname, insertSome_withCode_of_ne code (by decide),
    insertSome_withCode_of_ne code (by decide)]

theorem settleCode_withCode (code code' : String) (h : (Table.get? f "country_code").isSome) :
    settleCode (f.withCode code) code' = settleCode f code' := by
  have hmoved : (f.withCode code).moved code' = f.moved code' := by
    rw [moved, moved, present_withCode_of_ne code (by decide)]
  rw [settleCode_eq, settleCode_eq, hmoved, insertSome_withCode_of_ne code (by decide),
    insert_code_withCode code]
  rwa [Table.get?_insertSome_of_ne (by decide)]

/-- Once the code is settled, it does not matter what it was before. -/
theorem resolveCountry_withCode {code value start : String}
    (hasked : ∀ e ∈ templates.entries, ∀ text ∈ e.2.changeCountry,
      askedFor text.toList ≠ some "country_code")
    (hpresent : f.present "country_code" = some value)
    (hstart : startCode f templates fallback = some start)
    (hstart' : startCode (f.withCode code) templates fallback = some start) :
    resolveCountry templates fallback (f.withCode code) = resolveCountry templates fallback f := by
  have hsome : (Table.get? f "country_code").isSome :=
    Option.isSome_iff_exists.mpr ⟨_, get?_eq_of_present hpresent⟩
  rw [resolveCountry, resolveCountry, hstart, hstart']
  dsimp only
  split
  · rw [settleCode_withCode code start hsome]
  · rename_i e he
    split
    · rw [settleCode_withCode code start hsome]
    · rw [applyRedirect_withCode code (hasked _ (Table.get?_eq_some_iff.mp he)),
        settleCode_withCode code _ (isSome_applyRedirect hsome e)]

/-- A code that is read as the fallback is settled as the fallback. -/
theorem startCode_of_fallback {code : String}
    (h : (f.present "country_code").map upper = some (upper code)) :
    startCode f templates (some code) =
      if (upper code).length = 2 then some (if upper code = "UK" then "GB" else upper code)
      else none := by
  have hgiven : givenCode f templates (some code) = some (upper code) := by
    simp [givenCode, h]
  rw [startCode, hgiven, Option.bind_some]

theorem startCode_of_gb (h : (f.present "country_code").map upper = some "GB") :
    startCode f Bundled.templates fallback = some "GB" := by
  rw [startCode, givenCode, h, Option.any_some, if_pos (by decide),
    Option.bind_some, if_pos (by decide), if_neg (by decide)]

/-- There is no entry for `UK`, so a fallback comes first. -/
theorem startCode_of_uk (h : (f.present "country_code").map upper = some "UK") :
    startCode f Bundled.templates none = some "GB" ∧
    ∀ code, startCode f Bundled.templates (some code) =
      if (upper code).length = 2 then some (if upper code = "UK" then "GB" else upper code)
      else none := by
  have hunknown : ¬ Table.contains Bundled.templates "UK" := by decide
  refine ⟨?_, fun code => ?_⟩
  · rw [startCode, givenCode, h, Option.any_some, if_neg hunknown, Option.map_none,
      Option.orElse_eq_orElse, Option.orElse_none, Option.bind_some, if_pos (by decide),
      if_pos (by decide)]
  · rw [startCode, givenCode, h, Option.any_some, if_neg hunknown, Option.map_some,
      Option.orElse_eq_orElse, Option.orElse_some, Option.bind_some]

end Settling

end Fields

namespace Formatter

/-- The same address comes of either code, in the fields and in the options. -/
def CodesAgree (fm : Formatter) (o : FormatOptions) (code code' : String) : Prop :=
  (o.countryCode = none → ∀ f : Fields, f.present "country_code" = some code → ∀ cache,
    fm.format o f cache = fm.format o (Table.insert f "country_code" code') cache) ∧
  ∀ (f : Fields) (cache : Cache),
    fm.format { o with countryCode := some code } f cache =
      fm.format { o with countryCode := some code' } f cache

section Bundled

variable {fm : Formatter} {o : FormatOptions} {f : Fields} {code code' : String}

theorem namedFields_insert_code (fm : Formatter) (hcode : o.countryCode = none)
    (hpresent : f.present "country_code" = some code) (hne : code' ≠ "") :
    fm.namedFields o (Table.insert f "country_code" code') =
        (fm.namedFields o f).withCode code' ∧
      (fm.namedFields o f).present "country_code" = some code := by
  have hspell : snakeCase "country_code" = "country_code" := by decide
  have hsome : (Table.get? f "country_code").isSome :=
    Option.isSome_iff_exists.mpr ⟨_, Fields.get?_eq_of_present hpresent⟩
  have hstays : Fields.Stays snakeCase fm.data.components f "country_code" :=
    Fields.stays_of_spelled hspell (Option.isSome_iff_exists.mpr ⟨_, hpresent⟩)
  rw [namedFields, namedFields, hcode, ← Fields.withCode_eq_insert code' hsome]
  exact ⟨Fields.normalizeKeys_withCode hspell hpresent hne,
    Fields.present_normalizeKeys hstays hpresent⟩

theorem namedFields_options (fm : Formatter) (o : FormatOptions) (f : Fields) (code' : String)
    (hne : code ≠ "") :
    fm.namedFields { o with countryCode := some code' } f =
        (fm.namedFields { o with countryCode := some code } f).withCode code' ∧
      (fm.namedFields { o with countryCode := some code } f).present "country_code" =
        some code := by
  have hget : Table.get? (fm.namedFields { o with countryCode := some code } f) "country_code" =
      some code := (Table.get?_insert ..).trans (if_pos rfl)
  refine ⟨?_, Fields.present_of_get? hget hne⟩
  rw [Fields.withCode_eq_insert _ (by rw [hget]; rfl)]
  exact (Table.insert_insert ..).symm

/-- The code that the options give is read into the fields, and no step after that asks for it. -/
theorem format_congr (c c' : Option String) {f' : Fields}
    (h : Fields.resolveCountry fm.data.templates o.fallbackCountryCode
        (fm.namedFields { o with countryCode := c } f) =
      Fields.resolveCountry fm.data.templates o.fallbackCountryCode
        (fm.namedFields { o with countryCode := c' } f')) (cache : Cache) :
    fm.format { o with countryCode := c } f cache =
      fm.format { o with countryCode := c' } f' cache := by
  have hnormalize : fm.normalize { o with countryCode := c } f =
      fm.normalize { o with countryCode := c' } f' := by
    simp only [normalize, h]
  rw [format, format, hnormalize]

/-- Codes agree when they settle the same code to start from. -/
theorem codesAgree_of_startCode (hfm : make .bundled = .ok fm) (start : String)
    (hne : code ≠ "") (hne' : code' ≠ "")
    (hstart : ∀ f : Fields, f.present "country_code" = some code ∨
      f.present "country_code" = some code' →
        Fields.startCode f Bundled.templates o.fallbackCountryCode = some start) :
    fm.CodesAgree o code code' := by
  have hasked : ∀ e ∈ Bundled.templates.entries, ∀ text ∈ e.2.changeCountry,
      Fields.askedFor text.toList ≠ some "country_code" := by
    decide +kernel
  have hdata := data_of_make hfm
  have hresolve : ∀ g : Fields, g.present "country_code" = some code →
      Fields.resolveCountry fm.data.templates o.fallbackCountryCode g =
        Fields.resolveCountry fm.data.templates o.fallbackCountryCode (g.withCode code') := by
    intro g hg
    have hget : Table.get? (g.withCode code') "country_code" = some code' := by
      rw [Fields.withCode, Table.get?_mapEntries, Fields.get?_eq_of_present hg]
      rfl
    rw [hdata]
    exact (Fields.resolveCountry_withCode hasked hg (hstart g (.inl hg))
      (hstart _ (.inr (Fields.present_of_get? hget hne')))).symm
  refine ⟨fun hcode f hpresent => ?_, fun f => ?_⟩
  · obtain ⟨hnamed, hg⟩ := namedFields_insert_code fm hcode hpresent hne'
    exact format_congr (o := o) o.countryCode o.countryCode
      ((hresolve _ hg).trans (congrArg _ hnamed.symm))
  · obtain ⟨hnamed, hg⟩ := namedFields_options fm o f code' hne
    exact format_congr _ _ ((hresolve _ hg).trans (congrArg _ hnamed.symm))

/-- `UK` is read as `GB` when there is no fallback, or one that is read so itself. Any other
fallback takes its place. -/
theorem codesAgree_of_uk (hfm : make .bundled = .ok fm) (o : FormatOptions)
    (hcode : upper code = "UK") :
    ((∀ fallback ∈ o.fallbackCountryCode, upper fallback = "GB" ∨ upper fallback = "UK") →
      fm.CodesAgree o code "GB") ∧
    ∀ fallback, o.fallbackCountryCode = some fallback → (upper fallback).length = 2 →
      fm.CodesAgree o code fallback := by
  have hne : code ≠ "" := by
    rintro rfl
    exact absurd hcode (by decide)
  have hupper : ∀ {f : Fields}, f.present "country_code" = some code →
      (f.present "country_code").map upper = some "UK" := by
    intro f hf
    rw [hf, Option.map_some, hcode]
  refine ⟨fun hfallback => ?_, fun fallback hfallback hlength => ?_⟩
  · refine codesAgree_of_startCode hfm "GB" hne (by decide) fun f hf => ?_
    obtain hf | hf := hf
    · obtain ⟨hnone, hsome⟩ := Fields.startCode_of_uk (hupper hf)
      cases hgiven : o.fallbackCountryCode with
      | none => exact hnone
      | some fallback =>
        rw [hsome]
        obtain h | h := hfallback fallback hgiven <;> rw [h] <;> rfl
    · exact Fields.startCode_of_gb (by rw [hf]; decide)
  · have hne' : fallback ≠ "" := by
      rintro rfl
      exact absurd hlength (by decide)
    refine codesAgree_of_startCode hfm
      (if upper fallback = "UK" then "GB" else upper fallback) hne hne' fun f hf => ?_
    rw [hfallback]
    obtain hf | hf := hf
    · rw [(Fields.startCode_of_uk (hupper hf)).2, if_pos hlength]
    · rw [Fields.startCode_of_fallback (by rw [hf]; rfl), if_pos hlength]

/-- `UK` in mixed case, without a fallback and with two. -/
theorem codesAgree_of_uk_of_fallbacks :
    ∃ fm, make .bundled = .ok fm ∧ upper "uK" = "UK" ∧ fm.CodesAgree {} "uK" "GB" ∧
      upper "Uk" = "UK" ∧ fm.CodesAgree { fallbackCountryCode := some "Uk" } "uK" "GB" ∧
      (upper "fr").length = 2 ∧ fm.CodesAgree { fallbackCountryCode := some "fr" } "uK" "fr" := by
  have hfm := make_bundled
  have huk : upper "uK" = "UK" := by decide
  have huk' : upper "Uk" = "UK" := by decide
  have hfr : (upper "fr").length = 2 := by decide
  refine ⟨_, hfm, huk, ?_, huk', ?_, hfr, ?_⟩
  · exact (codesAgree_of_uk hfm {} huk).1 nofun
  · refine (codesAgree_of_uk hfm _ huk).1 ?_
    rintro fallback h
    exact .inr (Option.some.inj h ▸ huk')
  · exact (codesAgree_of_uk hfm _ huk).2 "fr" rfl hfr

/-- An address in London, with the United States to fall back on. -/
theorem not_codesAgree_uk_gb_of_fallback :
    ∃ fm, make .bundled = .ok fm ∧
      ¬ fm.CodesAgree { appendCountry := true, fallbackCountryCode := some "US" } "uk" "GB" := by
  have huk := bundled_format_eq
    (o := { appendCountry := true, fallbackCountryCode := some "US" })
    (f := .ofList [("city", "London"), ("country_code", "uk")])
    (n := ⟨.ofList [("city", "London"), ("country_code", "US"),
      ("country", "United States of America")], some "US", "US", none⟩)
    (Normalized.eq_of_parts (by decide +kernel))
    Cache.sound_empty (l := Bundled.fallback3) (by decide) (by decide +kernel)
    (by decide +kernel : _ = "London\nUnited States of America\n")
  have hgb := bundled_format_eq
    (o := { appendCountry := true, fallbackCountryCode := some "US" })
    (f := .ofList [("city", "London"), ("country_code", "GB")])
    (n := ⟨.ofList [("city", "London"), ("country_code", "GB"), ("country", "United Kingdom")],
      some "GB", "GB", none⟩)
    (Normalized.eq_of_parts (by decide +kernel))
    Cache.sound_empty (l := Bundled.fallback1) (by decide) (by decide +kernel)
    (by decide +kernel : _ = "London\nUnited Kingdom\n")
  have hinsert : Table.insert (.ofList [("city", "London"), ("country_code", "uk")] : Fields)
      "country_code" "GB" = .ofList [("city", "London"), ("country_code", "GB")] := by
    decide
  refine ⟨bundled, make_bundled, fun hagree => ?_⟩
  have hsame := hagree.1 rfl (.ofList [("city", "London"), ("country_code", "uk")])
    (by decide) .empty
  rw [hsame, hinsert, hgb] at huk
  exact absurd huk (by decide)

end Bundled

end Formatter

end PostalAddress
