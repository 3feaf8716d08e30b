import PostalAddress.Proofs.Address.Aliases
import PostalAddress.Proofs.Address.OtherNames
import PostalAddress.Proofs.Address.Shown
import PostalAddress.Proofs.Address.Spelling

/-!
# Addresses by either name

An address is formatted alike with a component under its own name and under another, when no layout
shows the other name. It comes to the same text as long as this text is not blank: the values that
are listed otherwise are those of all fields, the other name among them.
-/

namespace PostalAddress

namespace Bundled

theorem isKnown_of_mem_namedKeys : ∀ key ∈ Fields.namedKeys, components.isKnown key := by
  decide +kernel

/-- The names of the country, and the one that is read by the country, are left out, and so is the
code of a county, which layouts show. -/
theorem isOtherName {c : Component} (hc : c ∈ components)
    (hname : c.name ∉ ["country", "state", "state_district"]) {other : String}
    (hother : other ∈ c.aliases) (hcode : other ≠ "county_code") :
    Fields.IsOtherName components c.name other := by
  have hknown := ComponentTable.isKnown_of_mem_names (t := components) (List.mem_map_of_mem hc)
  have hnames : ∀ c ∈ components, ∀ other ∈ c.aliases, other ∉ components.names := by
    decide +kernel
  have hreads : ∀ c ∈ components, c.name ∉ ["country", "state", "state_district"] →
      ∀ other ∈ c.aliases, ∀ small, Fields.readsAs? components small other = some c.name ∧
        Fields.readsAs? components small c.name = none := by
    decide +kernel
  have hapart : ∀ c ∈ components, c.name ∉ ["country", "state", "state_district"] →
      ∀ other ∈ c.aliases, other ≠ "county_code" → components.isKnown other ∧
        (∀ k ∈ Fields.countryKeys, k ≠ c.name) ∧ ∀ k ∈ Fields.namedKeys, k ≠ other := by
    decide +kernel
  have hread := hreads c hc hname other hother
  obtain ⟨hknown', hcountry, hnamed⟩ := hapart c hc hname other hother hcode
  exact ⟨fun small => (hread small).1, fun small => (hread small).2,
    fun small key h =>
      hnames c hc other hother (Fields.mem_names_of_readsAs resolvable_components h),
    hknown, hknown',
    hcountry, hnamed⟩

theorem mem_countryKeys_of_askedFor : ∀ e ∈ templates.entries, ∀ text ∈ e.2.changeCountry,
    ∀ key, Fields.askedFor text.toList = some key → key ∈ Fields.countryKeys := by
  have hasked : ∀ e ∈ templates.entries, ∀ text ∈ e.2.changeCountry,
      ∀ key ∈ Fields.askedFor text.toList, key ∈ Fields.countryKeys := by
    decide +kernel
  exact fun e he text htext key hkey => hasked e he text htext key hkey

/-- What a component is read from are its aliases, and `district` for a neighbourhood. -/
theorem alone {c : Component} (hc : c ∈ components) (hname : c.name ≠ "state_district")
    {f : Fields} (haliases : ∀ key ∈ c.aliases, ¬ Table.contains f key)
    (hdistrict : c.name = "neighbourhood" → ¬ Table.contains f "district") :
    Fields.Alone components c.name f := by
  have hnone : ∀ {key}, ¬ Table.contains f key → Table.get? f key = none :=
    fun h => Option.not_isSome_iff_eq_none.mp h
  intro small key h
  unfold Fields.readsAs? at h
  split at h
  · rename_i hkey
    subst hkey
    have hread := Option.some.inj h
    split at hread
    · exact hnone (hdistrict hread.symm)
    · exact absurd hread.symm hname
  · split at h
    · rename_i target htarget
      split at h
      · cases h
      · rename_i hne
        obtain rfl := Option.some.inj h
        have hdistinct : ∀ c ∈ components, ∀ c' ∈ components, c'.name = c.name → c' = c := by
          decide +kernel
        obtain ⟨c', hc', hname', hself | halias⟩ := ComponentTable.exists_of_canonical htarget
        · exact absurd (hname'.symm.trans hself.symm) hne
        · obtain rfl := hdistinct c hc c' hc' hname'
          exact hnone (haliases _ halias)
    · cases h

end Bundled

namespace Formatter

/-- Other fields stay until the aliases are resolved. -/
theorem get?_locatedFields_of_ne (fm : Formatter) (o : FormatOptions) {f : Fields}
    (hspelled : ∀ key ∈ Table.keys f, snakeCase key = key) {key : String}
    (hkey : key ∉ Fields.countryKeys) :
    Table.get? (fm.locatedFields o f) key = Table.get? f key := by
  rw [get?_locatedFields fm o hkey, Fields.normalizeKeys_eq_self hspelled]

theorem alone_locatedFields (fm : Formatter) (o : FormatOptions) {f : Fields}
    (hspelled : ∀ key ∈ Table.keys f, snakeCase key = key) {name : String}
    (h : Fields.Alone Bundled.components name f) :
    Fields.Alone Bundled.components name (fm.locatedFields o f) := by
  have hcountry : ∀ k ∈ Fields.countryKeys, ∀ small,
      Fields.readsAs? Bundled.components small k = none := by
    decide +kernel
  intro small key hread
  have hkey : key ∉ Fields.countryKeys := by
    intro hmem
    rw [hcountry key hmem small] at hread
    cases hread
  rw [get?_locatedFields_of_ne fm o hspelled hkey, h small key hread]

section Renaming

variable (fm : Formatter) (o : FormatOptions) {name other : String} {f : Fields}

theorem agreeOff_settledFields {components : ComponentTable} (hdata : fm.data.components = components)
    {key : String} (hkey : ∀ k ∈ Fields.namedKeys, k ≠ key)
    (hknown : ∀ k ∈ Fields.namedKeys, components.isKnown k) {f g : Fields}
    (h : Fields.AgreeOff components key f g) (tableKeys : List String)
    (countryCode : Option String) :
    Fields.AgreeOff components key (fm.settledFields o tableKeys countryCode f)
      (fm.settledFields o tableKeys countryCode g) := by
  have hR := Fields.AgreeOff.congruence hkey hknown
  have hattention := (hR.derivedFields h fm (fun _ => id) tableKeys).collectAttention hkey hknown
  rw [settledFields_eq, settledFields_eq, hdata]
  exact hR.cleanedFields hattention fm (by decide) o countryCode

variable (ho : Fields.IsOtherName Bundled.components name other)
  (hspelled : ∀ key ∈ Table.keys f, snakeCase key = key) (hother : snakeCase other = other)
  (halone : Fields.Alone Bundled.components name f)

include ho hspelled hother halone

theorem renames_namedFields :
    Table.Renames name other (fm.namedFields o f)
      (fm.namedFields o (Table.rename f name other)) := by
  have hrename : Table.Renames name other f (Table.rename f name other) :=
    Table.renames_rename (halone true other (ho.readsAs_other true))
  have hspelled' : ∀ key ∈ Table.keys (Table.rename f name other), snakeCase key = key := by
    rw [hrename.keys_eq]
    intro key hkey
    obtain ⟨k, hk, rfl⟩ := List.mem_map.mp hkey
    unfold Table.renamed
    split
    · exact hother
    · exact hspelled k hk
  rw [namedFields, namedFields, Fields.normalizeKeys_eq_self hspelled,
    Fields.normalizeKeys_eq_self hspelled']
  cases o.countryCode with
  | none => exact hrename
  | some code =>
    exact hrename.insert (ho.country _ (by decide)) (ho.country_other _ (by decide)) code

variable (hdata : fm.data = .bundled)

include hdata

theorem renames_locatedFields :
    Table.Renames name other (fm.locatedFields o f)
      (fm.locatedFields o (Table.rename f name other)) := by
  exact (Fields.Renames.determines ho.country ho.country_other).locatedFields (fun _ => id)
    (by rw [hdata]; exact Bundled.mem_countryKeys_of_askedFor) o
    (renames_namedFields fm o ho hspelled hother halone)

/-- The same entry is chosen. -/
theorem normalize_rename_country :
    (fm.normalize o (Table.rename f name other)).countryCode = (fm.normalize o f).countryCode ∧
      (fm.normalize o (Table.rename f name other)).templateKey = (fm.normalize o f).templateKey ∧
      (fm.normalize o (Table.rename f name other)).redirectedFrom =
        (fm.normalize o f).redirectedFrom := by
  obtain ⟨hcode, hkey, hfrom⟩ :=
    (Fields.Renames.determines ho.country ho.country_other).normalize_country (fun _ => id)
      (by rw [hdata]; exact Bundled.mem_countryKeys_of_askedFor) o
      (renames_namedFields fm o ho hspelled hother halone)
  exact ⟨hcode.symm, hkey.symm, hfrom.symm⟩

/-- The settled addresses agree but for the other name. -/
theorem agreeOff_normalize (hcontains : Table.contains f name) :
    Fields.AgreeOff Bundled.components other (fm.normalize o f).fields
      (fm.normalize o (Table.rename f name other)).fields := by
  have hlocated := renames_locatedFields fm o ho hspelled hother halone hdata
  obtain ⟨hcode, hkey, hfrom⟩ :=
    normalize_rename_country fm o ho hspelled hother halone hdata
  have hname : name ∉ Fields.countryKeys := fun hmem => ho.country name hmem rfl
  have haliases := Fields.Renames.resolveAliases ho hlocated
    (by rw [get?_locatedFields_of_ne fm o hspelled hname]; exact hcontains)
    (alone_locatedFields fm o hspelled halone)
    (fun small key target hread =>
      ComponentTable.isKnown_of_mem_names
        (Fields.mem_names_of_readsAs Bundled.resolvable_components hread))
    ((Fields.Renames.determines ho.country ho.country_other).present_eq hlocated
      (by decide)).symm
  have hcomponents : fm.data.components = Bundled.components := by rw [hdata]; rfl
  rw [normalize_fields, normalize_fields, hcode, hkey, hfrom, hcomponents]
  exact agreeOff_settledFields fm o hcomponents ho.named Bundled.isKnown_of_mem_namedKeys haliases _ _

end Renaming

/-- The layout gives a text that is not blank, so that the values of the fields are not listed in
its place. -/
def IsFilled (fm : Formatter) (n : Normalized) (cache : Cache) : Prop :=
  ∃ body text, fm.data.templates.body? n.templateKey (.ofFields n.fields) = some body ∧
    (renderBody n.fields body cache).1 = .ok text ∧
    Text.trim (fm.postformatted n.templateKey (cleanup text)).toList ≠ []

/-- The layout of an address that settles to `n` gives such a text when it shows one. -/
theorem isFilled_bundled {o : FormatOptions} {f : Fields} {n : Normalized}
    (hnormalize : bundled.normalize o f = n) {cache : Cache} (hcache : cache.Sound) {l : Layout}
    (hl : l ∈ Bundled.allLayouts)
    (hbody : Bundled.templates.body? n.templateKey (.ofFields n.fields) = some l.source)
    (hne : Text.trim (bundled.postformatted n.templateKey (cleanup (l.shown n.fields))).toList ≠ []) :
    bundled.IsFilled (bundled.normalize o f) cache := by
  rw [hnormalize]
  exact ⟨_, _, hbody, renderBody_source hcache hl _, hne⟩

/-- Both addresses are formatted, and to the same. -/
def FormatAlike (fm : Formatter) (o : FormatOptions) (f f' : Fields) (cache cache' : Cache) :
    Prop :=
  ∃ out, (fm.format o f cache).1 = .ok out ∧ (fm.format o f' cache').1 = .ok out

/-- A text that is not blank is finished by the rules of the entry alone. -/
theorem finish_congr {fm : Formatter} {n n' : Normalized} (hkey : n'.templateKey = n.templateKey)
    {text : String} (htext : Text.trim (fm.postformatted n.templateKey text).toList ≠ []) :
    fm.finish n' text = fm.finish n text := by
  have hfilled : (Text.trim (fm.postformatted n.templateKey text).toList).isEmpty = false :=
    Bool.eq_false_iff.mpr fun hnil => htext (List.isEmpty_iff.mp hnil)
  simp only [finish, hkey, hfilled, Bool.false_eq_true, if_false]

/-- Addresses that come to the same layout, with the same text, are formatted alike. -/
theorem formatAlike_of_shown {fm : Formatter} (hfm : make .bundled = .ok fm) {o : FormatOptions}
    {f f' : Fields} {cache cache' : Cache} (hcache : cache.Sound) (hcache' : cache'.Sound)
    (hfilled : fm.IsFilled (fm.normalize o f) cache)
    (hkey : (fm.normalize o f').templateKey = (fm.normalize o f).templateKey)
    (hkind : BodyKind.ofFields (fm.normalize o f').fields = .ofFields (fm.normalize o f).fields)
    (hshown : ∀ l ∈ Bundled.allLayouts, (∃ code kind, (code, kind, l.source) ∈ fm.layouts) →
      l.shown (fm.normalize o f').fields = l.shown (fm.normalize o f).fields) :
    fm.FormatAlike o f f' cache cache' := by
  have hdata := data_of_make hfm
  obtain ⟨l, hl, hbody⟩ := Bundled.exists_layout (fm.normalize o f).templateKey
    (.ofFields (fm.normalize o f).fields)
  have hbody' : Bundled.templates.body? (fm.normalize o f').templateKey
      (.ofFields (fm.normalize o f').fields) = some l.source := by
    rw [hkey, hkind, hbody]
  have hlayout : fm.data.templates.body? (fm.normalize o f).templateKey
      (.ofFields (fm.normalize o f).fields) = some l.source := by
    rw [hdata]
    exact hbody
  obtain ⟨code, hmem⟩ := mem_layouts_of_body? hlayout
  obtain ⟨body, text, hbody'', htext, hne⟩ := hfilled
  obtain rfl := Option.some.inj (hlayout.symm.trans hbody'')
  rw [renderBody_source hcache hl] at htext
  obtain rfl := Except.ok.inj htext
  refine ⟨_, format_eq_shown hfm hcache hl hbody, ?_⟩
  rw [format_eq_shown hfm hcache' hl hbody', hshown l hl ⟨code, _, hmem⟩, finish_congr hkey hne]

/-- Fields that agree but for another name are sparse alike. -/
theorem ofFields_of_agreeOff {components : ComponentTable} {key : String} {f g : Fields}
    (h : Fields.AgreeOff components key f g) (hkey : ∀ k ∈ Fields.namedKeys, k ≠ key) :
    BodyKind.ofFields g = .ofFields f := by
  rw [BodyKind.ofFields, BodyKind.ofFields, h.isPresent_eq (hkey "road" (by decide)),
    h.isPresent_eq (hkey "postcode" (by decide))]

/-- A component that is given under another name, which no layout shows, is formatted as under its
own, whatever was formatted before. -/
theorem formatAlike_rename {fm : Formatter} (hfm : make .bundled = .ok fm)
    {name : String} {aliases : List String} (hcomponent : ⟨name, aliases⟩ ∈ Bundled.components)
    (hname : name ∈ ["house", "house_number", "road", "hamlet", "neighbourhood", "city",
      "municipality", "county", "postcode"])
    {other : String} (hother : other ∈ aliases)
    (hhidden : ∀ l ∈ fm.layouts, ¬ other.toList <:+: l.2.2.toList)
    {f : Fields} (hspelled : ∀ key ∈ Table.keys f, snakeCase key = key)
    (hcontains : Table.contains f name) (haliases : ∀ key ∈ aliases, ¬ Table.contains f key)
    (hdistrict : name = "neighbourhood" → ¬ Table.contains f "district")
    (o : FormatOptions) (calls calls' : List Call)
    (hfilled : fm.IsFilled (fm.normalize o f) (calls.foldl fm.after .empty)) :
    fm.FormatAlike o f (Table.rename f name other) (calls.foldl fm.after .empty)
      (calls'.foldl fm.after .empty) := by
  have hdata := data_of_make hfm
  have hnames : ∀ name ∈ ["house", "house_number", "road", "hamlet", "neighbourhood", "city",
      "municipality", "county", "postcode"], name ∉ ["country", "state", "state_district"] := by
    decide
  have hspelled' : ∀ c ∈ Bundled.components, ∀ other ∈ c.aliases, snakeCase other = other := by
    decide +kernel
  have hcode : other ≠ "county_code" := by
    rintro rfl
    have hbody : fm.data.templates.body? "IT" .address = some Bundled.generic6.source := by
      rw [hdata]
      rfl
    obtain ⟨code, hmem⟩ := mem_layouts_of_body? hbody
    exact hhidden _ hmem (Layout.isInfix_source (by decide))
  have hstate : name ≠ "state_district" := by
    rintro rfl
    exact absurd hname (by decide)
  have ho := Bundled.isOtherName hcomponent (hnames name hname) hother hcode
  have halone := Bundled.alone hcomponent hstate haliases hdistrict
  have hagree := agreeOff_normalize fm o ho hspelled
    (hspelled' _ hcomponent other hother) halone hdata hcontains
  obtain ⟨_, hkey, _⟩ := normalize_rename_country fm o ho hspelled
    (hspelled' _ hcomponent other hother) halone hdata
  refine formatAlike_of_shown hfm (sound_foldl_after Cache.sound_empty fm calls)
    (sound_foldl_after Cache.sound_empty fm calls') hfilled hkey
    (ofFields_of_agreeOff hagree ho.named) fun l _ hmem => ?_
  obtain ⟨code, kind, hmem⟩ := hmem
  refine Layout.shown_congr fun line hline i hi => LayoutItem.shown_congr fun n hn => ?_
  have hne : n ≠ other := by
    rintro rfl
    exact hhidden _ hmem (Layout.isInfix_source
      (List.mem_flatMap.mpr ⟨line, hline, List.mem_flatMap.mpr ⟨i, hi, hn⟩⟩))
  rw [Fields.textOf, Fields.textOf, hagree.get?_eq n hne]

/-- The quarter of a town in Brazil, with a friend's name. -/
theorem formatAlike_rename_of_quarter :
    ∃ (fm : Formatter) (f : Fields), make .bundled = .ok fm ∧
      f = .ofList [("neighbourhood", "Centro"), ("country_code", "br"), ("friend", "Ana")] ∧
      Table.rename f "neighbourhood" "quarter" =
        .ofList [("quarter", "Centro"), ("country_code", "br"), ("friend", "Ana")] ∧
      (∀ l ∈ fm.layouts, ¬ "quarter".toList <:+: l.2.2.toList) ∧
      fm.IsFilled (fm.normalize {} f) ([Call.clear].foldl fm.after .empty) ∧
      fm.FormatAlike {} f (Table.rename f "neighbourhood" "quarter")
        ([Call.clear].foldl fm.after .empty) .empty := by
  have hletter : ∀ l ∈ Bundled.allLayouts, ∀ line ∈ l,
      'q' ∉ Mark.printAll (line.flatMap LayoutItem.marks ++ [.text "\n"]) := by
    decide +kernel
  have hhidden : ∀ l ∈ bundled.layouts, ¬ "quarter".toList <:+: l.2.2.toList := by
    intro l hl hinfix
    obtain ⟨e, he, hl⟩ := List.mem_flatMap.mp hl
    obtain ⟨x, hx, rfl⟩ := List.mem_map.mp hl
    obtain ⟨l, hl, hsource⟩ := Bundled.exists_layout_of_mem_bodies e he x hx
    have hq : 'q' ∈ x.2.toList := hinfix.subset (by decide)
    rw [hsource, Layout.toList_source] at hq
    obtain ⟨line, hline, hq⟩ := List.mem_flatMap.mp hq
    exact hletter l hl line hline hq
  have hfilled := isFilled_bundled (o := {}) (f := .ofList [("neighbourhood", "Centro"),
      ("country_code", "br"), ("friend", "Ana")])
    (n := ⟨.ofList [("neighbourhood", "Centro"), ("country_code", "BR"), ("friend", "Ana"),
      ("attention", "Ana")], some "BR", "BR", none⟩)
    (Normalized.eq_of_parts (by decide +kernel))
    (sound_foldl_after Cache.sound_empty bundled [.clear]) (l := Bundled.fallback1) (by decide)
    (by decide +kernel) (by decide +kernel)
  have hcomponent : ⟨"neighbourhood", ["suburb", "city_district", "quarter", "borough",
      "city_block", "commercial", "houses", "subdistrict", "subdivision", "ward"]⟩ ∈
      Bundled.components := by
    decide +kernel
  exact ⟨bundled, _, make_bundled, rfl, by decide, hhidden, hfilled,
    formatAlike_rename make_bundled hcomponent (by decide) (by decide) hhidden (by decide)
      (by decide) (by decide) (by decide) {} [.clear] [] hfilled⟩

end Formatter

end PostalAddress
