import PostalAddress.Proofs.Address.Choices
import PostalAddress.Proofs.Address.Invariance

/-!
# Towns

A town is a city under another name, and layouts show it beside the city. So it is formatted as the
city as long as it comes to the same value. The rules for input and the abbreviations may be meant
for the city alone, and so is the correction for the American capital; where none of them applies,
the town keeps the value of the city.
-/

namespace PostalAddress

namespace RuleTable

variable {rules : RuleTable} {field field' : String}

/-- Rules that are meant for neither of two fields do not tell them apart. -/
theorem apply_congr (h : ∀ r ∈ rules, r.scope ≠ some field ∧ r.scope ≠ some field')
    (text : String) : rules.apply (some field) text = rules.apply (some field') text := by
  have hfoldl : ∀ t : List Char, rules.foldl (fun t r => r.apply (some field) t) t =
      rules.foldl (fun t r => r.apply (some field') t) t := by
    induction rules with
    | nil => exact fun _ => rfl
    | cons r rules ih =>
      obtain ⟨hr, hrules⟩ := List.forall_mem_cons.mp h
      intro t
      have hrule : r.apply (some field) t = r.apply (some field') t := by
        simp [Rule.apply, Rule.appliesTo, hr.1, hr.2]
      rw [List.foldl_cons, List.foldl_cons, hrule, ih hrules]
  exact congrArg String.ofList (hfoldl _)

end RuleTable

namespace Fields

/-- The city stays, unless the state is that of the American capital. -/
theorem get?_deriveStateCode_city (data : AddressData) (country : String) (f : Fields) :
    Table.get? (deriveStateCode data country f) "city" = Table.get? f "city" ∨
      Table.get? (deriveStateCode data country f) "state" = some "District of Columbia" := by
  unfold deriveStateCode
  split
  · exact .inl rfl
  · split
    · exact .inl rfl
    · dsimp only
      split
      · right
        rw [Table.get?_insert, if_neg (by decide), Table.get?_insert, if_pos rfl]
      · left
        split
        · rw [Table.get?_insert, if_neg (by decide)]
        · rfl

end Fields

section Layouts

/-- Two of the names are those of a town and of a city, and there is no other town. -/
def TownAt (names : List String) (k : Nat) : Prop :=
  "town" ∉ names.take k ∧ "town" ∉ (names.drop k).drop 2 ∧
    (names.drop k).take 2 ∈ [["town", "city"], ["city", "town"]]

instance (names : List String) : DecidablePred (TownAt names) := fun _ =>
  inferInstanceAs (Decidable (_ ∧ _ ∧ _))

/-- Layouts show a town only in a choice, and beside the city. -/
theorem Bundled.exists_townAt : ∀ l ∈ allLayouts, ∀ line ∈ l, ∀ i ∈ line, "town" ∈ i.names →
    i = .firstOf i.names ∧ ∃ k ∈ List.range i.names.length, TownAt i.names k := by
  decide +kernel

variable {f g : Fields} (hsame : ∀ name, name ≠ "town" → g.textOf name = f.textOf name)
  (hnone : f.textOf "town" = "") (htown : g.textOf "town" = f.textOf "city")

include hsame hnone htown

/-- A choice shows a town as it shows the city beside it. -/
theorem LayoutItem.shown_of_townAt {names : List String} {k : Nat} (h : TownAt names k) :
    (LayoutItem.firstOf names).shown g = (LayoutItem.firstOf names).shown f := by
  obtain ⟨hbefore, hafter, hpair⟩ := h
  have hnames : names = names.take k ++ ((names.drop k).take 2 ++ (names.drop k).drop 2) := by
    rw [List.take_append_drop, List.take_append_drop]
  have hapart : ∀ names : List String, "town" ∉ names →
      (names.flatMap fun name => options (g.textOf name)) =
        names.flatMap fun name => options (f.textOf name) := by
    intro names hnames
    refine List.flatMap_congr fun name hname => ?_
    have hne : name ≠ "town" := by
      rintro rfl
      exact hnames hname
    rw [hsame name hne]
  have hcity : g.textOf "city" = f.textOf "city" := hsame "city" (by decide)
  have hheads : (((names.drop k).take 2).flatMap fun name => options (g.textOf name)).head? =
      (((names.drop k).take 2).flatMap fun name => options (f.textOf name)).head? := by
    rw [List.mem_cons, List.mem_singleton] at hpair
    obtain hpair | hpair := hpair <;> simp [hpair, htown, hcity, hnone, options_of_blank]
  have hne : names ≠ [] := by
    rintro rfl
    simp at hpair
  rw [shown_firstOf g hne, shown_firstOf f hne, hnames]
  simp only [List.flatMap_append, List.head?_append, hapart _ hbefore, hapart _ hafter, hheads]

theorem Layout.shown_of_town {l : Layout} (hl : l ∈ Bundled.allLayouts) :
    l.shown g = l.shown f := by
  refine Layout.shown_congr fun line hline i hi => ?_
  by_cases hmem : "town" ∈ i.names
  · obtain ⟨hchoice, k, _, htownAt⟩ := Bundled.exists_townAt l hl line hline i hi hmem
    rw [hchoice]
    exact LayoutItem.shown_of_townAt hsame hnone htown htownAt
  · refine LayoutItem.shown_congr fun name hname => hsame name ?_
    rintro rfl
    exact hmem hname

end Layouts

namespace Formatter

variable {fm : Formatter}

theorem get?_foldl_applyTable_eq_none {tables : Table RuleTable} {key : String} {f : Fields}
    (h : Table.get? f key = none) (tableKeys : List String) :
    Table.get? (tableKeys.foldl (applyTable tables) f) key = none := by
  induction tableKeys generalizing f with
  | nil => exact h
  | cons tableKey tableKeys ih => exact ih (by rw [get?_applyTable, h]; rfl)

/-- Tables that do not tell two fields apart keep them equal. -/
theorem get?_foldl_applyTable_congr {tables : Table RuleTable} {tableKeys : List String}
    {key key' : String} (h : ∀ tableKey ∈ tableKeys, ∀ rules, tables.get? tableKey = some rules →
      ∀ r ∈ rules, r.scope ≠ some key ∧ r.scope ≠ some key') {f g : Fields}
    (heq : Table.get? f key = Table.get? g key') :
    Table.get? (tableKeys.foldl (applyTable tables) f) key =
      Table.get? (tableKeys.foldl (applyTable tables) g) key' := by
  induction tableKeys generalizing f g with
  | nil => exact heq
  | cons tableKey tableKeys ih =>
    obtain ⟨hfirst, hrest⟩ := List.forall_mem_cons.mp h
    refine ih hrest ?_
    rw [get?_applyTable, get?_applyTable, heq]
    cases hget : tables.get? tableKey with
    | none => rfl
    | some rules => simp [RuleTable.apply_congr (hfirst rules hget)]

/-- A field that the last steps do not name stays, unless its value is an address on the web. -/
theorem get?_settledFields (fm : Formatter) (o : FormatOptions) (tableKeys : List String)
    (countryCode : Option String) (f : Fields) :
    ∃ country, ∀ key ∉ ["attention", "county_code", "postcode"],
      (o.abbreviate → ∀ f : Fields,
        Table.get? (fm.abbreviate countryCode f) key = Table.get? f key) →
      Table.get? (fm.settledFields o tableKeys countryCode f) key =
        (Table.get? (Fields.deriveStateCode fm.data country
          (tableKeys.foldl (applyTable fm.replace) f.swapNumericCountry)) key).filter
            fun value => !Fields.isUrl value.toList := by
  refine ⟨((tableKeys.foldl (applyTable fm.replace) f.swapNumericCountry).present
    "country_code").getD "", fun key hkey habbreviate => ?_⟩
  have hattention : "attention" ≠ key := fun heq => hkey (heq ▸ by decide)
  have hcounty : "county_code" ≠ key := fun heq => hkey (heq ▸ by decide)
  have hpostcode : "postcode" ≠ key := fun heq => hkey (heq ▸ by decide)
  rw [settledFields_eq, get?_cleanedFields fm o countryCode hpostcode habbreviate,
    Fields.get?_collectAttention_of_ne hattention, derivedFields, Fields.deriveSubdivisionCodes,
    Fields.get?_deriveCountyCode_of_ne hcounty]

section Bundled

variable {o : FormatOptions} {tableKeys : List String} {countryCode : Option String}
  (hfm : make .bundled = .ok fm)

include hfm

/-- The rules for input are meant for a city alone only in Germany. -/
theorem scope_of_replace (hkeys : "DE" ∉ tableKeys) : ∀ key ∈ tableKeys, ∀ rules,
    fm.replace.get? key = some rules → ∀ r ∈ rules, r.scope ≠ some "town" ∧ r.scope ≠ some "city" := by
  have hscopes : ∀ e ∈ Bundled.templates.entries, e.1 ≠ "DE" → ∀ s ∈ e.2.replace,
      s.scopeAndPattern.1 ≠ some "town" ∧ s.scopeAndPattern.1 ≠ some "city" := by
    decide +kernel
  intro key hkey rules hrules r hr
  obtain ⟨e, he, hsource⟩ := exists_source_of_replace hfm hrules
  obtain ⟨s, hs, hr, _⟩ := hsource r hr
  have hne : key ≠ "DE" := fun heq => hkeys (heq ▸ hkey)
  rw [hr]
  exact hscopes _ he hne s hs

/-- Only German and French have abbreviations for a city, and no language has any for a town or a
state. -/
theorem get?_abbreviate {key : String} (hkey : key ∈ ["state", "town"] ∨ key = "city" ∧
      ∀ code ∈ countryCode, ∀ language ∈ fm.data.languages code,
        language ≠ "de" ∧ language ≠ "fr") (f : Fields) :
    Table.get? (fm.abbreviate countryCode f) key = Table.get? f key := by
  have hscopes : ∀ e ∈ Bundled.abbreviations.entries, ∀ a ∈ e.2,
      a.component ∉ ["state", "town"] ∧ (e.1 ≠ "de" ∧ e.1 ≠ "fr" → a.component ≠ "city") := by
    decide +kernel
  cases countryCode with
  | none => rfl
  | some code =>
    refine get?_foldl_applyTable_of_unscoped (fun language hlanguage rules hrules r hr => ?_) f
    obtain ⟨as, has, hscope⟩ := exists_scope_of_abbreviations hfm hrules
    obtain ⟨a, ha, hr⟩ := hscope r hr
    obtain ⟨hnever, hcity⟩ := hscopes _ has a ha
    refine ⟨a.component, hr, ?_⟩
    obtain hkey | ⟨rfl, hlanguages⟩ := hkey
    · rintro rfl
      exact hnever hkey
    · exact hcity (hlanguages code rfl language hlanguage)

theorem get?_settledFields_town_eq_none {f : Fields} (h : Table.get? f "town" = none) :
    Table.get? (fm.settledFields o tableKeys countryCode f) "town" = none := by
  obtain ⟨country, hsettled⟩ := get?_settledFields fm o tableKeys countryCode f
  have hswapped : Table.get? f.swapNumericCountry "town" = none := by
    rw [Fields.get?_swapNumericCountry_of_ne (by decide) (by decide), h]
  rw [hsettled "town" (by decide) fun _ => get?_abbreviate hfm (.inl (by decide)),
    Fields.get?_deriveStateCode_of_ne (by decide) (by decide) (by decide),
    get?_foldl_applyTable_eq_none hswapped]
  rfl

/-- A town comes to the value of the city, where nothing is done to the city alone. -/
theorem get?_settledFields_town (hkeys : "DE" ∉ tableKeys)
    (hlanguages : o.abbreviate → ∀ code ∈ countryCode, ∀ language ∈ fm.data.languages code,
      language ≠ "de" ∧ language ≠ "fr") {f f' : Fields}
    (heq : Table.get? f' "town" = Table.get? f "city")
    (hstate : Table.get? (fm.settledFields o tableKeys countryCode f) "state" ≠
      some "District of Columbia") :
    Table.get? (fm.settledFields o tableKeys countryCode f') "town" =
      Table.get? (fm.settledFields o tableKeys countryCode f) "city" := by
  have hkeep : ∀ key ∈ ["state", "town"], o.abbreviate → ∀ f : Fields,
      Table.get? (fm.abbreviate countryCode f) key = Table.get? f key :=
    fun key hkey _ => get?_abbreviate hfm (.inl hkey)
  obtain ⟨country, hsettled⟩ := get?_settledFields fm o tableKeys countryCode f
  obtain ⟨country', hsettled'⟩ := get?_settledFields fm o tableKeys countryCode f'
  have hswapped : Table.get? f'.swapNumericCountry "town" =
      Table.get? f.swapNumericCountry "city" := by
    rw [Fields.get?_swapNumericCountry_of_ne (by decide) (by decide),
      Fields.get?_swapNumericCountry_of_ne (by decide) (by decide), heq]
  have htables := get?_foldl_applyTable_congr (scope_of_replace hfm hkeys) hswapped
  have hcity : Table.get? (Fields.deriveStateCode fm.data country
      (tableKeys.foldl (applyTable fm.replace) f.swapNumericCountry)) "city" =
      Table.get? (tableKeys.foldl (applyTable fm.replace) f.swapNumericCountry) "city" := by
    refine (Fields.get?_deriveStateCode_city fm.data country _).resolve_right fun hcapital => ?_
    rw [hsettled "state" (by decide) (hkeep _ (by decide)), hcapital] at hstate
    exact hstate (by decide)
  rw [hsettled "city" (by decide) fun habbreviate => get?_abbreviate hfm
      (.inr ⟨rfl, hlanguages habbreviate⟩), hcity,
    hsettled' "town" (by decide) (hkeep _ (by decide)),
    Fields.get?_deriveStateCode_of_ne (by decide) (by decide) (by decide), htables]

omit hfm in
theorem get?_resolveAliases_town (hdata : fm.data = .bundled) (f : Fields) :
    Table.get? (Fields.resolveAliases fm.data.components f) "town" = Table.get? f "town" := by
  have hreads : ∀ small key, Fields.readsAs? Bundled.components small key ≠ some "town" :=
    fun small key h => absurd (Fields.mem_names_of_readsAs Bundled.resolvable_components h) (by decide)
  rw [hdata]
  exact Fields.get?_foldl_fillFrom_of_ne (fun key _ => hreads _ key) f

omit hfm in
theorem isOtherName_town : Fields.IsOtherName Bundled.components "city" "town" := by
  have hcomponent : ⟨"city", ["town", "township"]⟩ ∈ Bundled.components := by decide
  exact Bundled.isOtherName hcomponent (by decide) (by decide) (by decide)

omit hfm in
theorem alone_city {f : Fields} (htown : ¬ Table.contains f "town")
    (htownship : ¬ Table.contains f "township") : Fields.Alone Bundled.components "city" f := by
  have hcomponent : ⟨"city", ["town", "township"]⟩ ∈ Bundled.components := by decide
  refine Bundled.alone hcomponent (by decide) ?_ fun h => absurd h (by decide)
  rw [List.forall_mem_cons, List.forall_mem_singleton]
  exact ⟨htown, htownship⟩

variable {f : Fields} (hspelled : ∀ key ∈ Table.keys f, snakeCase key = key)
  (htown : ¬ Table.contains f "town") (htownship : ¬ Table.contains f "township")

include hspelled htown htownship

/-- A city that is given as a town comes to the value of the city outside Germany, where no language
of the country abbreviates cities, and where the state does not come to the District of Columbia. -/
theorem get?_normalize_town (o : FormatOptions) (hcountry : (fm.normalize o f).templateKey ≠ "DE")
    (hlanguages : o.abbreviate → ∀ code ∈ (fm.normalize o f).countryCode,
      ∀ language ∈ fm.data.languages code, language ≠ "de" ∧ language ≠ "fr")
    (hstate : Table.get? (fm.normalize o f).fields "state" ≠ some "District of Columbia") :
    Table.get? (fm.normalize o (Table.rename f "city" "town")).fields "town" =
      Table.get? (fm.normalize o f).fields "city" := by
  have hdata := data_of_make hfm
  have hspelled' : snakeCase "town" = "town" := by decide
  have halone := alone_city htown htownship
  obtain ⟨hcode, hkey, hfrom⟩ := normalize_rename_country fm o isOtherName_town
    hspelled hspelled' halone hdata
  have hlocated := renames_locatedFields fm o isOtherName_town hspelled hspelled'
    halone hdata
  have hkeys : "DE" ∉ (fm.normalize o f).redirectedFrom.toList ++
      [(fm.normalize o f).templateKey] := by
    rw [List.mem_append, List.mem_singleton, Option.mem_toList]
    rintro (hredirected | hkey)
    · obtain ⟨e, he, huse⟩ := Fields.exists_useCountry_of_resolveCountry hredirected
      have hgermany : ∀ e ∈ Table.get? Bundled.templates "DE", e.useCountry = none := by
        decide
      rw [hdata] at he
      rw [hgermany e he] at huse
      cases huse
    · exact hcountry hkey.symm
  have hresolved : Table.get? (Fields.resolveAliases fm.data.components
      (fm.locatedFields o (Table.rename f "city" "town"))) "town" =
      Table.get? (Fields.resolveAliases fm.data.components (fm.locatedFields o f)) "city" := by
    have hreads := (alone_locatedFields fm o hspelled halone).readsAs_ne
    rw [get?_resolveAliases_town hdata, hlocated.get?_new, hdata]
    exact (Fields.get?_foldl_fillFrom_of_ne (hreads _) _).symm
  rw [normalize_fields] at hstate
  rw [normalize_fields, normalize_fields, hcode, hkey, hfrom]
  exact get?_settledFields_town hfm hkeys hlanguages hresolved hstate

/-- A city that is given as a town is formatted as a city when it comes to the same value, as it does
where nothing is done to cities alone. -/
theorem formatAlike_rename_town (hcity : Table.contains f "city") (o : FormatOptions)
    (calls calls' : List Call)
    (hfilled : fm.IsFilled (fm.normalize o f) (calls.foldl fm.after .empty)) :
    ((fm.normalize o (Table.rename f "city" "town")).fields.textOf "town" =
        (fm.normalize o f).fields.textOf "city" →
      fm.FormatAlike o f (Table.rename f "city" "town") (calls.foldl fm.after .empty)
        (calls'.foldl fm.after .empty)) ∧
    ((fm.normalize o f).templateKey ≠ "DE" →
      (o.abbreviate → ∀ code ∈ (fm.normalize o f).countryCode,
        ∀ language ∈ fm.data.languages code, language ≠ "de" ∧ language ≠ "fr") →
      Table.get? (fm.normalize o f).fields "state" ≠ some "District of Columbia" →
      fm.FormatAlike o f (Table.rename f "city" "town") (calls.foldl fm.after .empty)
        (calls'.foldl fm.after .empty)) := by
  have hdata := data_of_make hfm
  have hspelled' : snakeCase "town" = "town" := by decide
  have halone := alone_city htown htownship
  have hagree := agreeOff_normalize fm o isOtherName_town hspelled hspelled' halone
    hdata hcity
  obtain ⟨hcode, hkey, hfrom⟩ := normalize_rename_country fm o isOtherName_town
    hspelled hspelled' halone hdata
  have hnone : (fm.normalize o f).fields.textOf "town" = "" := by
    have hget : Table.get? f "town" = none := Option.not_isSome_iff_eq_none.mp htown
    rw [Fields.textOf, normalize_fields, get?_settledFields_town_eq_none hfm]
    · rfl
    · rw [get?_resolveAliases_town hdata, get?_locatedFields_of_ne fm o hspelled (by decide), hget]
  have halike : (fm.normalize o (Table.rename f "city" "town")).fields.textOf "town" =
      (fm.normalize o f).fields.textOf "city" →
      fm.FormatAlike o f (Table.rename f "city" "town") (calls.foldl fm.after .empty)
        (calls'.foldl fm.after .empty) := by
    intro hvalue
    refine formatAlike_of_shown hfm (sound_foldl_after Cache.sound_empty fm calls)
      (sound_foldl_after Cache.sound_empty fm calls') hfilled hkey
      (ofFields_of_agreeOff hagree isOtherName_town.named) fun l hl _ => ?_
    refine Layout.shown_of_town (fun name hne => ?_) hnone hvalue hl
    rw [Fields.textOf, Fields.textOf, hagree.get?_eq name hne]
  refine ⟨halike, fun hcountry hlanguages hstate => halike ?_⟩
  rw [Fields.textOf, Fields.textOf,
    get?_normalize_town hfm hspelled htown htownship o hcountry hlanguages hstate]

omit hfm hspelled htown htownship

/-- A city in the United States that is named for a saint, with abbreviations. -/
theorem formatAlike_rename_town_of_saint :
    ∃ (fm : Formatter) (f : Fields), make .bundled = .ok fm ∧
      f = .ofList [("city", "Saint Paul"), ("state", "Minnesota"), ("country_code", "us")] ∧
      fm.IsFilled (fm.normalize { abbreviate := true } f) .empty ∧
      fm.FormatAlike { abbreviate := true } f (Table.rename f "city" "town") .empty
        ([Call.validate].foldl fm.after .empty) := by
  have hsettled : bundled.normalize { abbreviate := true }
      (.ofList [("city", "Saint Paul"), ("state", "Minnesota"), ("country_code", "us")]) =
      ⟨.ofList [("city", "Saint Paul"), ("state", "Minnesota"), ("country_code", "US"),
        ("state_code", "MN")], some "US", "US", none⟩ :=
    Normalized.eq_of_parts (by decide +kernel)
  have hfilled := isFilled_bundled hsettled Cache.sound_empty (l := Bundled.fallback3) (by decide)
    (by decide +kernel) (by decide +kernel)
  refine ⟨bundled, _, make_bundled, rfl, hfilled, ?_⟩
  refine (formatAlike_rename_town make_bundled (by decide) (by decide) (by decide) (by decide) _ []
    [.validate] hfilled).2 (by rw [hsettled]; decide) (fun _ code hcode language hlanguage => ?_)
    (by rw [hsettled]; decide)
  rw [hsettled] at hcode
  obtain rfl := Option.some.inj hcode
  obtain rfl := List.mem_singleton.mp hlanguage
  decide

/-- A part of a town in Germany: the rule that takes the word away is meant for cities. -/
theorem not_formatAlike_rename_town :
    ∃ (fm : Formatter) (f : Fields), make .bundled = .ok fm ∧
      f = .ofList [("city", "Stadtteil Mitte"), ("country_code", "DE")] ∧
      (∀ key ∈ Table.keys f, snakeCase key = key) ∧ Table.contains f "city" ∧
      ¬ Table.contains f "town" ∧ ¬ Table.contains f "township" ∧
      fm.IsFilled (fm.normalize {} f) .empty ∧
      ¬ fm.FormatAlike {} f (Table.rename f "city" "town") .empty .empty := by
  have hsettled : bundled.normalize {}
      (.ofList [("city", "Stadtteil Mitte"), ("country_code", "DE")]) =
      ⟨.ofList [("city", "Mitte"), ("country_code", "DE")], some "DE", "DE", none⟩ :=
    Normalized.eq_of_parts (by decide +kernel)
  have hcity := bundled_format_eq hsettled Cache.sound_empty (l := Bundled.fallback1) (by decide)
    (by decide +kernel) (by decide +kernel : _ = "Mitte\n")
  have htown := bundled_format_eq (o := {})
    (f := .ofList [("town", "Stadtteil Mitte"), ("country_code", "DE")])
    (n := ⟨.ofList [("town", "Stadtteil Mitte"), ("country_code", "DE"), ("city", "Mitte")],
      some "DE", "DE", none⟩) (Normalized.eq_of_parts (by decide +kernel)) Cache.sound_empty
    (l := Bundled.fallback1) (by decide) (by decide +kernel)
    (by decide +kernel : _ = "Stadtteil Mitte\n")
  have hfilled := isFilled_bundled hsettled Cache.sound_empty (l := Bundled.fallback1) (by decide)
    (by decide +kernel) (by decide +kernel)
  have hrename : Table.rename (.ofList [("city", "Stadtteil Mitte"), ("country_code", "DE")] : Fields)
      "city" "town" = .ofList [("town", "Stadtteil Mitte"), ("country_code", "DE")] := by
    decide
  refine ⟨bundled, _, make_bundled, rfl, by decide, by decide, by decide, by decide, hfilled, ?_⟩
  rintro ⟨out, hout, hout'⟩
  rw [hrename, htown, ← hout, hcity] at hout'
  exact absurd hout' (by decide)

end Bundled

end Formatter

end PostalAddress
