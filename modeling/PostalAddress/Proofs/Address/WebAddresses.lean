import PostalAddress.Proofs.Address.Attention
import PostalAddress.Proofs.Address.Hidden
import PostalAddress.Proofs.Address.Invariance
import PostalAddress.Proofs.Pattern.Leading

/-!
# Addresses on the web

A value that is an address on the web is left out of the settled fields. Under a key of no component
it has become part of the attention before, and stays there behind another part; in front it takes
the whole attention with it. So it is as if it were absent only when the address has no attention
without it.
-/

namespace PostalAddress

namespace Text

theorem dropFolded?_eq_some_iff {lead t r : List Char} :
    dropFolded? lead t = some r ↔ ∃ front, t = front ++ r ∧ front.map fold = lead.map fold := by
  induction lead generalizing t with
  | nil => simp [dropFolded?, eq_comm]
  | cons p ps ih =>
    cases t with
    | nil => simp [dropFolded?]
    | cons c t =>
      rw [dropFolded?]
      split
      · rename_i hfold
        rw [ih]
        constructor
        · rintro ⟨front, rfl, hfront⟩
          exact ⟨c :: front, rfl, by rw [List.map_cons, List.map_cons, hfront, hfold]⟩
        · rintro ⟨front, ht, hfront⟩
          cases front with
          | nil => cases hfront
          | cons d front =>
            obtain ⟨_, ht⟩ := List.cons.inj ht
            exact ⟨front, ht, (List.cons.inj hfront).2⟩
      · rename_i hfold
        refine ⟨nofun, ?_⟩
        rintro ⟨front, ht, hfront⟩
        cases front with
        | nil => cases hfront
        | cons d front =>
          obtain ⟨rfl, _⟩ := List.cons.inj ht
          exact absurd (List.cons.inj hfront).1.symm hfold

end Text

namespace Fields

open Text

section Fronts

/-- How addresses on the web begin. -/
def urlFronts : List (List Char) := ["http://".toList, "https://".toList]

theorem isUrl_iff {t : List Char} :
    isUrl t ↔ ∃ front rest, t = front ++ rest ∧ front.map fold ∈ urlFronts := by
  have hends : ∀ r : List Char, (dropFolded? "s://".toList r <|> dropFolded? "://".toList r).isSome ↔
      ∃ front rest, r = front ++ rest ∧
        (front.map fold = "s://".toList ∨ front.map fold = "://".toList) := by
    have hfold : "s://".toList.map fold = "s://".toList ∧ "://".toList.map fold = "://".toList := by
      decide
    intro r
    simp only [Option.orElse_eq_orElse, Option.orElse_eq_or, Option.isSome_or, Bool.or_eq_true,
      Option.isSome_iff_exists, dropFolded?_eq_some_iff, hfold.1, hfold.2]
    constructor
    · rintro (⟨rest, front, hr, hfront⟩ | ⟨rest, front, hr, hfront⟩)
      · exact ⟨front, rest, hr, .inl hfront⟩
      · exact ⟨front, rest, hr, .inr hfront⟩
    · rintro ⟨front, rest, hr, hfront | hfront⟩
      · exact .inl ⟨rest, front, hr, hfront⟩
      · exact .inr ⟨rest, front, hr, hfront⟩
  have hhttp : "http".toList.map fold = "http".toList := by decide
  have hfronts : urlFronts =
      ["http".toList ++ "://".toList, "http".toList ++ "s://".toList] := by decide
  have hsplit : isUrl t ↔ ∃ r, dropFolded? "http".toList t = some r ∧
      (dropFolded? "s://".toList r <|> dropFolded? "://".toList r).isSome := by
    unfold isUrl
    cases dropFolded? "http".toList t <;> simp
  rw [hsplit, hfronts]
  constructor
  · rintro ⟨r, hr, hrest⟩
    obtain ⟨scheme, rfl, hscheme⟩ := dropFolded?_eq_some_iff.mp hr
    obtain ⟨front, rest, rfl, hfront⟩ := (hends r).mp hrest
    refine ⟨scheme ++ front, rest, (List.append_assoc ..).symm, ?_⟩
    rw [List.map_append, hscheme, hhttp]
    obtain hfront | hfront := hfront <;> rw [hfront] <;> decide
  · rintro ⟨front, rest, rfl, hfront⟩
    have hparts : ∃ last, front.map fold = "http".toList ++ last ∧
        (last = "s://".toList ∨ last = "://".toList) := by
      simp only [List.mem_cons, List.not_mem_nil, or_false] at hfront
      exact hfront.elim (fun h => ⟨_, h, .inr rfl⟩) fun h => ⟨_, h, .inl rfl⟩
    obtain ⟨last, hmap, hlast⟩ := hparts
    obtain ⟨scheme, front, rfl, hscheme, hfront⟩ := List.map_eq_append_iff.mp hmap
    refine ⟨front ++ rest, dropFolded?_eq_some_iff.mpr ⟨scheme, List.append_assoc .., ?_⟩,
      (hends _).mpr ⟨front, rest, rfl, ?_⟩⟩
    · rw [hscheme, hhttp]
    · rwa [hfront]

theorem isUrl_of_isPrefix {front t : List Char} (hfront : front.map fold ∈ urlFronts)
    (h : front <+: t) : isUrl t := by
  obtain ⟨rest, rfl⟩ := h
  exact isUrl_iff.mpr ⟨front, rest, rfl, hfront⟩

/-- A character that is none of those of the fronts, case aside, stands in no front. -/
theorem not_mem_front {front : List Char} (hfront : front.map fold ∈ urlFronts) {c : Char}
    (hc : fold c ∉ "https:/".toList) : c ∉ front := by
  have hchars : ∀ front ∈ urlFronts, ∀ c ∈ front, c ∈ "https:/".toList := by decide
  exact fun hmem => hc (hchars _ hfront _ (List.mem_map_of_mem hmem))

/-- No separator is part of a front. -/
theorem isUrl_append_comma (t r : List Char) : isUrl (t ++ ',' :: r) = isUrl t := by
  rw [Bool.eq_iff_iff, isUrl_iff]
  constructor
  · rintro ⟨front, rest, heq, hfront⟩
    obtain ⟨s, rfl, hs⟩ | ⟨s, rfl, _⟩ := List.append_eq_append_iff.mp heq
    · cases s with
      | nil => exact isUrl_of_isPrefix hfront (by rw [List.append_nil])
      | cons c s =>
        obtain ⟨rfl, _⟩ := List.cons.inj hs
        exact absurd (List.mem_append_right t List.mem_cons_self) (not_mem_front hfront (by decide))
    · exact isUrl_of_isPrefix hfront (List.prefix_append front s)
  · intro h
    obtain ⟨front, rest, rfl, hfront⟩ := isUrl_iff.mp h
    exact ⟨front, rest ++ ',' :: r, List.append_assoc .., hfront⟩

/-- Values that are joined are an address on the web when the first of them is. -/
theorem isUrl_intercalate (parts : List String) :
    isUrl (", ".intercalate parts).toList = parts.head?.any fun part => isUrl part.toList := by
  rw [String.toList_intercalate]
  cases parts with
  | nil => decide
  | cons part parts =>
    cases parts with
    | nil => simp [List.intercalate]
    | cons next parts =>
      rw [List.map_cons, intercalate_cons _ _ (by simp), List.head?_cons, Option.any_some]
      exact isUrl_append_comma part.toList _

end Fronts

section Rules

/-- A match of the program begins with a character of no front, or starts the text with another
character than a front. -/
def SparesUrls (p : Program) : Bool :=
  p.leading?.any fun c => fold c ∉ "https:/".toList ∨ p.IsAnchored ∧ fold c ≠ 'h'

theorem isUrl_replaceFirst {p : Pattern} (h : SparesUrls p.program) (r : Replacement)
    {t : List Char} (ht : isUrl t) : isUrl (p.replaceFirst r t) := by
  obtain ⟨c, hc, hspares⟩ := (Option.any_eq_true _ _).mp h
  obtain ⟨front, rest, rfl, hfront⟩ := isUrl_iff.mp ht
  obtain houtside | ⟨hanchored, hstart⟩ := of_decide_eq_true hspares
  · exact isUrl_of_isPrefix hfront
      (Pattern.isPrefix_replaceFirst hc r (not_mem_front hfront houtside))
  · have hhead : (front ++ rest).head? ≠ some c := by
      have hheads : ∀ front ∈ urlFronts, front.head? = some 'h' := by decide
      have hfold : (front.map fold).head? = some 'h' := hheads _ hfront
      rw [List.head?_map] at hfold
      obtain ⟨d, hd, hfold⟩ := Option.map_eq_some_iff.mp hfold
      intro hhead
      rw [List.head?_append, hd] at hhead
      obtain rfl := Option.some.inj hhead
      exact hstart hfold
    rwa [Pattern.replaceFirst_eq_self hanchored hc r hhead]

end Rules

end Fields

namespace RuleTable

theorem isUrl_apply {rules : RuleTable} {field : String}
    (h : ∀ r ∈ rules, r.appliesTo (some field) → Fields.SparesUrls r.pattern.program)
    {text : String} (htext : Fields.isUrl text.toList) :
    Fields.isUrl (rules.apply (some field) text).toList := by
  have hfoldl : ∀ t : List Char, Fields.isUrl t →
      Fields.isUrl (rules.foldl (fun t r => r.apply (some field) t) t) := by
    induction rules with
    | nil => exact fun _ => id
    | cons r rules ih =>
      obtain ⟨hr, hrules⟩ := List.forall_mem_cons.mp h
      intro t ht
      rw [List.foldl_cons]
      refine ih hrules _ ?_
      unfold Rule.apply
      split
      · exact Fields.isUrl_replaceFirst (hr ‹_›) r.replacement ht
      · exact ht
  rw [apply, String.toList_ofList]
  exact hfoldl _ htext

end RuleTable

namespace Formatter

section Settling

variable {fm : Formatter} (hfm : make .bundled = .ok fm) {key : String}
  (hknown : ¬ Bundled.components.isKnown key)

include hknown

theorem not_mem_singleton_of_unknown : ∀ k ∈ Fields.namedKeys, k ∉ [key] := by
  intro k hk hmem
  obtain rfl := List.mem_singleton.mp hmem
  exact hknown (Bundled.isKnown_of_mem_namedKeys k hk)

theorem readsAs_of_unknown (small : Bool) :
    Fields.readsAs? Bundled.components small key = none := by
  have hdistrict : key ≠ "district" := by
    rintro rfl
    exact hknown (by decide)
  have hnone : Bundled.components.canonical key = none :=
    ComponentTable.canonical_eq_none_iff.mpr hknown
  rw [Fields.readsAs?, if_neg hdistrict, hnone]

theorem readsAs_ne_of_unknown (small : Bool) (k : String) :
    Fields.readsAs? Bundled.components small k ≠ some key :=
  fun h => hknown (ComponentTable.isKnown_of_mem_names
    (Fields.mem_names_of_readsAs Bundled.resolvable_components h))

include hfm

/-- Rules for input that are not meant for a component spare the addresses on the web. -/
theorem sparesUrls_of_replace {tableKey : String} {rules : RuleTable}
    (hrules : fm.replace.get? tableKey = some rules) {r : Rule} (hr : r ∈ rules)
    (happlies : r.appliesTo (some key)) : Fields.SparesUrls r.pattern.program := by
  have hbundled : ∀ e ∈ Bundled.templates.entries, ∀ s ∈ e.2.replace,
      (∀ scope ∈ s.scopeAndPattern.1, Bundled.components.isKnown scope) ∧
        (s.scopeAndPattern.1 = none →
          (Pattern.parse? s.scopeAndPattern.2).all fun p => Fields.SparesUrls p.program) := by
    decide +kernel
  obtain ⟨e, he, hsource⟩ := exists_source_of_replace hfm hrules
  obtain ⟨s, hs, hscope, hpattern⟩ := hsource r hr
  obtain ⟨hscoped, hunscoped⟩ := hbundled _ he s hs
  rw [hpattern] at hunscoped
  unfold Rule.appliesTo at happlies
  rw [hscope] at happlies
  cases hnone : s.scopeAndPattern.1 with
  | none => exact hunscoped hnone
  | some scope =>
    rw [hnone] at happlies
    have heq : scope = key := by simpa using happlies
    exact absurd (heq ▸ hscoped scope hnone) hknown

/-- The rules for input leave an address on the web one. -/
theorem exists_isUrl_foldl_applyTable {f : Fields} {value : String}
    (hget : Table.get? f key = some value) (hurl : Fields.isUrl value.toList)
    (tableKeys : List String) : ∃ value',
      Table.get? (tableKeys.foldl (applyTable fm.replace) f) key = some value' ∧
        Fields.isUrl value'.toList := by
  induction tableKeys generalizing f value with
  | nil => exact ⟨value, hget, hurl⟩
  | cons tableKey tableKeys ih =>
    rw [List.foldl_cons]
    cases hrules : fm.replace.get? tableKey with
    | none =>
      refine @ih _ value ?_ hurl
      rw [get?_applyTable, hget, hrules]
      rfl
    | some rules =>
      refine @ih _ (rules.apply (some key) value) ?_
        (RuleTable.isUrl_apply (fun r hr => sparesUrls_of_replace hfm hknown hrules hr) hurl)
      rw [get?_applyTable, hget, hrules]
      rfl

/-- No language abbreviates what is no component, nor the attention. -/
theorem get?_abbreviate_of_unknown {k : String} (hk : k ∈ [key, "attention"])
    (countryCode : Option String) (f : Fields) :
    Table.get? (fm.abbreviate countryCode f) k = Table.get? f k := by
  have hcomponents : ∀ e ∈ Bundled.abbreviations.entries, ∀ a ∈ e.2,
      Bundled.components.isKnown a.component ∧ a.component ≠ "attention" := by
    decide
  cases countryCode with
  | none => rfl
  | some code =>
    refine get?_foldl_applyTable_of_unscoped (fun language _ rules hrules r hr => ?_) f
    obtain ⟨as, has, hscope⟩ := exists_scope_of_abbreviations hfm hrules
    obtain ⟨a, ha, hr⟩ := hscope r hr
    obtain ⟨hcomponent, hattention⟩ := hcomponents _ has a ha
    refine ⟨a.component, hr, ?_⟩
    rintro rfl
    rw [List.mem_cons, List.mem_singleton] at hk
    obtain rfl | hk := hk
    · exact hknown hcomponent
    · exact hattention hk

variable (hspelled : ¬ Bundled.components.isKnown (snakeCase key)) (o : FormatOptions) (f : Fields)

include hspelled

theorem namedFields_hide :
    fm.namedFields o (Table.hide [key] f) = Table.hide [key] (fm.namedFields o f) := by
  have hcode : "country_code" ∉ [key] := not_mem_singleton_of_unknown hknown _ (by decide)
  have hkeys : Fields.normalizeKeys snakeCase fm.data.components (Table.hide [key] f) =
      Table.hide [key] (Fields.normalizeKeys snakeCase fm.data.components f) := by
    rw [data_of_make hfm]
    exact Fields.normalizeKeys_hide (List.forall_mem_singleton.mpr hspelled)
      (List.forall_mem_singleton.mpr hknown) f
  unfold namedFields
  rw [hkeys]
  cases o.countryCode with
  | none => rfl
  | some code => exact (Table.hide_insert_of_not_mem hcode _ code).symm

theorem normalize_hide_country :
    (fm.normalize o (Table.hide [key] f)).countryCode = (fm.normalize o f).countryCode ∧
      (fm.normalize o (Table.hide [key] f)).templateKey = (fm.normalize o f).templateKey ∧
      (fm.normalize o (Table.hide [key] f)).redirectedFrom = (fm.normalize o f).redirectedFrom := by
  have hR := Fields.congruence_hide (not_mem_singleton_of_unknown hknown)
  obtain ⟨hcode, htemplate, hfrom⟩ := hR.normalize_country (by decide)
    (by rw [data_of_make hfm]; exact Bundled.mem_countryKeys_of_askedFor) o
    (namedFields_hide hfm hknown hspelled o f)
  exact ⟨hcode.symm, htemplate.symm, hfrom.symm⟩

/-- The fields up to where the attention is collected are those of the address less the field. -/
theorem derivedFields_hide (tableKeys : List String) :
    fm.derivedFields tableKeys
        (Fields.resolveAliases fm.data.components (fm.locatedFields o (Table.hide [key] f))) =
      Table.hide [key] (fm.derivedFields tableKeys
        (Fields.resolveAliases fm.data.components (fm.locatedFields o f))) := by
  have hR := Fields.congruence_hide (not_mem_singleton_of_unknown hknown)
  have hcode : "country_code" ∉ [key] := not_mem_singleton_of_unknown hknown _ (by decide)
  have hlocated := hR.locatedFields (by decide)
    (by rw [data_of_make hfm]; exact Bundled.mem_countryKeys_of_askedFor) o
    (namedFields_hide hfm hknown hspelled o f)
  have haliases : Fields.resolveAliases fm.data.components
        (Table.hide [key] (fm.locatedFields o f)) =
      Table.hide [key] (Fields.resolveAliases fm.data.components (fm.locatedFields o f)) := by
    rw [data_of_make hfm]
    exact Fields.resolveAliases_hide
      (List.forall_mem_singleton.mpr (readsAs_of_unknown hknown _))
      (fun k => List.forall_mem_singleton.mpr (readsAs_ne_of_unknown hknown _ k)) hcode rfl
  rw [hlocated, haliases]
  exact hR.derivedFields rfl fm (fun _ => id) tableKeys

/-- Up to where the attention is collected, the field keeps an address on the web. -/
theorem exists_isUrl_derivedFields {value : String} (hget : Table.get? f key = some value)
    (hurl : Fields.isUrl value.toList) (tableKeys : List String) : ∃ value',
      Table.get? (fm.derivedFields tableKeys
        (Fields.resolveAliases fm.data.components (fm.locatedFields o f))) key = some value' ∧
      Fields.isUrl value'.toList := by
  have hne : ∀ k ∈ Fields.namedKeys, k ≠ key := by
    rintro k hk rfl
    exact not_mem_singleton_of_unknown hknown k hk List.mem_cons_self
  have hvalue : value ≠ "" := by
    rintro rfl
    exact absurd hurl (by decide)
  have hcountry : key ∉ Fields.countryKeys := by
    have hnamed : ∀ k ∈ Fields.countryKeys, k ∈ Fields.namedKeys := by decide
    exact fun hmem => hne key (hnamed key hmem) rfl
  have hkeys : Table.get? (Fields.normalizeKeys snakeCase fm.data.components f) key =
      some value := by
    refine Fields.get?_eq_of_present (Fields.present_normalizeKeys ?_
      (Fields.present_of_get? hget hvalue))
    rw [data_of_make hfm]
    exact Fields.stays_of_unknown hspelled hknown
  have hreads : ∀ small k, Fields.readsAs? fm.data.components small k ≠ some key := by
    rw [data_of_make hfm]
    exact readsAs_ne_of_unknown hknown
  have hswapped : Table.get? (Fields.swapNumericCountry
      (Fields.resolveAliases fm.data.components (fm.locatedFields o f))) key = some value := by
    rw [Fields.get?_swapNumericCountry_of_ne (hne _ (by decide)) (hne _ (by decide)),
      Fields.resolveAliases, Fields.get?_foldl_fillFrom_of_ne fun k _ => hreads _ k,
      get?_locatedFields fm o hcountry, hkeys]
  obtain ⟨value', hvalue', hurl'⟩ :=
    exists_isUrl_foldl_applyTable hfm hknown hswapped hurl tableKeys
  refine ⟨value', ?_, hurl'⟩
  rw [derivedFields, Fields.deriveSubdivisionCodes,
    Fields.get?_deriveCountyCode_of_ne (hne _ (by decide)),
    Fields.get?_deriveStateCode_of_ne (hne _ (by decide)) (hne _ (by decide)) (hne _ (by decide)),
    hvalue']

end Settling

section Cleaning

variable {fm : Formatter} (hfm : make .bundled = .ok fm) {key : String}
  (hknown : ¬ Bundled.components.isKnown key)

/-- A value that is left out when it is an address on the web. -/
def unlessUrl (text : String) : String := if Fields.isUrl text.toList then "" else text

include hfm hknown

theorem get?_cleanedFields_of_unknown (o : FormatOptions) (countryCode : Option String)
    {k : String} (hk : k ∈ [key, "attention"]) (f : Fields) :
    Table.get? (fm.cleanedFields o countryCode f) k =
      (Table.get? f k).filter fun value => !Fields.isUrl value.toList := by
  have hpostcode : "postcode" ≠ k := by
    rintro rfl
    rw [List.mem_cons] at hk
    obtain rfl | hk := hk
    · exact hknown (by decide)
    · exact absurd hk (by decide)
  exact get?_cleanedFields fm o countryCode hpostcode
    (fun _ => get?_abbreviate_of_unknown hfm hknown hk countryCode) f

/-- The attention is left out when it begins with an address on the web. -/
theorem textOf_attention (o : FormatOptions) (countryCode : Option String) (f : Fields) :
    (fm.cleanedFields o countryCode (Fields.collectAttention Bundled.components f)).textOf
        "attention" =
      unlessUrl (", ".intercalate (Fields.attentionParts Bundled.components f)) := by
  rw [← Fields.textOf_collectAttention, Fields.textOf,
    get?_cleanedFields_of_unknown hfm hknown o countryCode (by simp), unlessUrl, Fields.textOf]
  cases Table.get? (Fields.collectAttention Bundled.components f) "attention" with
  | none => rfl
  | some value =>
    cases hurl : Fields.isUrl value.toList <;> simp [Option.filter_some, hurl]

end Cleaning

section Parts

variable {value : String} (hurl : Fields.isUrl value.toList) {before after : List String}

/-- Parts that are some text are joined to no text only when there are none. -/
theorem intercalate_eq_empty_iff {parts : List String} (h : ∀ part ∈ parts, part ≠ "") :
    ", ".intercalate parts = "" ↔ parts = [] := by
  constructor
  · intro hempty
    cases parts with
    | nil => rfl
    | cons part parts =>
      have hpart : part.toList ≠ [] := fun hnil =>
        h part List.mem_cons_self (String.toList_eq_nil_iff.mp hnil)
      have hjoined := congrArg String.toList hempty
      rw [String.toList_intercalate, List.map_cons] at hjoined
      cases parts with
      | nil => exact absurd (by simpa [List.intercalate] using hjoined) hpart
      | cons next parts =>
        rw [List.map_cons, Text.intercalate_cons _ _ (by simp)] at hjoined
        exact absurd (List.append_eq_nil_iff.mp hjoined).1 hpart
  · rintro rfl
    rfl

include hurl

/-- An address on the web among the parts makes no difference only when there is no text without
it. -/
theorem unlessUrl_intercalate (hparts : ∀ part ∈ before ++ after, part ≠ "") :
    unlessUrl (", ".intercalate (before ++ value :: after)) =
        unlessUrl (", ".intercalate (before ++ after)) ↔
      unlessUrl (", ".intercalate (before ++ after)) = "" := by
  have hvalue : value.toList ≠ [] := by
    intro hnil
    rw [hnil] at hurl
    exact absurd hurl (by decide)
  have hlonger : ", ".intercalate (before ++ value :: after) ≠
      ", ".intercalate (before ++ after) := by
    intro heq
    have hlt := @Text.length_intercalate_lt _ ", ".toList _ hvalue (before.map String.toList)
      (after.map String.toList)
    rw [← List.map_cons, ← List.map_append, ← List.map_append, ← String.toList_intercalate,
      ← String.toList_intercalate, heq] at hlt
    exact Nat.lt_irrefl _ hlt
  have hfirst : before = [] → Fields.isUrl (", ".intercalate (before ++ value :: after)).toList := by
    rintro rfl
    rwa [Fields.isUrl_intercalate]
  unfold unlessUrl
  by_cases hshort : Fields.isUrl (", ".intercalate (before ++ after)).toList
  · have hlong : Fields.isUrl (", ".intercalate (before ++ value :: after)).toList := by
      cases before with
      | nil => exact hfirst rfl
      | cons part before =>
        rw [Fields.isUrl_intercalate] at hshort ⊢
        exact hshort
    rw [if_pos hshort, if_pos hlong]
  · rw [if_neg hshort]
    constructor
    · intro heq
      split at heq
      · exact heq.symm
      · exact absurd heq hlonger
    · intro hempty
      have hnil := (List.append_eq_nil_iff.mp ((intercalate_eq_empty_iff hparts).mp hempty)).1
      rw [if_pos (hfirst hnil), hempty]

end Parts

/-- Addresses that come to the same entry, the same texts and the same values are formatted to the
same. -/
theorem format_eq_of_textOf {fm : Formatter} (hfm : make .bundled = .ok fm) {o : FormatOptions}
    {f g : Fields} {cache cache' : Cache} (hcache : cache.Sound) (hcache' : cache'.Sound)
    (hkey : (fm.normalize o g).templateKey = (fm.normalize o f).templateKey)
    (htext : ∀ name, (fm.normalize o g).fields.textOf name = (fm.normalize o f).fields.textOf name)
    (hvalues : joinedValues (fm.normalize o g).fields = joinedValues (fm.normalize o f).fields) :
    (fm.format o g cache').1 = (fm.format o f cache).1 := by
  have hpresent : ∀ name, (fm.normalize o g).fields.isPresent name =
      (fm.normalize o f).fields.isPresent name := by
    intro name
    rw [Bool.eq_iff_iff, Fields.isPresent_iff, Fields.isPresent_iff, htext]
  have hkind : BodyKind.ofFields (fm.normalize o g).fields = .ofFields (fm.normalize o f).fields := by
    rw [BodyKind.ofFields, BodyKind.ofFields, hpresent, hpresent]
  obtain ⟨l, hl, hbody⟩ := Bundled.exists_layout (fm.normalize o f).templateKey
    (.ofFields (fm.normalize o f).fields)
  have hshown : l.shown (fm.normalize o g).fields = l.shown (fm.normalize o f).fields :=
    Layout.shown_congr fun _ _ _ _ => LayoutItem.shown_congr fun name _ => htext name
  have hfinish : ∀ text, fm.finish (fm.normalize o g) text = fm.finish (fm.normalize o f) text := by
    intro text
    rw [finish, finish, hkey, hvalues]
  rw [format_eq_shown hfm hcache hl hbody, format_eq_shown hfm hcache' hl
    (by rw [hkey, hkind, hbody]), hshown, hfinish]

section Collecting

variable {fm : Formatter} (hfm : make .bundled = .ok fm) {f : Fields} {key value : String}
  (hknown : ¬ Bundled.components.isKnown key) (o : FormatOptions) (countryCode : Option String)

include hknown

/-- The attention and the field aside, the fields come to the same. -/
theorem hide_cleanedFields :
    Table.hide [key, "attention"] (fm.cleanedFields o countryCode
        (Fields.collectAttention Bundled.components (Table.hide [key] f))) =
      Table.hide [key, "attention"] (fm.cleanedFields o countryCode
        (Fields.collectAttention Bundled.components f)) := by
  have hpostcode : ∀ k ∈ ["postcode"], k ∉ [key, "attention"] := by
    simp only [forall_eq, List.mem_cons, List.not_mem_nil, or_false, not_or]
    refine ⟨?_, by decide⟩
    rintro rfl
    exact hknown (by decide)
  refine (Fields.congruence_hide_eq hpostcode).cleanedFields ?_ fm (by decide) o countryCode
  rw [Fields.hide_collectAttention (by simp), Fields.hide_collectAttention (by simp),
    Table.hide_hide (by simp)]

include hfm

theorem textOf_cleanedFields_of_unknown (h : ∀ value ∈ Table.get? f key, Fields.isUrl value.toList) :
    (fm.cleanedFields o countryCode (Fields.collectAttention Bundled.components f)).textOf key =
      "" := by
  have hattention : "attention" ≠ key := by
    rintro rfl
    exact hknown (by decide)
  rw [Fields.textOf, get?_cleanedFields_of_unknown hfm hknown o countryCode (by simp),
    Fields.get?_collectAttention_of_ne hattention]
  cases hvalue : Table.get? f key with
  | none => rfl
  | some value => simp [Option.filter_some, h value hvalue]

/-- The attention comes to the same only when there is none without the field. -/
theorem textOf_attention_eq_iff (hget : Table.get? f key = some value)
    (hurl : Fields.isUrl value.toList) :
    (fm.cleanedFields o countryCode (Fields.collectAttention Bundled.components f)).textOf
        "attention" =
      (fm.cleanedFields o countryCode
        (Fields.collectAttention Bundled.components (Table.hide [key] f))).textOf "attention" ↔
    (fm.cleanedFields o countryCode
        (Fields.collectAttention Bundled.components (Table.hide [key] f))).textOf "attention" =
      "" := by
  have hvalue : value ≠ "" := by
    rintro rfl
    exact absurd hurl (by decide)
  have hattention : key ≠ "attention" := by
    rintro rfl
    exact hknown (by decide)
  obtain ⟨before, after, hparts, hparts'⟩ :=
    Fields.attentionParts_hide hget hvalue hknown hattention
  rw [textOf_attention hfm hknown, textOf_attention hfm hknown, hparts, hparts']
  refine unlessUrl_intercalate hurl fun part hpart => ?_
  rw [← hparts'] at hpart
  exact Fields.ne_empty_of_mem_attentionParts hpart

end Collecting

section Erasing

variable {fm : Formatter} (hfm : make .bundled = .ok fm) {f : Fields} {key value : String}
  (hknown : ¬ Bundled.components.isKnown key)
  (hspelled : ¬ Bundled.components.isKnown (snakeCase key))
  (hget : Table.get? f key = some value) (hurl : Fields.isUrl value.toList) (o : FormatOptions)

include hfm hknown hspelled hget hurl

/-- The settled fields of an address and of the one without an address on the web. -/
theorem normalize_hide :
    Table.hide [key, "attention"] (fm.normalize o (Table.hide [key] f)).fields =
        Table.hide [key, "attention"] (fm.normalize o f).fields ∧
      (fm.normalize o (Table.hide [key] f)).fields.textOf key = "" ∧
      (fm.normalize o f).fields.textOf key = "" ∧
      ((fm.normalize o f).fields.textOf "attention" =
          (fm.normalize o (Table.hide [key] f)).fields.textOf "attention" ↔
        (fm.normalize o (Table.hide [key] f)).fields.textOf "attention" = "") := by
  obtain ⟨hcode, htemplate, hfrom⟩ := normalize_hide_country hfm hknown hspelled o f
  have hcomponents : fm.data.components = Bundled.components := by rw [data_of_make hfm]; rfl
  rw [normalize_fields, normalize_fields, hcode, htemplate, hfrom, settledFields_eq,
    settledFields_eq, derivedFields_hide hfm hknown hspelled, hcomponents]
  obtain ⟨value', hget', hurl'⟩ := exists_isUrl_derivedFields hfm hknown hspelled o f hget hurl
    ((fm.normalize o f).redirectedFrom.toList ++ [(fm.normalize o f).templateKey])
  rw [hcomponents] at hget'
  refine ⟨hide_cleanedFields hknown o _, ?_, ?_,
    textOf_attention_eq_iff hfm hknown o _ hget' hurl'⟩
  · refine textOf_cleanedFields_of_unknown hfm hknown o _ fun value hvalue => ?_
    rw [Table.get?_hide_of_mem List.mem_cons_self] at hvalue
    cases hvalue
  · refine textOf_cleanedFields_of_unknown hfm hknown o _ fun value hvalue => ?_
    rw [hget'] at hvalue
    obtain rfl := Option.some.inj hvalue
    exact hurl'

/-- With the bundled tables, an address on the web under a key of no component changes nothing but
the attention. When there is no attention without it, it is as if it were absent, whatever calls
came before; otherwise the attention is another. -/
theorem format_erase_url (calls calls' : List Call) :
    (∀ name, name ≠ "attention" → (fm.normalize o f).fields.textOf name =
      (fm.normalize o (Table.erase f key)).fields.textOf name) ∧
    (¬ (fm.normalize o (Table.erase f key)).fields.isPresent "attention" →
      (fm.format o f (calls.foldl fm.after .empty)).1 =
        (fm.format o (Table.erase f key) (calls'.foldl fm.after .empty)).1) ∧
    ((fm.normalize o (Table.erase f key)).fields.isPresent "attention" →
      (fm.normalize o f).fields.textOf "attention" ≠
        (fm.normalize o (Table.erase f key)).fields.textOf "attention") := by
  obtain ⟨hhide, hnone, hnone', hattention⟩ := normalize_hide hfm hknown hspelled hget hurl o
  rw [Table.erase_eq_hide, Fields.isPresent_iff, not_not]
  have hothers : ∀ name, name ≠ "attention" → (fm.normalize o f).fields.textOf name =
      (fm.normalize o (Table.hide [key] f)).fields.textOf name := by
    intro name hname
    by_cases hkey : name = key
    · rw [hkey, hnone, hnone']
    · have hshown : name ∉ [key, "attention"] := by simp [hkey, hname]
      rw [Fields.textOf, ← Table.get?_hide hshown, ← hhide, Table.get?_hide hshown, Fields.textOf]
  refine ⟨hothers, fun hempty => ?_, fun hne heq => hne (hattention.mp heq)⟩
  have htexts : ∀ name, (fm.normalize o f).fields.textOf name =
      (fm.normalize o (Table.hide [key] f)).fields.textOf name := by
    intro name
    by_cases hname : name = "attention"
    · rw [hname]
      exact hattention.mpr hempty
    · exact hothers name hname
  have hhidden : ∀ k ∈ [key, "attention"],
      (fm.normalize o (Table.hide [key] f)).fields.textOf k = "" := by
    simp [hnone, hempty]
  have hvalues : joinedValues (fm.normalize o f).fields =
      joinedValues (fm.normalize o (Table.hide [key] f)).fields := by
    rw [← joinedValues_hide hhidden, hhide, joinedValues_hide fun k hk => ?_]
    rw [htexts, hhidden k hk]
  obtain ⟨_, htemplate, _⟩ := normalize_hide_country hfm hknown hspelled o f
  exact format_eq_of_textOf hfm (sound_foldl_after Cache.sound_empty fm calls')
    (sound_foldl_after Cache.sound_empty fm calls) htemplate.symm htexts hvalues

end Erasing

/-- A key that is spelled in another way, beside an attention that is not filled in. -/
theorem format_erase_url_of_capitals :
    ∃ (fm : Formatter) (f : Fields), make .bundled = .ok fm ∧
      f = .ofList [("webSite", "HTTPS://example.org"), ("attention", ""), ("road", "Main St")] ∧
      Table.erase f "webSite" = .ofList [("attention", ""), ("road", "Main St")] ∧
      (fm.format {} f .empty).1 =
        (fm.format {} (Table.erase f "webSite") ([Call.validate].foldl fm.after .empty)).1 := by
  have hnone : ¬ (bundled.normalize {} (.ofList [("attention", ""), ("road", "Main St")])).fields.isPresent
      "attention" := by
    decide +kernel
  refine ⟨bundled, _, make_bundled, rfl, by decide, ?_⟩
  have herase := @format_erase_url bundled make_bundled
    (.ofList [("webSite", "HTTPS://example.org"), ("attention", ""), ("road", "Main St")]) "webSite"
    "HTTPS://example.org" (by decide) (by decide) rfl (by decide) {} [] [.validate]
  exact herase.2.1 hnone

/-- A friend's name comes before the address on the web, which stays behind it. -/
theorem not_format_erase_url :
    ∃ (fm : Formatter) (f : Fields), make .bundled = .ok fm ∧
      f = .ofList [("friend", "Ana"), ("road", "Main St"), ("website", "https://example.org")] ∧
      ¬ Bundled.components.isKnown "website" ∧
      ¬ Bundled.components.isKnown (snakeCase "website") ∧
      Table.get? f "website" = some "https://example.org" ∧
      Fields.isUrl "https://example.org".toList ∧
      (fm.format {} f .empty).1 = .ok (.text "Ana, https://example.org\nMain St\n") ∧
      (fm.format {} (Table.erase f "website") .empty).1 = .ok (.text "Ana\nMain St\n") := by
  have hwith := bundled_format_eq (o := {}) (f := .ofList [("friend", "Ana"), ("road", "Main St"),
      ("website", "https://example.org")])
    (n := ⟨.ofList [("friend", "Ana"), ("road", "Main St"),
      ("attention", "Ana, https://example.org")], none, "default", none⟩)
    (Normalized.eq_of_parts (by decide +kernel))
    Cache.sound_empty (l := Bundled.generic1) (by decide) (by decide +kernel)
    (by decide +kernel : _ = "Ana, https://example.org\nMain St\n")
  have hwithout := bundled_format_eq (o := {}) (f := .ofList [("friend", "Ana"), ("road", "Main St")])
    (n := ⟨.ofList [("friend", "Ana"), ("road", "Main St"), ("attention", "Ana")], none, "default",
      none⟩)
    (Normalized.eq_of_parts (by decide +kernel))
    Cache.sound_empty (l := Bundled.generic1) (by decide) (by decide +kernel)
    (by decide +kernel : _ = "Ana\nMain St\n")
  have herase : Table.erase (.ofList [("friend", "Ana"), ("road", "Main St"),
        ("website", "https://example.org")] : Fields) "website" =
      .ofList [("friend", "Ana"), ("road", "Main St")] := by
    decide
  refine ⟨bundled, _, make_bundled, rfl, by decide, by decide, rfl, by decide, hwith, ?_⟩
  rw [herase]
  exact hwithout

end Formatter

end PostalAddress
