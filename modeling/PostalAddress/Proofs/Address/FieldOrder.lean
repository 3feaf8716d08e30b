import PostalAddress.Proofs.Address.Aliases
import PostalAddress.Proofs.Address.Invariance

/-!
# The order of the fields

A component that is left empty takes the value of the first of its other names that is filled in. When
no two of them are, the order of the fields does not tell which one it is, and every other step looks
fields up by their keys. So the order shows only where the values of the fields are listed.
-/

namespace PostalAddress

namespace Table

variable {α : Type} {s t : Table α}

/-- Tables have the same entries when they have the same values. -/
theorem perm_iff_get?_eq : s.entries.Perm t.entries ↔ ∀ key, s.get? key = t.get? key := by
  constructor
  · intro h key
    refine Option.ext fun value => ?_
    rw [get?_eq_some_iff, get?_eq_some_iff, h.mem_iff]
  · intro h
    refine (List.perm_ext_iff_of_nodup s.nodup.of_map t.nodup.of_map).mpr fun e => ?_
    have hmem : s.get? e.1 = some e.2 ↔ e ∈ s.entries := get?_eq_some_iff
    rw [← hmem, h, get?_eq_some_iff]

end Table

namespace Fields

variable {components : ComponentTable}

/-- The same entries in another order, all of them under names of components. -/
structure Reordered (components : ComponentTable) (f g : Fields) : Prop where
  perm : f.entries.Perm g.entries
  strangers_eq : strangers components f = []

namespace Reordered

variable {f g : Fields}

theorem get?_eq (h : Reordered components f g) (key : String) :
    Table.get? f key = Table.get? g key :=
  Table.perm_iff_get?_eq.mp h.perm key

theorem insert (h : Reordered components f g) {key : String} (hkey : components.isKnown key)
    (value : String) :
    Reordered components (Table.insert f key value) (Table.insert g key value) where
  perm := Table.perm_iff_get?_eq.mpr fun k => by
    rw [Table.get?_insert, Table.get?_insert, h.get?_eq]
  strangers_eq := by rw [strangers_insert hkey, h.strangers_eq]

theorem congruence {named : List String} (hknown : ∀ key ∈ named, components.isKnown key) :
    Congruence named (Reordered components) where
  get?_eq h key _ := h.get?_eq key
  insert hkey h value := h.insert (hknown _ hkey) value
  filterKeys h p := ⟨h.perm.filter _, by rw [strangers_filterKeys, h.strangers_eq]; rfl⟩
  mapEntries h edit := ⟨h.perm.map _, by rw [strangers_mapEntries, h.strangers_eq]; rfl⟩

/-- Without unknown keys nothing is added to the attention. -/
theorem collectAttention (h : Reordered components f g) :
    Reordered components (collectAttention components f) (collectAttention components g) := by
  have hstays : ∀ f : Fields, strangers components f = [] →
      Fields.collectAttention components f = f := by
    intro f hf
    rw [collectAttention_eq, hf]
    rfl
  have hstrangers : strangers components g = [] := by
    have hperm : (strangers components f).Perm (strangers components g) := h.perm.filter _
    rw [h.strangers_eq] at hperm
    exact hperm.nil_eq.symm
  rw [hstays f h.strangers_eq, hstays g hstrangers]
  exact h

end Reordered

section Aliases

variable {small : Bool}

/-- Two fields of which at most one is filled in are read in either order. -/
theorem takes_comm {f : Fields} {name key key' : String}
    (h : readsAs? components small key = some name → readsAs? components small key' = some name →
      f.isPresent key → f.isPresent key' → key = key') (value : Option String) :
    takes components small f name (takes components small f name value key) key' =
      takes components small f name (takes components small f name value key') key := by
  by_cases hkey : readsAs? components small key = some name
  · by_cases hkey' : readsAs? components small key' = some name
    · have hfilled : f.textOf key ≠ "" → f.textOf key' ≠ "" → key = key' := fun hne hne' =>
        h hkey hkey' (isPresent_iff.mpr hne) (isPresent_iff.mpr hne')
      by_cases hvalue : value.getD "" = ""
      · simp only [takes, hkey, hkey', hvalue, true_and, if_true]
        unfold textOf at hfilled
        cases hget : Table.get? f key with
        | none => cases Table.get? f key' <;> simp [hvalue]
        | some v =>
          cases hget' : Table.get? f key' with
          | none => simp [hvalue]
          | some v' =>
            rw [hget, hget'] at hfilled
            by_cases hv : v = ""
            · by_cases hv' : v' = "" <;> simp [hv, hv']
            · by_cases hv' : v' = ""
              · simp [hv, hv']
              · have heq : v = v' := by
                  rw [hfilled hv hv', hget'] at hget
                  exact (Option.some.inj hget).symm
                simp [heq]
      · simp [takes, hvalue]
    · simp [takes, hkey']
  · simp [takes, hkey]

end Aliases

/-- No two fields that are filled in are read as the same component, unless it is filled in
itself. -/
def Unambiguous (components : ComponentTable) (small : Bool) (f : Fields) : Prop :=
  ∀ name, ¬ f.isPresent name → ∀ key key', f.isPresent key → f.isPresent key' →
    readsAs? components small key = some name → readsAs? components small key' = some name →
      key = key'

theorem mem_keys_of_isPresent {f : Fields} {key : String} (h : f.isPresent key) :
    key ∈ Table.keys f := by
  have hget : Table.get? f key ≠ none := by
    intro hnone
    exact isPresent_iff.mp h (congrArg (Option.getD · "") hnone)
  obtain ⟨value, hvalue⟩ := Option.ne_none_iff_exists'.mp hget
  exact List.mem_map_of_mem (Table.get?_eq_some_iff.mp hvalue)

/-- It is enough to compare the keys of the fields. -/
theorem unambiguous_iff {small : Bool} {f : Fields} :
    Unambiguous components small f ↔ ∀ key ∈ Table.keys f, ∀ key' ∈ Table.keys f,
      f.isPresent key → f.isPresent key' →
        ∀ name ∈ readsAs? components small key, ¬ f.isPresent name →
          readsAs? components small key' = some name → key = key' :=
  ⟨fun h key _ key' _ hkey hkey' name hreads hname hreads' =>
      h name hname key key' hkey hkey' hreads hreads',
    fun h name hname key key' hkey hkey' hreads hreads' =>
      h key (mem_keys_of_isPresent hkey) key' (mem_keys_of_isPresent hkey') hkey hkey' name hreads
        hname hreads'⟩

instance (small : Bool) (f : Fields) : Decidable (Unambiguous components small f) :=
  decidable_of_iff _ unambiguous_iff.symm

theorem strangers_foldl_fillFrom {small : Bool}
    (hknown : ∀ key name, readsAs? components small key = some name → components.isKnown name)
    (keys : List String) (f : Fields) :
    strangers components (keys.foldl (fillFrom components small) f) = strangers components f := by
  induction keys generalizing f with
  | nil => rfl
  | cons key keys ih =>
    rw [List.foldl_cons, ih]
    unfold fillFrom
    split
    · rfl
    · rename_i name hname
      split
      · rfl
      · split
        · exact strangers_insert (hknown key name hname) f _
        · rfl

/-- Aliases that are told apart are resolved alike in every order. -/
theorem Reordered.resolveAliases {f g : Fields} (h : Reordered components f g) {small : Bool}
    (hsmall : (f.present "country_code").any smallDistrictCountries.contains = small)
    (hnames : ∀ key name, readsAs? components small key = some name →
      readsAs? components small name = none)
    (hknown : ∀ key name, readsAs? components small key = some name → components.isKnown name)
    (hclear : Unambiguous components small f) :
    Reordered components (resolveAliases components f) (resolveAliases components g) := by
  have hkeys : (Table.keys f).Perm (Table.keys g) := h.perm.map Prod.fst
  have htakes : ∀ name, takes components small g name = takes components small f name := by
    intro name
    funext value key
    rw [takes, takes, h.get?_eq]
  have hsmall' : (g.present "country_code").any smallDistrictCountries.contains = small := by
    rw [← present_congr (h.get?_eq "country_code"), hsmall]
  unfold Fields.resolveAliases
  rw [hsmall, hsmall']
  refine ⟨Table.perm_iff_get?_eq.mpr fun name => ?_, ?_⟩
  · rw [get?_foldl_fillFrom hnames, get?_foldl_fillFrom hnames, ← h.get?_eq, htakes]
    by_cases hfilled : f.isPresent name
    · have hvalue : (Table.get? f name).getD "" ≠ "" := isPresent_iff.mp hfilled
      rw [foldl_takes_of_filled f name hvalue, foldl_takes_of_filled f name hvalue]
    · exact hkeys.foldl_eq' (fun key _ key' _ value => takes_comm (fun hreads hreads' hkey hkey' =>
        hclear name hfilled key key' hkey hkey' hreads hreads') value) _
  · rw [strangers_foldl_fillFrom hknown, h.strangers_eq]

section Filling

variable {f : Fields} {key : String}

theorem isPresent_insertSome (h : f.isPresent key) (key' : String) {value : Option String}
    (hvalue : value ≠ some "") : isPresent (Table.insertSome f key' value) key := by
  rw [isPresent_iff] at h ⊢
  cases value with
  | none => exact h
  | some value =>
    rw [textOf, Table.insertSome, Table.get?_insert]
    split
    · exact fun hempty => hvalue (congrArg some hempty)
    · exact h

/-- A text that is more than a field never comes to nothing. -/
theorem expandField_ne_nil (f : Fields) {c : Char} {r : List Char}
    (h : c ≠ '$' ∨ r.dropWhile Text.isWord ≠ []) : expandField f (c :: r) ≠ [] := by
  rw [expandField]
  split
  · rename_i hc
    have hrest := h.resolve_left fun hne => hne hc
    dsimp only
    rw [Text.drop_length_takeWhile]
    exact fun hnil => hrest (List.append_eq_nil_iff.mp hnil).2
  · exact List.cons_ne_nil _ _

theorem moved_ne_empty (f : Fields) (code : String) : (f.moved code).map Prod.snd ≠ some "" := by
  have hcaribbean : ∀ state, (caribbean? state).map Prod.snd ≠ some "" := by
    intro state
    unfold caribbean?
    dsimp only
    split
    · decide
    · split
      · decide
      · split <;> decide
  unfold moved
  split
  · cases f.present "state" with
    | none => exact nofun
    | some state => exact hcaribbean state
  · exact nofun

variable (hkey : key ≠ "country_code")

include hkey

theorem isPresent_settleCode (h : f.isPresent key) (code : String) :
    (settleCode f code).isPresent key := by
  rw [settleCode_eq, isPresent_congr ((Table.get?_insert ..).trans (if_neg (Ne.symm hkey)))]
  exact isPresent_insertSome h "country" (moved_ne_empty f code)

theorem isPresent_resolveCountry {templates : CountryTable}
    (hchanged : ∀ e ∈ templates.entries, ∀ f : Fields, f.changedName e.2 ≠ some "")
    (hadded : ∀ e ∈ templates.entries, e.2.addedState ≠ some "") (h : f.isPresent key)
    (fallback : Option String) : (resolveCountry templates fallback f).1.isPresent key := by
  unfold resolveCountry
  split
  · exact h
  · split
    · exact isPresent_settleCode hkey h _
    · rename_i e he
      have hmem := Table.get?_eq_some_iff.mp he
      split
      · exact isPresent_settleCode hkey h _
      · refine isPresent_settleCode hkey ?_ _
        rw [applyRedirect_eq]
        exact isPresent_insertSome (isPresent_insertSome h "country" (hchanged _ hmem f)) "state"
          (hadded _ hmem)

omit hkey in
theorem isPresent_appendCountry (h : f.isPresent key) (data : AddressData) :
    (appendCountry data f).isPresent key := by
  rw [appendCountry_eq]
  by_cases hcountry : key = "country"
  · subst hcountry
    rw [if_pos h]
    exact h
  · rw [isPresent_congr (Table.get?_insertSome_of_ne (Ne.symm hcountry) f _)]
    exact h

end Filling

end Fields

namespace Bundled

theorem snakeCase_of_isKnown {key : String} (h : components.isKnown key) : snakeCase key = key := by
  have hspelled : ∀ c ∈ components, snakeCase c.name = c.name ∧
      ∀ other ∈ c.aliases, snakeCase other = other := by
    decide +kernel
  obtain hname | ⟨c, hc, halias⟩ := (ComponentTable.isKnown_iff components key).mp h
  · obtain ⟨c, hc, rfl⟩ := List.mem_map.mp hname
    exact (hspelled c hc).1
  · exact (hspelled c hc).2 key halias

/-- The country, its code and its state are given under other names, but are none themselves. -/
theorem not_mem_countryKeys_of_readsAs {small : Bool} {key name : String}
    (h : Fields.readsAs? components small key = some name) : key ∉ Fields.countryKeys := by
  have hnone : ∀ small, ∀ key ∈ Fields.countryKeys, Fields.readsAs? components small key = none := by
    decide +kernel
  intro hmem
  rw [hnone small key hmem] at h
  cases h

theorem changedName_ne_empty : ∀ e ∈ templates.entries, ∀ f : Fields,
    f.changedName e.2 ≠ some "" := by
  have hmore : ∀ e ∈ templates.entries, ∀ text ∈ e.2.changeCountry, text.toList ≠ [] ∧
      (text.toList.head? ≠ some '$' ∨ text.toList.tail.dropWhile Text.isWord ≠ []) := by
    decide
  intro e he f hempty
  obtain ⟨text, htext, hexpanded⟩ := Option.map_eq_some_iff.mp hempty
  obtain ⟨hne, hrest⟩ := hmore e he text htext
  obtain ⟨c, r, hcons⟩ := List.exists_cons_of_ne_nil hne
  rw [hcons] at hrest hexpanded
  refine Fields.expandField_ne_nil f (c := c) (r := r) ?_ ?_
  · simpa using hrest
  · rw [← String.toList_inj, String.toList_ofList] at hexpanded
    exact hexpanded

theorem addedState_ne_empty : ∀ e ∈ templates.entries, e.2.addedState ≠ some "" := by
  decide

end Bundled

namespace Formatter

/-- No two fields that are filled in are read as the same component, by the country code that the
address comes to, unless the component is filled in itself. -/
def IsUnambiguous (fm : Formatter) (o : FormatOptions) (f : Fields) : Prop :=
  Fields.Unambiguous fm.data.components
    ((fm.normalize o f).countryCode.any Fields.smallDistrictCountries.contains) f

section Reordering

variable {fm : Formatter} {f g : Fields}
  (hknown : ∀ key ∈ Table.keys f, Bundled.components.isKnown key) (o : FormatOptions)

include hknown

theorem namedFields_of_known : fm.namedFields o f =
    o.countryCode.elim f fun code => Table.insert f "country_code" code := by
  rw [namedFields, Fields.normalizeKeys_eq_self fun key hkey =>
    Bundled.snakeCase_of_isKnown (hknown key hkey)]
  cases o.countryCode with
  | none => rfl
  | some code => rfl

omit hknown in
/-- Appending the country leaves its code as it is. -/
theorem present_locatedFields :
    (fm.locatedFields o f).present "country_code" = (fm.normalize o f).countryCode := by
  have hne : "country" ≠ "country_code" := by decide
  change _ = (fm.resolvedFields o f).1.present "country_code"
  unfold locatedFields
  split
  · rw [Fields.appendCountry_eq]
    split
    · rfl
    · exact Fields.present_congr (Table.get?_insertSome_of_ne hne _ _)
  · rfl

variable (hfm : make .bundled = .ok fm)

include hfm

/-- A component that is filled in is so when its aliases are resolved. -/
theorem isPresent_locatedFields {name : String} (hname : name ≠ "country_code")
    (h : f.isPresent name) : (fm.locatedFields o f).isPresent name := by
  have hnamed : (fm.namedFields o f).isPresent name := by
    rw [namedFields_of_known hknown]
    cases o.countryCode with
    | none => exact h
    | some code =>
      rw [Option.elim_some,
        Fields.isPresent_congr ((Table.get?_insert ..).trans (if_neg (Ne.symm hname)))]
      exact h
  have hresolved : (fm.resolvedFields o f).1.isPresent name := by
    rw [resolvedFields, data_of_make hfm]
    exact Fields.isPresent_resolveCountry hname Bundled.changedName_ne_empty
      Bundled.addedState_ne_empty hnamed _
  unfold locatedFields
  split
  · exact Fields.isPresent_appendCountry hresolved _
  · exact hresolved

/-- Settling the country leaves no doubt where there was none. -/
theorem unambiguous_locatedFields (h : fm.IsUnambiguous o f) :
    Fields.Unambiguous Bundled.components
      ((fm.normalize o f).countryCode.any Fields.smallDistrictCountries.contains)
      (fm.locatedFields o f) := by
  have hspelled : ∀ key ∈ Table.keys f, snakeCase key = key := fun key hkey =>
    Bundled.snakeCase_of_isKnown (hknown key hkey)
  rw [IsUnambiguous, data_of_make hfm] at h
  intro name hname key key' hkey hkey' hreads hreads'
  have hempty : ¬ f.isPresent name := by
    have hcode : name ≠ "country_code" := by
      rintro rfl
      exact Fields.readsAs_ne_countryCode Bundled.resolvable_components _ key hreads
    exact fun hfilled => hname (isPresent_locatedFields hknown o hfm hcode hfilled)
  rw [Fields.isPresent_congr (get?_locatedFields_of_ne fm o hspelled
    (Bundled.not_mem_countryKeys_of_readsAs hreads))] at hkey
  rw [Fields.isPresent_congr (get?_locatedFields_of_ne fm o hspelled
    (Bundled.not_mem_countryKeys_of_readsAs hreads'))] at hkey'
  exact h name hempty key key' hkey hkey' hreads hreads'

variable (hperm : f.entries.Perm g.entries)

include hperm

omit hfm in
theorem reordered_namedFields :
    Fields.Reordered Bundled.components (fm.namedFields o f) (fm.namedFields o g) := by
  have hknown' : ∀ key ∈ Table.keys g, Bundled.components.isKnown key := fun key hkey =>
    hknown key ((hperm.map Prod.fst).mem_iff.mpr hkey)
  have hfields : Fields.Reordered Bundled.components f g := by
    refine ⟨hperm, List.filter_eq_nil_iff.mpr fun e he => ?_⟩
    simp [hknown e.1 (List.mem_map_of_mem he)]
  rw [namedFields_of_known hknown, namedFields_of_known hknown']
  cases o.countryCode with
  | none => exact hfields
  | some code => exact hfields.insert (by decide +kernel) code

theorem normalize_country_of_perm :
    (fm.normalize o f).countryCode = (fm.normalize o g).countryCode ∧
      (fm.normalize o f).templateKey = (fm.normalize o g).templateKey ∧
      (fm.normalize o f).redirectedFrom = (fm.normalize o g).redirectedFrom := by
  have hR := Fields.Reordered.congruence Bundled.isKnown_of_mem_namedKeys
  exact hR.normalize_country (by decide)
    (by rw [data_of_make hfm]; exact Bundled.mem_countryKeys_of_askedFor) o
    (reordered_namedFields hknown o hperm)

theorem reordered_normalize (h : fm.IsUnambiguous o f) :
    Fields.Reordered Bundled.components (fm.normalize o f).fields (fm.normalize o g).fields := by
  have hR := Fields.Reordered.congruence Bundled.isKnown_of_mem_namedKeys
  have hcomponents : fm.data.components = Bundled.components := by rw [data_of_make hfm]; rfl
  obtain ⟨hcode, htemplate, hfrom⟩ := normalize_country_of_perm hknown o hfm hperm
  have hlocated := hR.locatedFields (by decide)
    (by rw [data_of_make hfm]; exact Bundled.mem_countryKeys_of_askedFor) o
    (reordered_namedFields hknown o hperm)
  have haliases := hlocated.resolveAliases (by rw [present_locatedFields])
    (fun _ _ => Fields.readsAs_eq_none_of_readsAs Bundled.resolvable_components)
    (fun _ _ hreads => ComponentTable.isKnown_of_mem_names
      (Fields.mem_names_of_readsAs Bundled.resolvable_components hreads))
    (unambiguous_locatedFields hknown o hfm h)
  have hcollected := (hR.derivedFields haliases fm (fun _ => id)
    ((fm.normalize o f).redirectedFrom.toList ++ [(fm.normalize o f).templateKey])).collectAttention
  rw [normalize_fields, normalize_fields, ← hcode, ← htemplate, ← hfrom, settledFields_eq,
    settledFields_eq, hcomponents]
  exact hR.cleanedFields hcollected fm (by decide) o _

/-- The order of fields that are told apart shows in no address that is laid out, whatever was
formatted before. -/
theorem formatAlike_of_perm (h : fm.IsUnambiguous o f) (calls calls' : List Call) :
    (fm.normalize o f).fields.entries.Perm (fm.normalize o g).fields.entries ∧
      (fm.normalize o f).countryCode = (fm.normalize o g).countryCode ∧
      (fm.normalize o f).templateKey = (fm.normalize o g).templateKey ∧
      (fm.normalize o f).redirectedFrom = (fm.normalize o g).redirectedFrom ∧
      (fm.IsFilled (fm.normalize o f) (calls.foldl fm.after .empty) →
        fm.FormatAlike o f g (calls.foldl fm.after .empty) (calls'.foldl fm.after .empty)) := by
  obtain ⟨hcode, htemplate, hfrom⟩ := normalize_country_of_perm hknown o hfm hperm
  have hfields := reordered_normalize hknown o hfm hperm h
  refine ⟨hfields.perm, hcode, htemplate, hfrom, fun hfilled => ?_⟩
  have hsound : ∀ calls : List Call, (calls.foldl fm.after .empty).Sound := fun calls =>
    sound_foldl_after Cache.sound_empty fm calls
  have hkind : BodyKind.ofFields (fm.normalize o g).fields = .ofFields (fm.normalize o f).fields := by
    rw [BodyKind.ofFields, BodyKind.ofFields, Fields.isPresent_congr (hfields.get?_eq "road"),
      Fields.isPresent_congr (hfields.get?_eq "postcode")]
  refine formatAlike_of_shown hfm (hsound calls) (hsound calls') hfilled htemplate.symm hkind
    fun l _ _ => ?_
  refine Layout.shown_congr fun line _ i _ => LayoutItem.shown_congr fun n _ => ?_
  rw [Fields.textOf, Fields.textOf, hfields.get?_eq n]

omit hfm hknown hperm in
/-- An address in Brazil, where a district is a neighbourhood, with a suburb that is left empty. -/
theorem formatAlike_of_perm_of_district :
    ∃ (fm : Formatter) (f g : Fields), make .bundled = .ok fm ∧
      f = .ofList [("suburb", ""), ("district", "Centro"), ("town", "Olinda"),
        ("country_code", "br")] ∧
      g = .ofList [("town", "Olinda"), ("country_code", "br"), ("district", "Centro"),
        ("suburb", "")] ∧
      fm.FormatAlike {} f g .empty ([Call.validate].foldl fm.after .empty) := by
  have hsettled : bundled.normalize {} (.ofList [("suburb", ""), ("district", "Centro"),
      ("town", "Olinda"), ("country_code", "br")]) =
      ⟨.ofList [("suburb", ""), ("district", "Centro"), ("town", "Olinda"), ("country_code", "BR"),
        ("neighbourhood", "Centro"), ("city", "Olinda")], some "BR", "BR", none⟩ :=
    Normalized.eq_of_parts (by decide +kernel)
  have hfilled := isFilled_bundled hsettled Cache.sound_empty (l := Bundled.fallback1) (by decide)
    (by decide +kernel) (by decide +kernel)
  have hclear : bundled.IsUnambiguous {} (.ofList [("suburb", ""), ("district", "Centro"),
      ("town", "Olinda"), ("country_code", "br")]) := by
    rw [IsUnambiguous, hsettled]
    decide +kernel
  exact ⟨bundled, _, _, make_bundled, rfl, rfl, (formatAlike_of_perm (by decide +kernel) {} make_bundled
    (by decide +kernel) hclear [] [.validate]).2.2.2.2 hfilled⟩

end Reordering

end Formatter

end PostalAddress
