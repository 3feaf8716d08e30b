import PostalAddress.Proofs.Address.Settling

/-!
# Fields that a step leaves alone

A step writes the fields that it names. Every other field stays as it is, but for the rules and the
abbreviations that are meant for it.
-/

namespace PostalAddress

namespace RuleTable

variable {rules : RuleTable} {field : String}

/-- Rules that are meant for other fields leave a text alone. -/
theorem apply_eq_self (h : ∀ r ∈ rules, ∃ field', r.scope = some field' ∧ field' ≠ field)
    (text : String) : rules.apply (some field) text = text := by
  have hfoldl : ∀ t : List Char, rules.foldl (fun t r => r.apply (some field) t) t = t := by
    induction rules with
    | nil => exact fun _ => rfl
    | cons r rules ih =>
      obtain ⟨⟨field', hscope, hne⟩, hrules⟩ := List.forall_mem_cons.mp h
      intro t
      have hrule : r.apply (some field) t = t := by
        simp [Rule.apply, Rule.appliesTo, hscope, hne]
      rw [List.foldl_cons, hrule, ih hrules]
  rw [apply, hfoldl, String.ofList_toList]

end RuleTable

namespace Fields

variable {key : String}

section Keys

variable {templates : CountryTable} {fallback : Option String} (hkey : key ∉ countryKeys)

include hkey

theorem get?_applyRedirect_of_ne (f : Fields) (e : CountryEntry) :
    Table.get? (applyRedirect f e) key = Table.get? f key := by
  have hcountry : "country" ≠ key := fun heq => hkey (heq ▸ by decide)
  have hstate : "state" ≠ key := fun heq => hkey (heq ▸ by decide)
  rw [applyRedirect_eq, Table.get?_insertSome_of_ne hstate, Table.get?_insertSome_of_ne hcountry]

theorem get?_settleCode_of_ne (f : Fields) (code : String) :
    Table.get? (settleCode f code) key = Table.get? f key := by
  have hcountry : "country" ≠ key := fun heq => hkey (heq ▸ by decide)
  have hcode : "country_code" ≠ key := fun heq => hkey (heq ▸ by decide)
  rw [settleCode_eq, Table.get?_insert, if_neg hcode, Table.get?_insertSome_of_ne hcountry]

theorem get?_resolveCountry_of_ne (f : Fields) :
    Table.get? (resolveCountry templates fallback f).1 key = Table.get? f key := by
  unfold resolveCountry
  split
  · rfl
  · split
    · exact get?_settleCode_of_ne hkey f _
    · split
      · exact get?_settleCode_of_ne hkey f _
      · exact (get?_settleCode_of_ne hkey _ _).trans (get?_applyRedirect_of_ne hkey f _)

theorem get?_appendCountry_of_ne (data : AddressData) (f : Fields) :
    Table.get? (appendCountry data f) key = Table.get? f key := by
  have hcountry : "country" ≠ key := fun heq => hkey (heq ▸ by decide)
  rw [appendCountry_eq, Table.get?_insertSome_of_ne hcountry]

end Keys

theorem get?_foldl_fillFrom_of_ne {components : ComponentTable} {small : Bool} {keys : List String}
    (hkeys : ∀ k ∈ keys, readsAs? components small k ≠ some key) (f : Fields) :
    Table.get? (keys.foldl (fillFrom components small) f) key = Table.get? f key := by
  induction keys generalizing f with
  | nil => rfl
  | cons k keys ih =>
    obtain ⟨hk, hkeys⟩ := List.forall_mem_cons.mp hkeys
    rw [List.foldl_cons, ih hkeys]
    unfold fillFrom
    split
    · rfl
    · rename_i name hname
      split
      · rfl
      · split
        · have hne : name ≠ key := fun heq => hk (heq ▸ hname)
          rw [Table.get?_insert, if_neg hne]
        · rfl

theorem get?_swapNumericCountry_of_ne (hcountry : "country" ≠ key) (hstate : "state" ≠ key)
    (f : Fields) : Table.get? f.swapNumericCountry key = Table.get? f key := by
  unfold swapNumericCountry
  split
  · split
    · rw [Table.get?_insert, if_neg hcountry, Table.get?_erase_of_ne hstate]
    · rfl
  · rfl

theorem get?_deriveCountyCode_of_ne (hne : "county_code" ≠ key) (data : AddressData)
    (country : String) (f : Fields) :
    Table.get? (deriveCountyCode data country f) key = Table.get? f key := by
  unfold deriveCountyCode
  split
  · rfl
  · split
    · rw [Table.get?_insert, if_neg hne]
    · rfl

theorem get?_collectAttention_of_ne (hne : "attention" ≠ key) (components : ComponentTable)
    (f : Fields) : Table.get? (collectAttention components f) key = Table.get? f key := by
  unfold collectAttention
  dsimp only
  split
  · rfl
  · rw [Table.get?_insert, if_neg hne]

theorem get?_cleanPostcode_of_ne (hne : "postcode" ≠ key) (f : Fields) :
    Table.get? f.cleanPostcode key = Table.get? f key := by
  unfold cleanPostcode
  split
  · rfl
  · split
    · exact Table.get?_erase_of_ne hne f
    · split
      · rw [Table.get?_insert, if_neg hne]
      · rfl

theorem get?_deriveStateCode_of_ne (hcode : "state_code" ≠ key) (hstate : "state" ≠ key)
    (hcity : "city" ≠ key) (data : AddressData) (country : String) (f : Fields) :
    Table.get? (deriveStateCode data country f) key = Table.get? f key := by
  unfold deriveStateCode
  split
  · rfl
  · split
    · rfl
    · dsimp only
      split <;> split <;>
        simp only [Table.get?_insert, if_neg hcode, if_neg hstate, if_neg hcity]

end Fields

namespace Formatter

theorem get?_applyTable (tables : Table RuleTable) (f : Fields) (tableKey key : String) :
    Table.get? (applyTable tables f tableKey) key = (Table.get? f key).map fun value =>
      match tables.get? tableKey with
      | some rules => rules.apply (some key) value
      | none => value := by
  unfold applyTable
  cases tables.get? tableKey with
  | none => simp
  | some rules => exact Table.get?_mapEntries _ f key

/-- Tables whose rules are meant for other fields leave a field alone. -/
theorem get?_foldl_applyTable_of_unscoped {tables : Table RuleTable} {tableKeys : List String}
    {key : String} (h : ∀ tableKey ∈ tableKeys, ∀ rules, tables.get? tableKey = some rules →
      ∀ r ∈ rules, ∃ field, r.scope = some field ∧ field ≠ key) (f : Fields) :
    Table.get? (tableKeys.foldl (applyTable tables) f) key = Table.get? f key := by
  induction tableKeys generalizing f with
  | nil => rfl
  | cons tableKey tableKeys ih =>
    obtain ⟨hfirst, hrest⟩ := List.forall_mem_cons.mp h
    rw [List.foldl_cons, ih hrest, get?_applyTable]
    cases hget : tables.get? tableKey with
    | none => simp
    | some rules => simp [RuleTable.apply_eq_self (hfirst rules hget)]

/-- The steps between the spelling of the keys and the aliases leave a field alone. -/
theorem get?_locatedFields (fm : Formatter) (o : FormatOptions) {key : String}
    (hkey : key ∉ Fields.countryKeys) (f : Fields) :
    Table.get? (fm.locatedFields o f) key =
      Table.get? (Fields.normalizeKeys snakeCase fm.data.components f) key := by
  have hne : "country_code" ≠ key := fun heq => hkey (heq ▸ by decide)
  have hnamed : Table.get? (fm.namedFields o f) key =
      Table.get? (Fields.normalizeKeys snakeCase fm.data.components f) key := by
    unfold namedFields
    cases o.countryCode with
    | none => rfl
    | some code => exact (Table.get?_insert ..).trans (if_neg hne)
  have hresolved : Table.get? (fm.resolvedFields o f).1 key =
      Table.get? (fm.namedFields o f) key :=
    Fields.get?_resolveCountry_of_ne hkey _
  rw [← hnamed, ← hresolved]
  unfold locatedFields
  split
  · exact Fields.get?_appendCountry_of_ne hkey _ _
  · rfl

/-- The last steps leave a field alone, but for its value being an address on the web. -/
theorem get?_cleanedFields (fm : Formatter) (o : FormatOptions) (countryCode : Option String)
    {key : String} (hpostcode : "postcode" ≠ key)
    (habbreviate : o.abbreviate → ∀ f : Fields,
      Table.get? (fm.abbreviate countryCode f) key = Table.get? f key) (f : Fields) :
    Table.get? (fm.cleanedFields o countryCode f) key =
      (Table.get? f key).filter fun value => !Fields.isUrl value.toList := by
  have hcleaned : ∀ f : Fields,
      Table.get? (if o.cleanupPostcode then f.cleanPostcode else f) key = Table.get? f key := by
    intro f
    split
    · exact Fields.get?_cleanPostcode_of_ne hpostcode f
    · rfl
  have habbreviated : ∀ f : Fields,
      Table.get? (if o.abbreviate then fm.abbreviate countryCode f else f) key =
        Table.get? f key := by
    intro f
    split
    · exact habbreviate ‹_› f
    · rfl
  rw [cleanedFields, Fields.stripUrls, Table.get?_filterKeys]
  exact congrArg (Option.filter _) ((habbreviated _).trans (hcleaned f))

end Formatter

end PostalAddress
