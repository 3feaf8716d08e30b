import PostalAddress.Proofs.Address.Steps

/-!
# Two addresses settled side by side

The steps that settle an address ask for a few fields by name, insert under such names, leave entries
out, or change the values of all entries. So a relation between two addresses that determines the
fields of these names, and that outlasts such edits made to both, outlasts the steps.
-/

namespace PostalAddress.Fields

/-- The relation determines the fields of some names, and outlasts insertions under these names. -/
structure Determines (named : List String) (R : Fields → Fields → Prop) : Prop where
  get?_eq {f g : Fields} : R f g → ∀ key ∈ named, Table.get? f key = Table.get? g key
  insert {f g : Fields} {key : String} : key ∈ named → R f g → ∀ value,
    R (Table.insert f key value) (Table.insert g key value)

/-- The relation outlasts edits of all entries as well. -/
structure Congruence (named : List String) (R : Fields → Fields → Prop) : Prop
    extends Determines named R where
  filterKeys {f g : Fields} : R f g → ∀ p, R (Table.filterKeys p f) (Table.filterKeys p g)
  mapEntries {f g : Fields} : R f g → ∀ edit, R (Table.mapEntries edit f) (Table.mapEntries edit g)

namespace Determines

variable {named : List String} {R : Fields → Fields → Prop} (hR : Determines named R)
  {f g : Fields} (h : R f g)

include hR h

theorem present_eq {key : String} (hkey : key ∈ named) : f.present key = g.present key :=
  present_congr (hR.get?_eq h key hkey)

theorem isPresent_eq {key : String} (hkey : key ∈ named) : f.isPresent key = g.isPresent key :=
  isPresent_congr (hR.get?_eq h key hkey)

theorem insertSome {key : String} (hkey : key ∈ named) (value : Option String) :
    R (Table.insertSome f key value) (Table.insertSome g key value) := by
  cases value with
  | none => exact h
  | some value => exact hR.insert hkey h value

section Country

variable (hnamed : ∀ key ∈ countryKeys, key ∈ named)

include hnamed

theorem applyRedirect {e : CountryEntry}
    (hasked : ∀ text ∈ e.changeCountry, ∀ key, askedFor text.toList = some key →
      key ∈ countryKeys) :
    R (applyRedirect f e) (applyRedirect g e) := by
  have hchanged : f.changedName e = g.changedName e := by
    cases hchange : e.changeCountry with
    | none => simp [changedName, hchange]
    | some text =>
      have hexpand : expandField f text.toList = expandField g text.toList :=
        expandField_congr fun key hkey => hR.present_eq h (hnamed key (hasked text hchange key hkey))
      simp [changedName, hchange, hexpand]
  rw [applyRedirect_eq, applyRedirect_eq, hchanged]
  exact hR.insertSome (hR.insertSome h (hnamed _ (by decide)) _) (hnamed _ (by decide)) _

theorem settleCode (code : String) : R (settleCode f code) (settleCode g code) := by
  have hmoved : f.moved code = g.moved code := by
    rw [moved, moved, hR.present_eq h (hnamed _ (by decide))]
  rw [settleCode_eq, settleCode_eq, hmoved]
  exact hR.insert (hnamed _ (by decide)) (hR.insertSome h (hnamed _ (by decide)) _) _

theorem resolveCountry {templates : CountryTable} (fallback : Option String)
    (hasked : ∀ e ∈ templates.entries, ∀ text ∈ e.2.changeCountry, ∀ key,
      askedFor text.toList = some key → key ∈ countryKeys) :
    R (resolveCountry templates fallback f).1 (resolveCountry templates fallback g).1 ∧
      (resolveCountry templates fallback f).2 = (resolveCountry templates fallback g).2 := by
  have hstart : startCode f templates fallback = startCode g templates fallback := by
    rw [startCode, givenCode, hR.present_eq h (hnamed _ (by decide)), startCode, givenCode]
  unfold Fields.resolveCountry
  rw [hstart]
  split
  · exact ⟨h, rfl⟩
  · split
    · exact ⟨hR.settleCode h hnamed _, rfl⟩
    · rename_i e he
      split
      · exact ⟨hR.settleCode h hnamed _, rfl⟩
      · have hredirect := hR.applyRedirect h hnamed (hasked _ (Table.get?_eq_some_iff.mp he))
        exact ⟨hR.settleCode hredirect hnamed _, rfl⟩

theorem appendCountry (data : AddressData) : R (appendCountry data f) (appendCountry data g) := by
  rw [appendCountry_eq, appendCountry_eq, hR.isPresent_eq h (hnamed _ (by decide)),
    hR.present_eq h (hnamed _ (by decide))]
  exact hR.insertSome h (hnamed _ (by decide)) _

end Country

end Determines

namespace Congruence

variable {named : List String} {R : Fields → Fields → Prop} (hR : Congruence named R)
  {f g : Fields} (h : R f g)

include hR h

theorem erase (key : String) : R (Table.erase f key) (Table.erase g key) := hR.filterKeys h _

section Tables

theorem applyTable (tables : Table RuleTable) (tableKey : String) :
    R (Formatter.applyTable tables f tableKey) (Formatter.applyTable tables g tableKey) := by
  unfold Formatter.applyTable
  split
  · exact hR.mapEntries h _
  · exact h

theorem foldl_applyTable (tables : Table RuleTable) (tableKeys : List String) :
    R (tableKeys.foldl (Formatter.applyTable tables) f)
      (tableKeys.foldl (Formatter.applyTable tables) g) := by
  induction tableKeys generalizing f g with
  | nil => exact h
  | cons k ks ih => exact ih (hR.applyTable h tables k)

theorem abbreviate (fm : Formatter) (countryCode : Option String) :
    R (fm.abbreviate countryCode f) (fm.abbreviate countryCode g) := by
  cases countryCode with
  | none => exact h
  | some code => exact hR.foldl_applyTable h _ _

end Tables

section Named

variable (hnamed : ∀ key ∈ namedKeys, key ∈ named)

include hnamed

theorem swapNumericCountry : R f.swapNumericCountry g.swapNumericCountry := by
  have hstate : "state" ∈ named := hnamed _ (by decide)
  have hcountry : "country" ∈ named := hnamed _ (by decide)
  unfold Fields.swapNumericCountry
  rw [hR.present_eq h hcountry, hR.present_eq h hstate]
  split
  · split
    · exact hR.insert hcountry (hR.erase h _) _
    · exact h
  · exact h

theorem deriveStateCode (data : AddressData) (country : String) :
    R (Fields.deriveStateCode data country f) (Fields.deriveStateCode data country g) := by
  have hcode : "state_code" ∈ named := hnamed _ (by decide)
  have hstate : "state" ∈ named := hnamed _ (by decide)
  have hcity : "city" ∈ named := hnamed _ (by decide)
  unfold Fields.deriveStateCode
  rw [hR.isPresent_eq h hcode, hR.present_eq h hstate]
  split
  · exact h
  · split
    · exact h
    · rename_i state _
      have hcapital : ∀ {f g : Fields}, R f g →
          R (if isCapitalDistrict state.toList then
              Table.insert (Table.insert (Table.insert f "state_code" "DC") "state"
                "District of Columbia") "city" "Washington"
            else f)
            (if isCapitalDistrict state.toList then
              Table.insert (Table.insert (Table.insert g "state_code" "DC") "state"
                "District of Columbia") "city" "Washington"
            else g) := by
        intro f g h
        split
        · exact hR.insert hcity (hR.insert hstate (hR.insert hcode h _) _) _
        · exact h
      cases data.stateCodes.codeFor country state with
      | none => exact hcapital h
      | some code => exact hcapital (hR.insert hcode h code)

theorem deriveCountyCode (data : AddressData) (country : String) :
    R (Fields.deriveCountyCode data country f) (Fields.deriveCountyCode data country g) := by
  have hcode : "county_code" ∈ named := hnamed _ (by decide)
  have hcounty : "county" ∈ named := hnamed _ (by decide)
  unfold Fields.deriveCountyCode
  rw [hR.isPresent_eq h hcode, hR.present_eq h hcounty]
  split
  · exact h
  · split
    · exact hR.insert hcode h _
    · exact h

theorem deriveSubdivisionCodes (data : AddressData) :
    R (Fields.deriveSubdivisionCodes data f) (Fields.deriveSubdivisionCodes data g) := by
  have hcode : "country_code" ∈ named := hnamed _ (by decide)
  unfold Fields.deriveSubdivisionCodes
  rw [hR.present_eq h hcode]
  exact hR.deriveCountyCode (hR.deriveStateCode h hnamed data _) hnamed data _

end Named

theorem cleanPostcode (hpostcode : "postcode" ∈ named) : R f.cleanPostcode g.cleanPostcode := by
  unfold Fields.cleanPostcode
  rw [hR.present_eq h hpostcode]
  split
  · exact h
  · split
    · exact hR.erase h _
    · split
      · exact hR.insert hpostcode h _
      · exact h

theorem stripUrls : R f.stripUrls g.stripUrls := hR.filterKeys h _

end Congruence

end PostalAddress.Fields
