import PostalAddress.Proofs.Address.Congruence

/-!
# Settling an address part by part

An address is settled in three parts: its country, before the aliases are resolved; its codes, up to
where the attention is collected; and the cleaning of what there is then. What the steps keep, the
parts keep.
-/

namespace PostalAddress

namespace Formatter

/-- The fields with their country settled, and the code they were redirected from. -/
def resolvedFields (fm : Formatter) (o : FormatOptions) (input : Fields) :
    Fields × Option String :=
  Fields.resolveCountry fm.data.templates o.fallbackCountryCode (fm.namedFields o input)

/-- The fields before their aliases are resolved. -/
def locatedFields (fm : Formatter) (o : FormatOptions) (input : Fields) : Fields :=
  if o.appendCountry then Fields.appendCountry fm.data (fm.resolvedFields o input).1
  else (fm.resolvedFields o input).1

/-- What becomes of the fields once their aliases are resolved. -/
def settledFields (fm : Formatter) (o : FormatOptions) (tableKeys : List String)
    (countryCode : Option String) (f : Fields) : Fields :=
  let f := tableKeys.foldl (applyTable fm.replace) (Fields.swapNumericCountry f)
  let f := Fields.collectAttention fm.data.components (Fields.deriveSubdivisionCodes fm.data f)
  let f := if o.cleanupPostcode then Fields.cleanPostcode f else f
  let f := if o.abbreviate then fm.abbreviate countryCode f else f
  Fields.stripUrls f

/-- The fields with their rules for input applied and the codes of their subdivisions. -/
def derivedFields (fm : Formatter) (tableKeys : List String) (f : Fields) : Fields :=
  Fields.deriveSubdivisionCodes fm.data
    (tableKeys.foldl (applyTable fm.replace) (Fields.swapNumericCountry f))

/-- What becomes of the fields once the attention is collected. -/
def cleanedFields (fm : Formatter) (o : FormatOptions) (countryCode : Option String)
    (f : Fields) : Fields :=
  let f := if o.cleanupPostcode then Fields.cleanPostcode f else f
  let f := if o.abbreviate then fm.abbreviate countryCode f else f
  Fields.stripUrls f

theorem settledFields_eq (fm : Formatter) (o : FormatOptions) (tableKeys : List String)
    (countryCode : Option String) (f : Fields) :
    fm.settledFields o tableKeys countryCode f =
      fm.cleanedFields o countryCode
        (Fields.collectAttention fm.data.components (fm.derivedFields tableKeys f)) :=
  rfl

theorem normalize_fields (fm : Formatter) (o : FormatOptions) (input : Fields) :
    (fm.normalize o input).fields =
      fm.settledFields o
        ((fm.normalize o input).redirectedFrom.toList ++ [(fm.normalize o input).templateKey])
        (fm.normalize o input).countryCode
        (Fields.resolveAliases fm.data.components (fm.locatedFields o input)) :=
  rfl

end Formatter

namespace Fields

section Country

variable {named : List String} {R : Fields → Fields → Prop} (hR : Determines named R)
  (hnamed : ∀ key ∈ countryKeys, key ∈ named) {fm : Formatter}
  (hasked : ∀ e ∈ fm.data.templates.entries, ∀ text ∈ e.2.changeCountry, ∀ key,
    askedFor text.toList = some key → key ∈ countryKeys)
  (o : FormatOptions) {f g : Fields} (h : R (fm.namedFields o f) (fm.namedFields o g))

include hR hnamed hasked h

theorem Determines.resolvedFields :
    R (fm.resolvedFields o f).1 (fm.resolvedFields o g).1 ∧
      (fm.resolvedFields o f).2 = (fm.resolvedFields o g).2 :=
  hR.resolveCountry h hnamed o.fallbackCountryCode hasked

theorem Determines.locatedFields : R (fm.locatedFields o f) (fm.locatedFields o g) := by
  obtain ⟨hresolved, _⟩ := hR.resolvedFields hnamed hasked o h
  unfold Formatter.locatedFields
  split
  · exact hR.appendCountry hresolved hnamed fm.data
  · exact hresolved

/-- The same entry is chosen. -/
theorem Determines.normalize_country :
    (fm.normalize o f).countryCode = (fm.normalize o g).countryCode ∧
      (fm.normalize o f).templateKey = (fm.normalize o g).templateKey ∧
      (fm.normalize o f).redirectedFrom = (fm.normalize o g).redirectedFrom := by
  obtain ⟨hresolved, hfrom⟩ := hR.resolvedFields hnamed hasked o h
  have hcode : (fm.normalize o f).countryCode = (fm.normalize o g).countryCode :=
    hR.present_eq hresolved (hnamed "country_code" (by decide))
  exact ⟨hcode, congrArg fm.data.templates.entryKey hcode, hfrom⟩

end Country

section Codes

variable {named : List String} {R : Fields → Fields → Prop} (hR : Congruence named R)
  {f g : Fields} (h : R f g) (fm : Formatter)

include hR h

theorem Congruence.derivedFields (hnamed : ∀ key ∈ namedKeys, key ∈ named)
    (tableKeys : List String) :
    R (fm.derivedFields tableKeys f) (fm.derivedFields tableKeys g) := by
  have hswapped := hR.swapNumericCountry h hnamed
  exact hR.deriveSubdivisionCodes (hR.foldl_applyTable hswapped fm.replace tableKeys) hnamed fm.data

theorem Congruence.cleanedFields (hpostcode : "postcode" ∈ named) (o : FormatOptions)
    (countryCode : Option String) :
    R (fm.cleanedFields o countryCode f) (fm.cleanedFields o countryCode g) := by
  unfold Formatter.cleanedFields
  cases o.cleanupPostcode <;> cases o.abbreviate
  · exact hR.stripUrls h
  · exact hR.stripUrls (hR.abbreviate h fm countryCode)
  · exact hR.stripUrls (hR.cleanPostcode h hpostcode)
  · exact hR.stripUrls (hR.abbreviate (hR.cleanPostcode h hpostcode) fm countryCode)

end Codes

end Fields

end PostalAddress
