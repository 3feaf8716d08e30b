import PostalAddress.Bundled.Data
import PostalAddress.Proofs.Address.Untouched
import PostalAddress.Proofs.Text.Uppercase

/-!
# The country is settled once

When every redirect leads to a country with an entry of its own, the code that an address is left
with is one that settling starts from again: it is in upper case, no fallback replaces it, no entry
redirects it, and if it is `NL` the state is none in the Caribbean. Settling the country of such an
address changes nothing.
-/

namespace PostalAddress

namespace CountryTable

/-- The code has an entry, and the entry does not use the one of another country. -/
def HasOwnEntry (templates : CountryTable) (code : String) : Prop :=
  ∃ e ∈ Table.get? templates code, e.useCountry = none
deriving Decidable

/-- Every redirect leads to a country with an entry of its own, and there are such entries for the
Caribbean countries that addresses of the Netherlands are moved to. -/
structure Direct (templates : CountryTable) : Prop where
  gb : Table.contains templates "GB"
  caribbean : ∀ code ∈ ["CW", "SX", "AW"], templates.HasOwnEntry code
  target : ∀ e ∈ templates.entries, ∀ target ∈ e.2.useCountry,
    (upper target).length = 2 ∧ upper target ≠ "UK" ∧ templates.HasOwnEntry (upper target)

/-- A code that settling the country starts from again, and that no entry redirects. -/
structure Final (templates : CountryTable) (fallback : Option String) (code : String) : Prop where
  upper_eq : upper code = code
  length_eq : code.length = 2
  ne_uk : code ≠ "UK"
  given : Table.contains templates code ∨ ∀ other ∈ fallback, upper other = code
  entry : ∀ e ∈ Table.get? templates code, e.useCountry = none

variable {templates : CountryTable} {fallback : Option String} {code : String}

theorem contains_of_get? {e : CountryEntry} (h : Table.get? templates code = some e) :
    Table.contains templates code := by
  rw [Table.contains, h]
  rfl

theorem HasOwnEntry.final (h : templates.HasOwnEntry code) (hupper : upper code = code)
    (hlength : code.length = 2) (huk : code ≠ "UK") : templates.Final fallback code where
  upper_eq := hupper
  length_eq := hlength
  ne_uk := huk
  given := by
    obtain ⟨e, he, _⟩ := h
    exact .inl (contains_of_get? he)
  entry e he := by
    obtain ⟨e', he', huse⟩ := h
    cases Option.some.inj (he.symm.trans he')
    exact huse

theorem Direct.final_target (h : templates.Direct) {e : CountryEntry} {target : String}
    (he : Table.get? templates code = some e) (htarget : e.useCountry = some target) :
    templates.Final fallback (upper target) := by
  obtain ⟨hlength, huk, hentry⟩ := h.target _ (Table.get?_eq_some_iff.mp he) target htarget
  exact hentry.final (upper_upper target) hlength huk

theorem Direct.final_caribbean (h : templates.Direct) (fallback : Option String)
    {state name : String} (hmoved : Fields.caribbean? state = some (code, name)) :
    templates.Final fallback code ∧ code ≠ "NL" := by
  have hmem : code ∈ ["CW", "SX", "AW"] := by
    unfold Fields.caribbean? at hmoved
    dsimp only at hmoved
    split at hmoved
    · cases hmoved
      decide
    split at hmoved
    · cases hmoved
      decide
    split at hmoved
    · cases hmoved
      decide
    · cases hmoved
  have hcodes : ∀ code ∈ ["CW", "SX", "AW"],
      upper code = code ∧ code.length = 2 ∧ code ≠ "UK" ∧ code ≠ "NL" := by
    decide
  obtain ⟨hupper, hlength, huk, hnl⟩ := hcodes code hmem
  exact ⟨(h.caribbean code hmem).final hupper hlength huk, hnl⟩

end CountryTable

namespace Fields

variable {templates : CountryTable} {fallback : Option String} {f : Fields} {code : String}

/-- The code that settling starts from is final unless its entry redirects it. -/
theorem final_startCode (h : templates.Direct) (hstart : startCode f templates fallback = some code)
    (hentry : ∀ e ∈ Table.get? templates code, e.useCountry = none) :
    templates.Final fallback code := by
  obtain ⟨given, hgiven, hcode⟩ := Option.bind_eq_some_iff.mp hstart
  split at hcode
  case isFalse => cases hcode
  rename_i hlength
  have hgiven' : upper given = given ∧
      (Table.contains templates given ∨ ∀ other ∈ fallback, upper other = given) := by
    unfold givenCode at hgiven
    dsimp only at hgiven
    split at hgiven
    · rename_i hany
      rw [hgiven] at hany
      obtain ⟨value, _, rfl⟩ := Option.map_eq_some_iff.mp hgiven
      exact ⟨upper_upper value, .inl hany⟩
    · cases fallback with
      | none =>
        obtain ⟨value, _, rfl⟩ := Option.map_eq_some_iff.mp hgiven
        exact ⟨upper_upper value, .inr nofun⟩
      | some other =>
        obtain rfl : upper other = given := Option.some.inj hgiven
        refine ⟨upper_upper other, .inr fun other' hother => ?_⟩
        rw [Option.some.inj hother]
  obtain rfl := Option.some.inj hcode
  by_cases huk : given = "UK"
  · rw [if_pos huk] at hentry ⊢
    exact ⟨by decide, by decide, by decide, .inl h.gb, hentry⟩
  · rw [if_neg huk] at hentry ⊢
    exact ⟨hgiven'.1, hlength, huk, hgiven'.2, hentry⟩

theorem startCode_of_final (h : templates.Final fallback code)
    (hcode : f.present "country_code" = some code) :
    startCode f templates fallback = some code := by
  have hgiven : givenCode f templates fallback = some code := by
    rw [givenCode, hcode, Option.map_some, h.upper_eq]
    obtain hcontains | hfallback := h.given
    · exact if_pos hcontains
    · cases fallback with
      | none => exact ite_self _
      | some other =>
        rw [Option.map_some, hfallback other rfl]
        exact ite_self _
  rw [startCode, hgiven, Option.bind_some, if_pos h.length_eq, if_neg h.ne_uk]

theorem resolveCountry_of_final (h : templates.Final fallback code)
    (hcode : f.present "country_code" = some code) (hmoved : f.moved code = none) :
    resolveCountry templates fallback f = (f, none) := by
  have hsettle : settleCode f code = f := by
    rw [settleCode_eq, hmoved]
    exact Table.insert_eq_self (get?_eq_of_present hcode)
  rw [resolveCountry, startCode_of_final h hcode]
  dsimp only
  split
  · rw [hsettle]
  · rename_i e he
    rw [h.entry e he]
    dsimp only
    rw [hsettle]

/-- Settling a final code leaves a final code, which is moved nowhere. -/
theorem final_settleCode (h : templates.Direct) (hfinal : templates.Final fallback code)
    (f : Fields) : ∃ settled, templates.Final fallback settled ∧
      (settleCode f code).present "country_code" = some settled ∧
      (settleCode f code).moved settled = none := by
  have hpresent : ∀ settled, templates.Final fallback settled →
      ((f.moved code).map Prod.fst).getD code = settled →
        (settleCode f code).present "country_code" = some settled := by
    intro settled hsettled heq
    refine present_of_get? ?_ ?_
    · rw [settleCode_eq, Table.get?_insert, if_pos rfl, heq]
    · rintro rfl
      exact absurd hsettled.length_eq (by decide)
  cases hmoved : f.moved code with
  | none =>
    have hstate : (settleCode f code).moved code = f.moved code := by
      have hget : Table.get? (settleCode f code) "state" = Table.get? f "state" := by
        rw [settleCode_eq, hmoved, Table.get?_insert, if_neg (by decide)]
        rfl
      rw [moved, moved, present_congr hget]
    exact ⟨code, hfinal, hpresent code hfinal (by rw [hmoved]; rfl), hstate.trans hmoved⟩
  | some entry =>
    obtain ⟨settled, name⟩ := entry
    have hcaribbean : ∃ state, caribbean? state = some (settled, name) := by
      unfold moved at hmoved
      split at hmoved
      · obtain ⟨state, _, hstate⟩ := Option.bind_eq_some_iff.mp hmoved
        exact ⟨state, hstate⟩
      · cases hmoved
    obtain ⟨state, hstate⟩ := hcaribbean
    obtain ⟨hsettled, hnl⟩ := h.final_caribbean fallback hstate
    exact ⟨settled, hsettled, hpresent settled hsettled (by rw [hmoved]; rfl), if_neg hnl⟩

/-- The country is not settled without a code to start from, and else it is settled to a final
code. -/
theorem resolveCountry_cases (h : templates.Direct) (fallback : Option String) (f : Fields) :
    resolveCountry templates fallback f = (f, none) ∨
      ∃ g code, templates.Final fallback code ∧
        (resolveCountry templates fallback f).1 = settleCode g code := by
  unfold resolveCountry
  split
  · exact .inl rfl
  · rename_i code hstart
    right
    split
    · rename_i hentry
      exact ⟨f, code, final_startCode h hstart (by rw [hentry]; exact nofun), rfl⟩
    · rename_i e he
      split
      · rename_i huse
        refine ⟨f, code, final_startCode h hstart fun e' he' => ?_, rfl⟩
        rw [← Option.some.inj (he.symm.trans he'), huse]
      · rename_i target htarget
        exact ⟨applyRedirect f e, upper target, h.final_target he htarget, rfl⟩

theorem resolveCountry_resolveCountry (h : templates.Direct) (fallback : Option String)
    (f : Fields) :
    resolveCountry templates fallback (resolveCountry templates fallback f).1 =
      ((resolveCountry templates fallback f).1, none) := by
  obtain hself | ⟨g, code, hfinal, hsettled⟩ := resolveCountry_cases h fallback f
  · rw [hself, hself]
  · obtain ⟨settled, hfinal', hcode, hmoved⟩ := final_settleCode h hfinal g
    rw [hsettled]
    exact resolveCountry_of_final hfinal' hcode hmoved

/-- Settling the country settles it for good, and leaves all other fields alone. -/
theorem resolveCountry_settles_once (h : templates.Direct) (fallback : Option String)
    (f : Fields) :
    resolveCountry templates fallback (resolveCountry templates fallback f).1 =
        ((resolveCountry templates fallback f).1, none) ∧
      ∀ key ∉ ["country", "country_code", "state"],
        Table.get? (resolveCountry templates fallback f).1 key = Table.get? f key :=
  ⟨resolveCountry_resolveCountry h fallback f, fun _ hkey => get?_resolveCountry_of_ne hkey f⟩

/-- A code in lower case is redirected to the Netherlands, and the state that comes with the entry
moves the address on to the Caribbean. -/
theorem resolveCountry_settles_once_of_caribbean :
    ∃ (templates : CountryTable) (f : Fields),
      templates = Table.insert Bundled.templates "AN"
        { useCountry := some "nl", changeCountry := some "$state, Nederland",
          addComponent := some "state=Sint Maarten" } ∧
      f = .ofList [("city", "Philipsburg"), ("state", "Antillen"), ("country_code", "an")] ∧
      templates.Direct ∧
      resolveCountry templates (some "de") f = (.ofList [("city", "Philipsburg"),
        ("state", "Sint Maarten"), ("country_code", "SX"), ("country", "Sint Maarten")],
        some "AN") ∧
      resolveCountry templates (some "de") (resolveCountry templates (some "de") f).1 =
        ((resolveCountry templates (some "de") f).1, none) ∧
      ∀ key ∉ ["country", "country_code", "state"],
        Table.get? (resolveCountry templates (some "de") f).1 key = Table.get? f key := by
  have hdirect : CountryTable.Direct (Table.insert Bundled.templates "AN"
      { useCountry := some "nl", changeCountry := some "$state, Nederland",
        addComponent := some "state=Sint Maarten" }) :=
    ⟨by decide, by decide, by decide⟩
  exact ⟨_, _, rfl, rfl, hdirect, by decide, resolveCountry_settles_once hdirect _ _⟩

end Fields

end PostalAddress
