import PostalAddress.Proofs.Address.Agreement
import PostalAddress.Proofs.Address.Untouched
import PostalAddress.Proofs.Renaming

/-!
# Components under other names

An address that gives a component under another name is settled as the address that gives it under
its own: the steps before the aliases are resolved do not ask for either key, then the component
takes the value of its other name, and what follows does not ask for the other name. It keeps the
field itself.
-/

namespace PostalAddress

open Table (Renames)

namespace Fields

/-- `other` is read as the component `name`, which no step before that asks for, and no step asks
for `other` by name. -/
structure IsOtherName (components : ComponentTable) (name other : String) : Prop where
  readsAs_other : ∀ small, readsAs? components small other = some name
  readsAs_name : ∀ small, readsAs? components small name = none
  readsAs_ne_other : ∀ small key, readsAs? components small key ≠ some other
  isKnown_name : components.isKnown name
  isKnown_other : components.isKnown other
  country : ∀ k ∈ countryKeys, k ≠ name
  named : ∀ k ∈ namedKeys, k ≠ other

namespace IsOtherName

variable {components : ComponentTable} {name other : String}
  (ho : IsOtherName components name other)

include ho

theorem ne : name ≠ other := by
  rintro rfl
  have hnone := ho.readsAs_name true
  rw [ho.readsAs_other true] at hnone
  cases hnone

theorem country_other : ∀ k ∈ countryKeys, k ≠ other := by
  have hnamed : ∀ k ∈ countryKeys, k ∈ namedKeys := by decide
  exact fun k hk => ho.named k (hnamed k hk)

end IsOtherName

/-- No field is read as `name` but that of its own key. -/
def Alone (components : ComponentTable) (name : String) (f : Fields) : Prop :=
  ∀ small key, readsAs? components small key = some name → Table.get? f key = none

theorem Alone.readsAs_ne {components : ComponentTable} {name : String} {f : Fields}
    (h : Alone components name f) (small : Bool) :
    ∀ k ∈ Table.keys f, readsAs? components small k ≠ some name :=
  fun k hk hread => Table.get?_eq_none_iff.mp (h small k hread) hk

section Settling

variable {components : ComponentTable} {name other : String} {f f' : Fields}
  {templates : CountryTable} {fallback : Option String}

/-- What an address is redirected from uses the entry of another country. -/
theorem exists_useCountry_of_resolveCountry {code : String}
    (h : (resolveCountry templates fallback f).2 = some code) :
    ∃ e, Table.get? templates code = some e ∧ e.useCountry.isSome := by
  unfold resolveCountry at h
  split at h
  · cases h
  · split at h
    · cases h
    · rename_i e he
      split at h
      · cases h
      · rename_i target htarget
        obtain rfl := Option.some.inj h
        exact ⟨e, he, by rw [htarget]; rfl⟩

theorem Renames.determines (hname : ∀ k ∈ countryKeys, k ≠ name)
    (hother : ∀ k ∈ countryKeys, k ≠ other) : Determines countryKeys (Renames name other) where
  get?_eq h k hk := (h.get?_of_ne (hname k hk) (hother k hk)).symm
  insert hk h value := h.insert (hname _ hk) (hother _ hk) value

section Aliases

variable {small : Bool}

variable (ho : IsOtherName components name other) (h : Renames name other f f')

include ho h

/-- Other aliases are resolved as they were. -/
theorem Renames.foldl_fillFrom {keys : List String} (hname : name ∉ keys) (hother : other ∉ keys)
    (hreads : ∀ k ∈ keys, readsAs? components small k ≠ some name) :
    Renames name other (keys.foldl (fillFrom components small) f)
      (keys.foldl (fillFrom components small) f') := by
  induction keys generalizing f f' with
  | nil => exact h
  | cons k keys ih =>
    rw [List.mem_cons, not_or] at hname hother
    obtain ⟨hk, hkeys⟩ := List.forall_mem_cons.mp hreads
    refine ih ?_ hname.2 hother.2 hkeys
    unfold fillFrom
    split
    · exact h
    · rename_i target htarget
      have hne : target ≠ name := fun heq => hk (heq ▸ htarget)
      have hne' : target ≠ other := fun heq => ho.readsAs_ne_other small k (heq ▸ htarget)
      rw [isPresent_congr (h.get?_of_ne hne hne'),
        h.get?_of_ne (Ne.symm hname.1) (Ne.symm hother.1)]
      split
      · exact h
      · split
        · exact h.insert hne hne' _
        · exact h

theorem Renames.strangers_eq : strangers components f' = strangers components f := by
  have hfilter : ∀ es : List (String × String),
      (es.map fun e => (Table.renamed name other e.1, e.2)).filter
          (fun e => !components.isKnown e.1) =
        es.filter fun e => !components.isKnown e.1 := by
    intro es
    induction es with
    | nil => rfl
    | cons e es ih =>
      obtain ⟨k, v⟩ := e
      rw [List.map_cons, List.filter_cons, List.filter_cons, ih]
      by_cases hk : k = name
      · subst hk
        simp [Table.renamed_self, ho.isKnown_name, ho.isKnown_other]
      · rw [Table.renamed_of_ne hk]
  rw [strangers, h.entries_eq, hfilter, strangers]

/-- From where the component is resolved, the addresses agree but for its other name. -/
theorem Renames.fillFrom :
    AgreeOff components other (fillFrom components small f name)
      (fillFrom components small f' other) := by
  have hempty : f'.isPresent name = false := by
    simp [isPresent, present, h.get?_old ho.ne]
  have hstay : Fields.fillFrom components small f name = f := by
    rw [Fields.fillFrom, ho.readsAs_name]
  rw [hstay, Fields.fillFrom, ho.readsAs_other]
  dsimp only
  rw [hempty, if_neg Bool.false_ne_true, h.get?_new]
  cases hvalue : Table.get? f name with
  | none =>
    refine ⟨fun k hk => ?_, (strangers_eq ho h).symm⟩
    by_cases hname : k = name
    · subst hname
      rw [hvalue, h.get?_old ho.ne]
    · rw [h.get?_of_ne hname hk]
  | some value =>
    refine ⟨fun k hk => ?_, ?_⟩
    · rw [Table.get?_insert]
      by_cases hname : k = name
      · subst hname
        rw [if_pos rfl, hvalue]
      · rw [if_neg (Ne.symm hname), h.get?_of_ne hname hk]
    · rw [strangers_insert ho.isKnown_name, strangers_eq ho h]

/-- Once the aliases are resolved, the addresses agree but for the other name. -/
theorem Renames.resolveAliases (hcontains : (Table.get? f name).isSome)
    (halone : Alone components name f)
    (hknown : ∀ small k target, readsAs? components small k = some target →
      components.isKnown target)
    (hcode : f'.present "country_code" = f.present "country_code") :
    AgreeOff components other (resolveAliases components f) (resolveAliases components f') := by
  obtain ⟨value, hvalue⟩ := Option.isSome_iff_exists.mp hcontains
  have hmem : name ∈ Table.keys f :=
    List.mem_map_of_mem (f := Prod.fst) (Table.get?_eq_some_iff.mp hvalue)
  have hother : other ∉ Table.keys f := Table.get?_eq_none_iff.mp h.fresh
  obtain ⟨before, after, hkeys⟩ := List.append_of_mem hmem
  have hnodup : (before ++ name :: after).Nodup := hkeys ▸ f.nodup
  obtain ⟨_, hnodup', hdisjoint⟩ := List.nodup_append.mp hnodup
  have hbefore : name ∉ before := fun hk => hdisjoint _ hk _ List.mem_cons_self rfl
  have hafter : name ∉ after := (List.nodup_cons.mp hnodup').1
  have hkeys' : Table.keys f' = before ++ other :: after := by
    rw [h.keys_eq, hkeys, List.map_append, List.map_cons, Table.renamed_self,
      Table.map_renamed_of_not_mem hbefore, Table.map_renamed_of_not_mem hafter]
  rw [hkeys, List.mem_append, List.mem_cons, not_or, not_or] at hother
  unfold Fields.resolveAliases
  rw [hcode, hkeys, hkeys', List.foldl_append, List.foldl_append, List.foldl_cons, List.foldl_cons]
  have hfirst := foldl_fillFrom ho h hbefore hother.1
    (fun k hk => halone.readsAs_ne ((f.present "country_code").any
      smallDistrictCountries.contains) k (hkeys ▸ List.mem_append_left _ hk))
  exact (fillFrom ho hfirst).foldl_fillFrom hother.2.2 (ho.readsAs_ne_other _) (hknown _)

end Aliases

end Settling

end Fields

end PostalAddress
