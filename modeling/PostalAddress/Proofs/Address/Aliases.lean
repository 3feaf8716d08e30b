import PostalAddress.Bundled.Components
import PostalAddress.Proofs.Address.CanonicalNames
import PostalAddress.Proofs.Address.Untouched

/-!
# Gaps that aliases fill

The fields are passed in their order, and one that is read as a component gives it its value when
the component has none. A component is never read as another, so what is offered to it are the
values of the fields as they were given: the first that is not empty stays, and a second pass finds
nothing left to fill.
-/

namespace PostalAddress

namespace ComponentTable

/-- Both readings of `district` are components and `district` itself is none, and no other key is
read as the country code. -/
structure Resolvable (t : ComponentTable) : Prop where
  neighbourhood : "neighbourhood" ∈ t.names
  stateDistrict : "state_district" ∈ t.names
  district : "district" ∉ t.names
  countryCode : ∀ key, t.canonical key = some "country_code" → key = "country_code"

end ComponentTable

theorem Bundled.resolvable_components : components.Resolvable := by
  have haliases : ∀ c ∈ components, c.name = "country_code" → c.aliases = [] := by decide
  refine ⟨by decide, by decide, by decide, fun key hkey => ?_⟩
  obtain ⟨c, hc, hname, heq | halias⟩ := ComponentTable.exists_of_canonical hkey
  · exact heq.trans hname
  · rw [haliases c hc hname] at halias
    cases halias

namespace Fields

variable {components : ComponentTable} {small : Bool}

section Reading

variable {key name : String}

theorem readsAs?_eq_some_iff : readsAs? components small key = some name ↔
    key = "district" ∧ (if small then "neighbourhood" else "state_district") = name ∨
      key ≠ "district" ∧ key ≠ name ∧ components.canonical key = some name := by
  unfold readsAs?
  by_cases hkey : key = "district"
  · simp [hkey]
  · cases components.canonical key with
    | none => simp [hkey]
    | some target =>
      by_cases htarget : target = key
      · subst htarget
        simp [hkey]
      · simp only [hkey, if_false, htarget, Option.some.injEq, ne_eq, not_false_eq_true, true_and,
          false_and, false_or]
        exact ⟨fun heq => ⟨fun hname => htarget (heq.trans hname.symm), heq⟩, And.right⟩

variable (h : components.Resolvable)

include h

theorem mem_names_of_readsAs (hreads : readsAs? components small key = some name) :
    name ∈ components.names := by
  obtain ⟨_, rfl⟩ | ⟨_, _, hcanonical⟩ := readsAs?_eq_some_iff.mp hreads
  · cases small
    · exact h.stateDistrict
    · exact h.neighbourhood
  · exact ComponentTable.mem_names_of_canonical hcanonical

theorem readsAs_eq_none_of_mem_names (hname : name ∈ components.names) :
    readsAs? components small name = none := by
  have hdistrict : name ≠ "district" := fun heq => h.district (heq ▸ hname)
  rw [readsAs?, if_neg hdistrict, ComponentTable.canonical_of_mem_names hname]
  exact if_pos rfl

theorem readsAs_eq_none_of_readsAs (hreads : readsAs? components small key = some name) :
    readsAs? components small name = none :=
  readsAs_eq_none_of_mem_names h (mem_names_of_readsAs h hreads)

theorem readsAs_ne_countryCode (small : Bool) (key : String) :
    readsAs? components small key ≠ some "country_code" := by
  intro hreads
  obtain ⟨_, heq⟩ | ⟨_, hne, hcanonical⟩ := readsAs?_eq_some_iff.mp hreads
  · cases small <;> exact absurd heq (by decide)
  · exact hne (h.countryCode key hcanonical)

end Reading

section Filling

/-- What becomes of the value of a component when a field is next that may be read as it. -/
def takes (components : ComponentTable) (small : Bool) (f : Fields) (name : String)
    (value : Option String) (key : String) : Option String :=
  if readsAs? components small key = some name ∧ value.getD "" = "" then
    (Table.get? f key).or value
  else value

theorem get?_fillFrom (f : Fields) (key name : String) :
    Table.get? (fillFrom components small f key) name =
      takes components small f name (Table.get? f name) key := by
  unfold fillFrom takes
  cases hreads : readsAs? components small key with
  | none => simp
  | some target =>
    by_cases hname : target = name
    · subst hname
      have hpresent := @isPresent_iff f target
      rw [textOf] at hpresent
      by_cases hempty : (Table.get? f target).getD "" = ""
      · have habsent : f.isPresent target = false := by simpa [hempty] using hpresent
        dsimp only
        rw [habsent, if_neg Bool.false_ne_true, if_pos ⟨rfl, hempty⟩]
        cases Table.get? f key with
        | none => rfl
        | some value => rw [Table.get?_insert, if_pos rfl, Option.some_or]
      · dsimp only
        rw [if_pos (hpresent.mpr hempty), if_neg fun h => hempty h.2]
    · have hne : some target ≠ some name := fun h => hname (Option.some.inj h)
      rw [if_neg fun h => hne h.1]
      dsimp only
      split
      · rfl
      · split
        · rw [Table.get?_insert, if_neg hname]
        · rfl

/-- A component that is filled in stays. -/
theorem foldl_takes_of_filled (f : Fields) (name : String) {value : Option String}
    (hvalue : value.getD "" ≠ "") (keys : List String) :
    keys.foldl (takes components small f name) value = value := by
  induction keys with
  | nil => rfl
  | cons key keys ih => rw [List.foldl_cons, takes, if_neg fun h => hvalue h.2, ih]

/-- The value of a component once the aliases are resolved depends on the fields as they were. -/
theorem get?_foldl_fillFrom (hnames : ∀ key name, readsAs? components small key = some name →
      readsAs? components small name = none)
    (keys : List String) (f : Fields) (name : String) :
    Table.get? (keys.foldl (fillFrom components small) f) name =
      keys.foldl (takes components small f name) (Table.get? f name) := by
  have hfold : ∀ (keys : List String) (g : Fields),
      (∀ key target, readsAs? components small key = some target →
        Table.get? g key = Table.get? f key) →
      Table.get? (keys.foldl (fillFrom components small) g) name =
        keys.foldl (takes components small f name) (Table.get? g name) := by
    intro keys
    induction keys with
    | nil => exact fun _ _ => rfl
    | cons key keys ih =>
      intro g hg
      have hstep : takes components small g name (Table.get? g name) key =
          takes components small f name (Table.get? g name) key := by
        unfold takes
        split
        · rename_i hreads
          rw [hg key name hreads.1]
        · rfl
      rw [List.foldl_cons, List.foldl_cons, ih, get?_fillFrom, hstep]
      -- A field that is read as a component is no component, so it is never written.
      intro k target hk
      rw [get?_fillFrom, takes, if_neg, hg k target hk]
      rintro ⟨hreads, _⟩
      rw [hnames _ _ hreads] at hk
      cases hk
  exact hfold keys f fun _ _ _ => rfl

variable (components small) in
/-- The first of the keys that is filled in and read as a component. -/
def firstReadAs (f : Fields) (name : String) (keys : List String) : Option String :=
  keys.find? fun key => f.isPresent key && readsAs? components small key == some name

variable {f : Fields} {name : String} {keys : List String}

/-- An empty component takes the first value that it is offered. -/
theorem textOf_foldl_takes {value : Option String} (hvalue : value.getD "" = "") :
    (keys.foldl (takes components small f name) value).getD "" =
      ((firstReadAs components small f name keys).map f.textOf).getD "" := by
  induction keys generalizing value with
  | nil => exact hvalue
  | cons key keys ih =>
    rw [List.foldl_cons, firstReadAs, List.find?_cons]
    by_cases hreads : readsAs? components small key = some name
    · have htakes : takes components small f name value key = (Table.get? f key).or value :=
        if_pos ⟨hreads, hvalue⟩
      have htext : ((Table.get? f key).or value).getD "" = f.textOf key := by
        rw [textOf]
        cases Table.get? f key with
        | none => exact hvalue
        | some v => rfl
      rw [hreads, beq_self_eq_true, Bool.and_true, htakes]
      cases hfilled : f.isPresent key with
      | true =>
        rw [foldl_takes_of_filled f name (htext ▸ isPresent_iff.mp hfilled), htext]
        rfl
      | false =>
        have hempty : f.textOf key = "" :=
          Decidable.not_not.mp fun hne => by simp [isPresent_iff.mpr hne] at hfilled
        exact ih (htext.trans hempty)
    · have htakes : takes components small f name value key = value := if_neg fun h => hreads h.1
      have hno : (readsAs? components small key == some name) = false :=
        beq_eq_false_iff_ne.mpr hreads
      rw [hno, Bool.and_false, htakes]
      exact ih hvalue

/-- Once a field is read as it, a component has an entry. -/
theorem isSome_foldl_takes (hkeys : ∀ key ∈ keys, (Table.get? f key).isSome)
    (hreads : ∃ key ∈ keys, readsAs? components small key = some name) (value : Option String) :
    (keys.foldl (takes components small f name) value).isSome := by
  have hstays : ∀ (keys : List String) (value : Option String), value.isSome →
      (keys.foldl (takes components small f name) value).isSome := by
    intro keys
    induction keys with
    | nil => exact fun _ => id
    | cons key keys ih =>
      intro value hvalue
      refine ih _ ?_
      unfold takes
      split
      · simp [hvalue]
      · exact hvalue
  induction keys generalizing value with
  | nil => simp at hreads
  | cons key keys ih =>
    obtain ⟨hkey, hkeys⟩ := List.forall_mem_cons.mp hkeys
    obtain ⟨key', hmem, hreads⟩ := hreads
    obtain rfl | hmem := List.mem_cons.mp hmem
    · refine hstays keys _ ?_
      unfold takes
      split
      · simp [hkey]
      · rename_i hfilled
        cases value with
        | none => exact absurd ⟨hreads, rfl⟩ hfilled
        | some v => rfl
    · exact ih hkeys ⟨key', hmem, hreads⟩ _

/-- When none is found, what is read as the component is empty. -/
theorem textOf_of_firstReadAs {key : String}
    (h : (firstReadAs components small f name keys).bind f.present = none) (hkey : key ∈ keys)
    (hreads : readsAs? components small key = some name) : f.textOf key = "" := by
  cases hfirst : firstReadAs components small f name keys with
  | none =>
    have hno := List.find?_eq_none.mp hfirst key hkey
    rw [hreads, beq_self_eq_true, Bool.and_true, isPresent_iff] at hno
    exact Decidable.not_not.mp hno
  | some k =>
    have hk := List.find?_some hfirst
    rw [Bool.and_eq_true] at hk
    rw [hfirst, Option.bind_some, ← Option.not_isSome_iff_eq_none] at h
    exact absurd hk.1 h

theorem fillFrom_cases (f : Fields) (key : String) :
    fillFrom components small f key = f ∨ ∃ name value, readsAs? components small key = some name ∧
      f.present name = none ∧ Table.get? f key = some value ∧
        fillFrom components small f key = Table.insert f name value := by
  unfold fillFrom
  split
  · exact .inl rfl
  · rename_i name hreads
    split
    · exact .inl rfl
    · rename_i habsent
      split
      · rename_i value hvalue
        exact .inr ⟨name, value, hreads, Option.not_isSome_iff_eq_none.mp habsent, hvalue, rfl⟩
      · exact .inl rfl

theorem keys_foldl_fillFrom (keys : List String) (f : Fields) :
    Table.keys f <+: Table.keys (keys.foldl (fillFrom components small) f) ∧
      ∀ name ∈ Table.keys (keys.foldl (fillFrom components small) f), name ∉ Table.keys f →
        ∃ key ∈ keys, readsAs? components small key = some name := by
  induction keys generalizing f with
  | nil => exact ⟨List.prefix_refl _, fun name hmem hnot => absurd hmem hnot⟩
  | cons key keys ih =>
    obtain ⟨hkeeps, hadded⟩ := ih (fillFrom components small f key)
    have hrest : ∀ name ∈ Table.keys (keys.foldl (fillFrom components small)
        (fillFrom components small f key)), name ∉ Table.keys (fillFrom components small f key) →
          ∃ k ∈ key :: keys, readsAs? components small k = some name := by
      intro name hmem hnot
      obtain ⟨k, hk, hreads⟩ := hadded name hmem hnot
      exact ⟨k, List.mem_cons_of_mem key hk, hreads⟩
    rw [List.foldl_cons]
    obtain hstep | ⟨target, value, hreads, _, _, hstep⟩ := fillFrom_cases f key
    · rw [hstep] at hkeeps hrest ⊢
      exact ⟨hkeeps, hrest⟩
    · rw [hstep] at hkeeps hrest ⊢
      refine ⟨(Table.keys_isPrefix_insert f target value).trans hkeeps, fun name hmem hnot => ?_⟩
      by_cases htarget : name = target
      · exact ⟨key, List.mem_cons_self, htarget ▸ hreads⟩
      · refine hrest name hmem ?_
        rw [Table.keys_insert]
        split
        · exact hnot
        · simpa [htarget] using hnot

/-- Nothing changes when every component has what its other names would give it. -/
theorem foldl_fillFrom_eq_self (h : ∀ key ∈ keys, ∀ name value,
      readsAs? components small key = some name → f.present name = none →
        Table.get? f key = some value → Table.get? f name = some value) :
    keys.foldl (fillFrom components small) f = f := by
  induction keys with
  | nil => rfl
  | cons key keys ih =>
    obtain ⟨hkey, hkeys⟩ := List.forall_mem_cons.mp h
    have hstep : fillFrom components small f key = f := by
      obtain hstep | ⟨name, value, hreads, habsent, hvalue, hstep⟩ := fillFrom_cases f key
      · exact hstep
      · rw [hstep, Table.insert_eq_self (hkey name value hreads habsent hvalue)]
    rw [List.foldl_cons, hstep, ih hkeys]

end Filling

/-- Whether a district is a neighbourhood, by the country code. -/
def smallDistricts (f : Fields) : Bool :=
  (f.present "country_code").any smallDistrictCountries.contains

theorem resolveAliases_eq (components : ComponentTable) (f : Fields) :
    resolveAliases components f = (Table.keys f).foldl (fillFrom components f.smallDistricts) f :=
  rfl

/-- The fields `g` are `f` with the components that `f` leaves empty filled in from their other
names. -/
structure FillsGaps (components : ComponentTable) (f g : Fields) : Prop where
  keys : Table.keys f <+: Table.keys g
  kept : ∀ key value, f.present key = some value → g.present key = some value
  others : ∀ key ∉ components.names, Table.get? g key = Table.get? f key
  filled : ∀ name ∈ components.names, f.present name = none →
    g.present name =
      (firstReadAs components f.smallDistricts f name (Table.keys f)).bind f.present
  added : ∀ name ∈ Table.keys g, name ∉ Table.keys f → name ∈ components.names ∧
    ∃ key ∈ Table.keys f, readsAs? components f.smallDistricts key = some name

section Resolving

variable (h : components.Resolvable) (f : Fields)

include h

theorem get?_resolveAliases (name : String) :
    Table.get? (resolveAliases components f) name =
      (Table.keys f).foldl (takes components f.smallDistricts f name) (Table.get? f name) :=
  get?_foldl_fillFrom (fun _ _ => readsAs_eq_none_of_readsAs h) (Table.keys f) f name

theorem get?_resolveAliases_of_not_mem {key : String} (hkey : key ∉ components.names) :
    Table.get? (resolveAliases components f) key = Table.get? f key :=
  get?_foldl_fillFrom_of_ne (fun _ _ hreads => hkey (mem_names_of_readsAs h hreads)) f

theorem present_resolveAliases_of_filled {key value : String}
    (hvalue : f.present key = some value) :
    (resolveAliases components f).present key = some value := by
  have hget := get?_eq_of_present hvalue
  have hne : (some value).getD "" ≠ "" := ne_empty_of_present hvalue
  refine present_of_get? ?_ hne
  rw [get?_resolveAliases h, hget, foldl_takes_of_filled f key hne]

theorem present_resolveAliases_of_empty {name : String} (hname : f.present name = none) :
    (resolveAliases components f).present name =
      (firstReadAs components f.smallDistricts f name (Table.keys f)).bind f.present := by
  have hempty : (Table.get? f name).getD "" = "" := by
    rw [← textOf, textOf_eq_present, hname, Option.getD_none]
  have htext : (resolveAliases components f).textOf name =
      ((firstReadAs components f.smallDistricts f name (Table.keys f)).map f.textOf).getD "" := by
    rw [textOf, get?_resolveAliases h, textOf_foldl_takes hempty]
  rw [present_eq_textOf, htext]
  cases firstReadAs components f.smallDistricts f name (Table.keys f) with
  | none => rfl
  | some key => exact (present_eq_textOf f key).symm

theorem fillsGaps_resolveAliases : FillsGaps components f (resolveAliases components f) where
  keys := (keys_foldl_fillFrom (Table.keys f) f).1
  kept _ _ := present_resolveAliases_of_filled h f
  others _ := get?_resolveAliases_of_not_mem h f
  filled _ _ := present_resolveAliases_of_empty h f
  added name hmem hnot := by
    obtain ⟨key, hkey, hreads⟩ := (keys_foldl_fillFrom (Table.keys f) f).2 name hmem hnot
    exact ⟨mem_names_of_readsAs h hreads, key, hkey, hreads⟩

/-- No field is read as the country code, so districts are read as before. -/
theorem smallDistricts_resolveAliases :
    (resolveAliases components f).smallDistricts = f.smallDistricts := by
  have hcode : Table.get? (resolveAliases components f) "country_code" =
      Table.get? f "country_code" :=
    get?_foldl_fillFrom_of_ne (fun key _ => readsAs_ne_countryCode h f.smallDistricts key) f
  rw [smallDistricts, smallDistricts, present_congr hcode]

theorem resolveAliases_resolveAliases :
    resolveAliases components (resolveAliases components f) = resolveAliases components f := by
  have hgaps := fillsGaps_resolveAliases h f
  rw [resolveAliases_eq components (resolveAliases components f), smallDistricts_resolveAliases h]
  refine foldl_fillFrom_eq_self fun key hkey name value hreads habsent hvalue => ?_
  have hname := mem_names_of_readsAs h hreads
  have hother : key ∉ components.names := by
    intro hmem
    rw [readsAs_eq_none_of_mem_names h hmem] at hreads
    cases hreads
  have hgiven : key ∈ Table.keys f :=
    Decidable.byContradiction fun hnot => hother (hgaps.added key hkey hnot).1
  have hempty : f.present name = none := by
    cases hfilled : f.present name with
    | none => rfl
    | some v => exact absurd (hgaps.kept name v hfilled) (by rw [habsent]; exact nofun)
  -- All that was offered to the component was empty, so an empty value is what it has.
  have htext : (resolveAliases components f).textOf name = "" := by
    rw [textOf_eq_present, habsent, Option.getD_none]
  rw [hgaps.filled name hname hempty] at habsent
  have hoffered : f.textOf key = "" := textOf_of_firstReadAs habsent hgiven hreads
  have hentry : (Table.get? (resolveAliases components f) name).isSome := by
    rw [get?_resolveAliases h]
    refine isSome_foldl_takes (fun k hk => ?_) ⟨key, hgiven, hreads⟩ _
    exact Option.isSome_iff_ne_none.mpr fun hnone => Table.get?_eq_none_iff.mp hnone hk
  obtain ⟨v, hv⟩ := Option.isSome_iff_exists.mp hentry
  rw [textOf, hv, Option.getD_some] at htext
  rw [textOf, ← hgaps.others key hother, hvalue, Option.getD_some] at hoffered
  rw [hv, htext, hoffered]

end Resolving

/-- Resolving the aliases fills gaps, each with the first value there is for it, and leaves none
that it could fill. -/
theorem resolveAliases_fills_once (h : components.Resolvable) (f : Fields) :
    FillsGaps components f (resolveAliases components f) ∧
      resolveAliases components (resolveAliases components f) = resolveAliases components f :=
  ⟨fillsGaps_resolveAliases h f, resolveAliases_resolveAliases h f⟩

/-- An address in Spain, where a district is a neighbourhood. Two values for the neighbourhood come
before it, of which one is empty, and there is none for the city but an empty one. -/
theorem resolveAliases_fills_once_of_suburb :
    ∃ f : Fields, f = .ofList [("suburb", ""), ("ward", "Sol"), ("district", "Centro"),
        ("neighbourhood", ""), ("town", ""), ("road", "Calle Mayor"), ("country_code", "ES")] ∧
      Bundled.components.Resolvable ∧
      resolveAliases Bundled.components f = .ofList [("suburb", ""), ("ward", "Sol"),
        ("district", "Centro"), ("neighbourhood", "Sol"), ("town", ""), ("road", "Calle Mayor"),
        ("country_code", "ES"), ("city", "")] ∧
      FillsGaps Bundled.components f (resolveAliases Bundled.components f) ∧
      resolveAliases Bundled.components (resolveAliases Bundled.components f) =
        resolveAliases Bundled.components f := by
  have h := Bundled.resolvable_components
  exact ⟨_, rfl, h, by decide +kernel, resolveAliases_fills_once h _⟩

end Fields

end PostalAddress
