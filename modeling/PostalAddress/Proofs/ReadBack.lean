import PostalAddress.Address.Country
import PostalAddress.Address.Options
import PostalAddress.Proofs.Address.CanonicalNames

/-!
# What is written is read back

Tables and options are written as JSON values without what is absent or empty, and what is left out
is read as absent or empty. So reading gives back what was written, and an empty entry is no plain
text, which reading would skip.
-/

namespace PostalAddress

namespace Document

variable {α : Type}

/-- The members of a record, of which some may be absent. -/
def present (names : List String) (values : List (Option Json)) : List (String × Json) :=
  (names.zip values).filterMap fun e => e.2.map (e.1, ·)

theorem present_nil : present [] [] = [] := rfl

theorem present_cons (name : String) (names : List String) (value : Option Json)
    (values : List (Option Json)) :
    present (name :: names) (value :: values) =
      (value.map (name, ·)).toList ++ present names values := by
  cases value <;> rfl

theorem mem_names_of_mem_present {names : List String} {values : List (Option Json)}
    {e : String × Json} (h : e ∈ present names values) : e.1 ∈ names := by
  obtain ⟨⟨name, value⟩, hmem, he⟩ := List.mem_filterMap.mp h
  obtain ⟨j, _, rfl⟩ := Option.map_eq_some_iff.mp he
  exact (List.of_mem_zip hmem).1

/-- Under each of its names a record has the value that is there, or none. -/
theorem filter_present {names : List String} {values : List (Option Json)} (h : names.Nodup)
    {name : String} {value : Option Json} (hmem : (name, value) ∈ names.zip values) :
    (present names values).filter (·.1 = name) = (value.map (name, ·)).toList := by
  induction names generalizing values with
  | nil => cases hmem
  | cons n names ih =>
    cases values with
    | nil => cases hmem
    | cons v values =>
      obtain ⟨hn, hnames⟩ := List.nodup_cons.mp h
      rw [present_cons, List.filter_append]
      obtain hfirst | hmem := List.mem_cons.mp hmem
      · obtain ⟨rfl, rfl⟩ := Prod.mk.inj hfirst
        have hrest : (present names values).filter (·.1 = name) = [] := by
          refine List.filter_eq_nil_iff.mpr fun e he heq => hn ?_
          exact of_decide_eq_true heq ▸ mem_names_of_mem_present he
        rw [hrest, List.append_nil]
        cases value <;> simp
      · have hne : ¬ n = name := fun heq => hn (heq ▸ (List.of_mem_zip hmem).1)
        rw [ih hnames hmem]
        cases v <;> simp [hne]

/-- A list read item by item. -/
theorem mapM_eq_some_of_zip {β γ : Type} {f : β → Option γ} {xs : List β} {ys : List γ}
    (hlen : ys.length = xs.length) (h : ∀ e ∈ xs.zip ys, f e.1 = some e.2) :
    xs.mapM f = some ys := by
  induction xs generalizing ys with
  | nil => rw [List.length_eq_zero_iff.mp hlen, List.mapM_nil, Option.pure_def]
  | cons x xs ih =>
    cases ys with
    | nil => cases hlen
    | cons y ys =>
      obtain ⟨hx, hxs⟩ := List.forall_mem_cons.mp h
      rw [List.mapM_cons, hx, ih (Nat.succ.inj hlen) hxs]
      rfl

theorem fields?_present {names : List String} {values : List (Option Json)} (h : names.Nodup)
    (hlen : values.length = names.length) :
    fields? names (Json.object (present names values)) = some values := by
  refine mapM_eq_some_of_zip hlen fun e he => ?_
  rw [filter_present h he]
  cases e.2 <;> rfl

theorem mapM_map_eq_some {β γ : Type} (item : β → Option γ) (write : α → β) (g : α → γ)
    (h : ∀ a, item (write a) = some (g a)) (as : List α) :
    (as.map write).mapM item = some (as.map g) := by
  have hsome : item ∘ write = fun a => pure (g a) := funext h
  rw [List.mapM_map, hsome, List.mapM_pure, Option.pure_def]

theorem list?_array {item : Json → Option α} {write : α → Json}
    (h : ∀ a, item (write a) = some a) (as : List α) :
    list? item (Json.array (as.map write)) = some as :=
  (mapM_map_eq_some item write (fun a => a) h as).trans (congrArg some (List.map_id' as))

/-- A list as the value of a member, which is absent when the list is empty. -/
def listValue? (write : α → Json) (as : List α) : Option Json :=
  if as.isEmpty then none else some (.array (as.map write))

theorem withDefault?_listValue? {item : Json → Option α} {write : α → Json}
    (h : ∀ a, item (write a) = some a) (as : List α) :
    withDefault? [] (list? item) (listValue? write as) = some as := by
  cases as with
  | nil => rfl
  | cons a as => exact list?_array h (a :: as)

theorem text?_string (s : String) : text? (Json.string s) = some s := rfl

theorem optional?_text (o : Option String) : optional? text? (o.map Json.string) = some o := by
  cases o <;> rfl

end Document

namespace Substitution

theorem read?_toJson (s : Substitution) : read? s.toJson = some s := rfl

end Substitution

namespace CountryEntry

theorem optionalMember_eq (name : String) (o : Option String) :
    optionalMember name o = ((o.map Json.string).map (name, ·)).toList := by
  cases o <;> rfl

theorem rulesMember_eq (name : String) (rules : List Substitution) :
    rulesMember name rules =
      ((Document.listValue? Substitution.toJson rules).map (name, ·)).toList := by
  cases rules <;> rfl

theorem toJson_eq (e : CountryEntry) :
    e.toJson = .object (Document.present fieldNames [e.addressTemplate.map .string,
      e.fallbackTemplate.map .string, Document.listValue? Substitution.toJson e.replace,
      Document.listValue? Substitution.toJson e.postformatReplace, e.useCountry.map .string,
      e.changeCountry.map .string, e.addComponent.map .string]) := by
  simp only [toJson, fieldNames, Document.present_cons, Document.present_nil, optionalMember_eq,
    rulesMember_eq, List.append_assoc, List.append_nil]

theorem read?_toJson (e : CountryEntry) : read? e.toJson = some e := by
  rw [read?, toJson_eq, Document.fields?_present (by decide) rfl]
  simp only [Option.bind_eq_bind, Option.bind_some, Document.optional?_text,
    Document.withDefault?_listValue? Substitution.read?_toJson]

end CountryEntry

namespace CountryTable

theorem readEntry?_toJson (e : CountryEntry) : readEntry? e.toJson = some (some e) := by
  unfold readEntry?
  rw [CountryEntry.read?_toJson]

/-- Distinct keys keep their entries and their order. -/
theorem read?_toJson (t : CountryTable) : CountryTable.read? (CountryTable.toJson t) = some t := by
  have hread : ∀ e : String × CountryEntry,
      ((Document.json? e.2.toJson).bind readEntry?).map (e.1, ·) = some (e.1, some e.2) := by
    intro e
    have hjson : (Document.json? e.2.toJson).bind readEntry? = some (some e.2) :=
      readEntry?_toJson e.2
    rw [hjson, Option.map_some]
  have hentries : Document.table? (fun v => (Document.json? v).bind readEntry?) (toJson t) =
      some (Table.ofList (t.entries.map fun e => (e.1, some e.2))) := by
    have hmapM := Document.mapM_map_eq_some (fun e : String × Json =>
      ((Document.json? e.2).bind readEntry?).map (e.1, ·)) (fun e => (e.1, e.2.toJson))
      (fun e => (e.1, some e.2)) hread t.entries
    exact congrArg (Option.bind · _) hmapM
  have hnodup : ((t.entries.map fun e => (e.1, some e.2)).map Prod.fst).Nodup := by
    simpa [List.map_map, Function.comp_def] using t.nodup
  have hkept : (t.entries.map fun e => (e.1, some e.2)).filterMap
      (fun e => e.2.map (e.1, ·)) = t.entries := by
    rw [List.filterMap_map]
    exact List.filterMap_some
  rw [read?, hentries, Option.bind_eq_bind, Option.bind_some, Table.entries_ofList hnodup]
  refine congrArg some (Table.ext ?_)
  rw [hkept, Table.entries_ofList t.nodup]

end CountryTable

namespace Component

theorem toJson_eq (c : Component) :
    c.toJson = .object (Document.present ["name", "aliases"]
      [some (.string c.name), Document.listValue? .string c.aliases]) := by
  obtain ⟨name, _ | ⟨a, aliases⟩⟩ := c <;> rfl

theorem read?_toJson (c : Component) : read? c.toJson = some c := by
  rw [read?, toJson_eq, Document.fields?_present (by decide) rfl]
  simp only [Option.bind_eq_bind, Option.bind_some, Document.text?_string,
    Document.withDefault?_listValue? Document.text?_string]

end Component

namespace ComponentTable

/-- The index that is made again is the one there was. -/
theorem read?_toJson (t : ComponentTable) : read? (toJson t) = some t := by
  have hlist : Document.list? Component.read? (toJson t) = some t.list :=
    Document.list?_array Component.read?_toJson t.list
  rw [read?, hlist, Option.map_some]
  exact congrArg some (ext rfl)

end ComponentTable

namespace FormatOptions

theorem codeMember_eq (name : String) (o : Option String) :
    codeMember name o = ((o.map Json.string).map (name, ·)).toList := by
  cases o <;> rfl

theorem toJson_eq (o : FormatOptions) :
    o.toJson = .object (Document.present fieldNames [some (.bool o.abbreviate),
      some (.bool o.appendCountry), some (.bool o.cleanupPostcode), o.countryCode.map .string,
      o.fallbackCountryCode.map .string, some (.string o.output.name)]) := by
  simp only [toJson, fieldNames, Document.present_cons, Document.present_nil, codeMember_eq,
    List.append_assoc, List.append_nil]
  rfl

theorem read?_toJson (o : FormatOptions) : read? o.toJson = some o := by
  rw [read?, toJson_eq, Document.fields?_present (by decide) rfl]
  simp only [Option.bind_eq_bind, Option.bind_some, Document.optional?_text]
  obtain ⟨_, _, _, _, _, _ | _⟩ := o <;> rfl

end FormatOptions

/-- Nothing is lost by writing tables and options: all entries come back in their order, also those
that are empty, and the components come back with their index. -/
theorem tables_and_options_read_back :
    (∀ t : CountryTable, CountryTable.read? (CountryTable.toJson t) = some t) ∧
    (∀ t : ComponentTable, ComponentTable.read? (ComponentTable.toJson t) = some t) ∧
    ∀ o : FormatOptions, FormatOptions.read? o.toJson = some o :=
  ⟨CountryTable.read?_toJson, ComponentTable.read?_toJson, FormatOptions.read?_toJson⟩

end PostalAddress
