import PostalAddress.Proofs.Address.Settling

/-!
# Addresses that agree off a key

No step after the aliases are resolved asks for another name of a component. So two addresses that
agree under all keys but such a name, and have the same entries under unknown keys, still do so when
they are settled.
-/

namespace PostalAddress

namespace Fields

/-- The entries under keys of no component. -/
def strangers (components : ComponentTable) (f : Fields) : List (String × String) :=
  f.entries.filter fun e => !components.isKnown e.1

section Strangers

variable {components : ComponentTable} {key : String}

theorem strangers_insert (h : components.isKnown key) (f : Fields) (value : String) :
    strangers components (Table.insert f key value) = strangers components f := by
  have hput : ∀ es : List (String × String),
      (Table.put key value es).filter (fun e => !components.isKnown e.1) =
        es.filter fun e => !components.isKnown e.1 := by
    intro es
    induction es with
    | nil => simp [Table.put, h]
    | cons e es ih =>
      obtain ⟨k, v⟩ := e
      rw [Table.put]
      split
      · rename_i hk
        simp [hk, h]
      · rw [List.filter_cons, List.filter_cons, ih]
  exact hput f.entries

theorem strangers_filterKeys (p : String → String → Bool) (f : Fields) :
    strangers components (Table.filterKeys p f) =
      (strangers components f).filter fun e => p e.1 e.2 := by
  rw [strangers, strangers, Table.filterKeys, List.filter_filter, List.filter_filter]
  exact List.filter_congr fun e _ => Bool.and_comm _ _

theorem strangers_mapEntries (g : String → String → String) (f : Fields) :
    strangers components (Table.mapEntries g f) =
      (strangers components f).map fun e => (e.1, g e.1 e.2) := by
  rw [strangers, strangers, Table.mapEntries, List.filter_map]
  rfl

/-- The attention is collected from the strangers that are filled in. -/
theorem collectAttention_eq (f : Fields) : collectAttention components f =
    if ((strangers components f).filter fun e => !e.2.isEmpty).isEmpty then f
    else Table.insert f "attention" (", ".intercalate ((f.present "attention").toList ++
      ((strangers components f).filter fun e => !e.2.isEmpty).map Prod.snd)) := by
  rw [strangers, List.filter_filter]
  rfl

end Strangers

/-- The fields agree under every key but one, and have the same strangers. -/
structure AgreeOff (components : ComponentTable) (key : String) (f g : Fields) : Prop where
  get?_eq : ∀ k, k ≠ key → Table.get? f k = Table.get? g k
  strangers_eq : strangers components f = strangers components g

namespace AgreeOff

variable {components : ComponentTable} {key : String} {f g : Fields}
  (h : AgreeOff components key f g)

include h

theorem present_eq {k : String} (hk : k ≠ key) : f.present k = g.present k :=
  present_congr (h.get?_eq k hk)

theorem isPresent_eq {k : String} (hk : k ≠ key) : f.isPresent k = g.isPresent k :=
  isPresent_congr (h.get?_eq k hk)

theorem insert {k : String} (hk : components.isKnown k) (value : String) :
    AgreeOff components key (Table.insert f k value) (Table.insert g k value) where
  get?_eq k' hk' := by rw [Table.get?_insert, Table.get?_insert, h.get?_eq k' hk']
  strangers_eq := by rw [strangers_insert hk, strangers_insert hk, h.strangers_eq]

theorem filterKeys (p : String → String → Bool) :
    AgreeOff components key (Table.filterKeys p f) (Table.filterKeys p g) where
  get?_eq k hk := by rw [Table.get?_filterKeys, Table.get?_filterKeys, h.get?_eq k hk]
  strangers_eq := by rw [strangers_filterKeys, strangers_filterKeys, h.strangers_eq]

theorem mapEntries (r : String → String → String) :
    AgreeOff components key (Table.mapEntries r f) (Table.mapEntries r g) where
  get?_eq k hk := by rw [Table.get?_mapEntries, Table.get?_mapEntries, h.get?_eq k hk]
  strangers_eq := by rw [strangers_mapEntries, strangers_mapEntries, h.strangers_eq]

theorem foldl_fillFrom {small : Bool} {keys : List String} (hkeys : key ∉ keys)
    (hkey : ∀ k, readsAs? components small k ≠ some key)
    (hknown : ∀ k name, readsAs? components small k = some name → components.isKnown name) :
    AgreeOff components key (keys.foldl (fillFrom components small) f)
      (keys.foldl (fillFrom components small) g) := by
  induction keys generalizing f g with
  | nil => exact h
  | cons k keys ih =>
    rw [List.mem_cons, not_or] at hkeys
    refine ih ?_ hkeys.2
    unfold fillFrom
    split
    · exact h
    · rename_i name hname
      have hne : name ≠ key := fun heq => hkey k (heq ▸ hname)
      rw [h.isPresent_eq hne, h.get?_eq k (Ne.symm hkeys.1)]
      split
      · exact h
      · split
        · exact h.insert (hknown k name hname) _
        · exact h

section Named

variable (hkey : ∀ k ∈ namedKeys, k ≠ key) (hknown : ∀ k ∈ namedKeys, components.isKnown k)

include hkey hknown

omit h in
theorem congruence : Congruence namedKeys (AgreeOff components key) where
  get?_eq h k hk := h.get?_eq k (hkey k hk)
  insert hk h := h.insert (hknown _ hk)
  filterKeys h := h.filterKeys
  mapEntries h := h.mapEntries

theorem collectAttention :
    AgreeOff components key (Fields.collectAttention components f)
      (Fields.collectAttention components g) := by
  rw [collectAttention_eq, collectAttention_eq, h.strangers_eq,
    h.present_eq (hkey "attention" (by decide))]
  split
  · exact h
  · exact h.insert (hknown _ (by decide)) _

end Named

end AgreeOff

end Fields

end PostalAddress
