import PostalAddress.Table

/-!
# Entries of a table

What is found under a key after an insertion, and how many entries there are.
-/

namespace PostalAddress.Table

variable {α : Type}

theorem find?_put (key key' : String) (value : α) (es : List (String × α)) :
    find? key' (put key value es) = if key = key' then some value else find? key' es := by
  induction es with
  | nil => rfl
  | cons e es ih =>
    obtain ⟨k, v⟩ := e
    by_cases hk : k = key
    · subst hk
      simp only [put, if_true, find?]
      split <;> rfl
    · rw [put, if_neg hk, find?, find?, ih]
      by_cases hk' : k = key'
      · have hne : ¬ key = key' := fun h => hk (hk'.trans h.symm)
        rw [if_pos hk', if_neg hne, if_pos hk']
      · rw [if_neg hk', if_neg hk']

theorem find?_eq_none_iff {key : String} {es : List (String × α)} :
    find? key es = none ↔ key ∉ es.map Prod.fst := by
  induction es with
  | nil => simp [find?]
  | cons e es ih =>
    obtain ⟨k, v⟩ := e
    rw [find?, List.map_cons, List.mem_cons, not_or, ← ih]
    by_cases hk : k = key
    · simp [hk]
    · simp [hk, Ne.symm hk]

theorem mem_of_find? {key : String} {value : α} {es : List (String × α)}
    (h : find? key es = some value) : (key, value) ∈ es := by
  induction es with
  | nil => cases h
  | cons e es ih =>
    obtain ⟨k, v⟩ := e
    rw [find?] at h
    split at h
    · rename_i hk
      rw [hk, Option.some.inj h]
      exact List.mem_cons_self
    · exact List.mem_cons_of_mem _ (ih h)

theorem mem_put {key : String} {value : α} {es : List (String × α)}
    {e : String × α} (h : e ∈ put key value es) : e.2 = value ∨ e ∈ es := by
  induction es with
  | nil =>
    obtain rfl := List.mem_singleton.mp h
    exact .inl rfl
  | cons e' es ih =>
    obtain ⟨k, v⟩ := e'
    rw [put] at h
    split at h
    · obtain rfl | h := List.mem_cons.mp h
      · exact .inl rfl
      · exact .inr (List.mem_cons_of_mem _ h)
    · obtain rfl | h := List.mem_cons.mp h
      · exact .inr List.mem_cons_self
      · exact (ih h).imp_right (List.mem_cons_of_mem _)

theorem get?_insert (t : Table α) (key key' : String) (value : α) :
    (t.insert key value).get? key' = if key = key' then some value else t.get? key' :=
  find?_put key key' value t.entries

theorem get?_eq_some_iff {t : Table α} {key : String} {value : α} :
    t.get? key = some value ↔ (key, value) ∈ t.entries := by
  have hfind : ∀ es : List (String × α), (es.map Prod.fst).Nodup → (key, value) ∈ es →
      find? key es = some value := by
    intro es hnodup hmem
    induction es with
    | nil => cases hmem
    | cons e es ih =>
      obtain ⟨k, v⟩ := e
      obtain ⟨hk, hes⟩ := List.nodup_cons.mp hnodup
      obtain hfirst | hmem := List.mem_cons.mp hmem
      · obtain ⟨rfl, rfl⟩ := Prod.mk.inj hfirst
        exact if_pos rfl
      · have hne : ¬ k = key := by
          rintro rfl
          exact hk (List.mem_map.mpr ⟨_, hmem, rfl⟩)
        rw [find?, if_neg hne, ih hes hmem]
  exact ⟨mem_of_find?, hfind t.entries t.nodup⟩

theorem mem_of_get?_ofList {es : List (String × α)} {key : String} {value : α}
    (h : (ofList es).get? key = some value) : (key, value) ∈ es := by
  have hfoldl : ∀ (es : List (String × α)) (t : Table α),
      (es.foldl (fun t e => t.insert e.1 e.2) t).get? key = some value →
        t.get? key = some value ∨ (key, value) ∈ es := by
    intro es
    induction es with
    | nil => exact fun t h => .inl h
    | cons e es ih =>
      intro t h
      obtain h | h := ih _ h
      · rw [get?_insert] at h
        split at h
        · rename_i hkey
          right
          rw [← hkey, ← Option.some.inj h]
          exact List.mem_cons_self
        · exact .inl h
      · exact .inr (List.mem_cons_of_mem e h)
  exact (hfoldl es ∅ h).resolve_left nofun

theorem ext {s t : Table α} (h : s.entries = t.entries) : s = t := by
  obtain ⟨es, hes⟩ := s
  obtain rfl : es = t.entries := h
  rfl

theorem get?_mapEntries {β : Type} (g : String → α → β) (t : Table α) (key : String) :
    (t.mapEntries g).get? key = (t.get? key).map (g key) := by
  have hfind : ∀ es : List (String × α),
      find? key (es.map fun e => (e.1, g e.1 e.2)) = (find? key es).map (g key) := by
    intro es
    induction es with
    | nil => rfl
    | cons e es ih =>
      obtain ⟨k, v⟩ := e
      rw [List.map_cons, find?, find?]
      split
      · rename_i hk
        exact congrArg (fun k => some (g k v)) hk
      · exact ih
  exact hfind t.entries

theorem get?_mapValues {β : Type} (g : α → β) (t : Table α) (key : String) :
    (t.mapValues g).get? key = (t.get? key).map g :=
  get?_mapEntries (fun _ => g) t key

theorem mapEntries_insert {β : Type} (g : String → α → β) (t : Table α) (key : String)
    (value : α) : (t.insert key value).mapEntries g = (t.mapEntries g).insert key (g key value) := by
  have hput : ∀ es : List (String × α), (put key value es).map (fun e => (e.1, g e.1 e.2)) =
      put key (g key value) (es.map fun e => (e.1, g e.1 e.2)) := by
    intro es
    induction es with
    | nil => rfl
    | cons e es ih =>
      obtain ⟨k, v⟩ := e
      rw [put, List.map_cons, put]
      split
      · rename_i hk
        rw [List.map_cons, hk]
      · rw [List.map_cons, ih]
  exact ext (hput t.entries)

/-- An insertion under a key that is there keeps all keys in their places. -/
theorem insert_eq_mapEntries {t : Table α} {key : String} (h : (t.get? key).isSome) (value : α) :
    t.insert key value = t.mapEntries fun k v => if k = key then value else v := by
  have hput : ∀ es : List (String × α), (es.map Prod.fst).Nodup → (find? key es).isSome →
      put key value es = es.map fun e => (e.1, if e.1 = key then value else e.2) := by
    intro es hnodup hsome
    induction es with
    | nil => cases hsome
    | cons e es ih =>
      obtain ⟨k, v⟩ := e
      obtain ⟨hk, hes⟩ := List.nodup_cons.mp hnodup
      rw [put, List.map_cons]
      by_cases hkey : k = key
      · have hrest : ∀ e ∈ es, (e.1, if e.1 = key then value else e.2) = e := by
          intro e he
          rw [if_neg]
          exact fun hekey => hk (List.mem_map.mpr ⟨e, he, hekey.trans hkey.symm⟩)
        rw [if_pos hkey, if_pos hkey, List.map_congr_left hrest, List.map_id']
      · rw [find?, if_neg hkey] at hsome
        rw [if_neg hkey, if_neg hkey, ih hes hsome]
  exact ext (hput t.entries t.nodup h)

theorem insert_insert (t : Table α) (key : String) (value value' : α) :
    (t.insert key value).insert key value' = t.insert key value' := by
  have hput : ∀ es : List (String × α), put key value' (put key value es) = put key value' es := by
    intro es
    induction es with
    | nil => exact if_pos rfl
    | cons e es ih =>
      obtain ⟨k, v⟩ := e
      by_cases hk : k = key
      · rw [put, if_pos hk, put, if_pos hk, put, if_pos hk]
      · rw [put, if_neg hk, put, if_neg hk, put, if_neg hk, ih]
  exact ext (hput t.entries)

/-- An insertion of what is there changes nothing. -/
theorem insert_eq_self {t : Table α} {key : String} {value : α} (h : t.get? key = some value) :
    t.insert key value = t := by
  have hput : ∀ es : List (String × α), find? key es = some value → put key value es = es := by
    intro es hfind
    induction es with
    | nil => cases hfind
    | cons e es ih =>
      obtain ⟨k, v⟩ := e
      rw [find?] at hfind
      by_cases hk : k = key
      · rw [if_pos hk] at hfind
        rw [put, if_pos hk, Option.some.inj hfind]
      · rw [if_neg hk] at hfind
        rw [put, if_neg hk, ih hfind]
  exact ext (hput t.entries h)

theorem keys_insert (t : Table α) (key : String) (value : α) :
    (t.insert key value).keys = if key ∈ t.keys then t.keys else t.keys ++ [key] :=
  keys_put key value t.entries

theorem keys_isPrefix_insert (t : Table α) (key : String) (value : α) :
    t.keys <+: (t.insert key value).keys := by
  rw [keys_insert]
  split
  · exact List.prefix_refl _
  · exact List.prefix_append _ _

theorem get?_filterKeys (p : String → α → Bool) (t : Table α) (key : String) :
    (t.filterKeys p).get? key = (t.get? key).filter (p key) := by
  have hfind : ∀ es : List (String × α), (es.map Prod.fst).Nodup →
      find? key (es.filter fun e => p e.1 e.2) = (find? key es).filter (p key) := by
    intro es hnodup
    induction es with
    | nil => rfl
    | cons e es ih =>
      obtain ⟨k, v⟩ := e
      obtain ⟨hk, hes⟩ := List.nodup_cons.mp hnodup
      rw [List.filter_cons, find?]
      split
      · rw [find?, ih hes]
        split
        · rename_i hpass hkey
          rw [← hkey, Option.filter_some, if_pos hpass]
        · rfl
      · rw [ih hes]
        split
        · rename_i hfail hkey
          have hnone : find? key es = none := find?_eq_none_iff.mpr (hkey ▸ hk)
          rw [hnone, ← hkey, Option.filter_some, if_neg hfail]
          rfl
        · rfl
  exact hfind t.entries t.nodup

theorem get?_erase_of_ne {key key' : String} (h : key ≠ key') (t : Table α) :
    (t.erase key).get? key' = t.get? key' := by
  have hne : (key' != key) = true := bne_iff_ne.mpr (Ne.symm h)
  rw [erase, get?_filterKeys, hne]
  cases t.get? key' <;> rfl

theorem size_insert {t : Table α} {key : String} (h : t.get? key = none) (value : α) :
    (t.insert key value).size = t.size + 1 := by
  have hkeys := congrArg List.length (keys_put key value t.entries)
  rw [if_neg (find?_eq_none_iff.mp h)] at hkeys
  simpa [insert, size] using hkeys

end PostalAddress.Table
