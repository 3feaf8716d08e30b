import PostalAddress.Proofs.Entries

/-!
# Keys under another name

A key that is renamed keeps its value and its place. What is inserted later under other keys does not
meet the renamed one.
-/

namespace PostalAddress.Table

variable {α : Type}

theorem put_of_not_mem {key : String} {es : List (String × α)} (h : key ∉ es.map Prod.fst)
    (value : α) : put key value es = es ++ [(key, value)] := by
  induction es with
  | nil => rfl
  | cons e es ih =>
    obtain ⟨k, v⟩ := e
    rw [List.map_cons, List.mem_cons, not_or] at h
    rw [put, if_neg (Ne.symm h.1), ih h.2, List.cons_append]

/-- Distinct keys stay in their order. -/
theorem entries_ofList {es : List (String × α)} (h : (es.map Prod.fst).Nodup) :
    (ofList es).entries = es := by
  have hfoldl : ∀ (es : List (String × α)) (t : Table α),
      ((t.entries ++ es).map Prod.fst).Nodup →
        (es.foldl (fun t e => t.insert e.1 e.2) t).entries = t.entries ++ es := by
    intro es
    induction es with
    | nil => exact fun t _ => (List.append_nil _).symm
    | cons e es ih =>
      intro t ht
      have hfresh : e.1 ∉ t.entries.map Prod.fst := by
        rw [List.map_append, List.nodup_append] at ht
        exact fun hmem => ht.2.2 _ hmem _ List.mem_cons_self rfl
      have hinsert : (t.insert e.1 e.2).entries = t.entries ++ [e] := put_of_not_mem hfresh e.2
      rw [List.foldl_cons, ih _ (by rwa [hinsert, List.append_assoc]), hinsert, List.append_assoc]
      rfl
  exact hfoldl es ∅ h

theorem get?_eq_none_iff {t : Table α} {key : String} : t.get? key = none ↔ key ∉ t.keys :=
  find?_eq_none_iff

/-- New values under the keys of a table, entered one by one. -/
theorem ofList_map_entries {β : Type} (g : String → α → β) (t : Table α) :
    ofList (t.entries.map fun e => (e.1, g e.1 e.2)) = t.mapEntries g :=
  ext (entries_ofList (t.mapEntries g).nodup)

/-- The name of a key when `key` is called `key'`. -/
def renamed (key key' k : String) : String := if k = key then key' else k

theorem renamed_self (key key' : String) : renamed key key' key = key' := if_pos rfl

theorem renamed_of_ne {key k : String} (h : k ≠ key) (key' : String) : renamed key key' k = k :=
  if_neg h

theorem map_renamed_of_not_mem {key : String} {ks : List String} (h : key ∉ ks) (key' : String) :
    ks.map (renamed key key') = ks := by
  refine (List.map_congr_left fun k hk => ?_).trans (List.map_id ks)
  have hne : k ≠ key := by
    rintro rfl
    exact h hk
  exact renamed_of_ne hne key'

/-- The table with `key` called `key'`, in the same place. -/
def rename (t : Table α) (key key' : String) : Table α :=
  ofList (t.entries.map fun e => (renamed key key' e.1, e.2))

/-- `t'` is `t` with `key` called `key'`, which is no key of `t`. -/
structure Renames (key key' : String) (t t' : Table α) : Prop where
  entries_eq : t'.entries = t.entries.map fun e => (renamed key key' e.1, e.2)
  fresh : t.get? key' = none

section

variable {key key' : String} {t t' : Table α}

theorem renames_rename (h : t.get? key' = none) : Renames key key' t (t.rename key key') := by
  refine ⟨entries_ofList ?_, h⟩
  have hfresh : key' ∉ t.keys := get?_eq_none_iff.mp h
  have hkeys : (t.entries.map fun e => (renamed key key' e.1, e.2)).map Prod.fst =
      t.keys.map (renamed key key') := by
    rw [keys, List.map_map, List.map_map]
    rfl
  rw [hkeys]
  refine List.pairwise_map.mpr (List.Pairwise.imp_of_mem ?_ t.nodup)
  intro k k' hk hk' hne heq
  unfold renamed at heq
  split at heq <;> split at heq
  · exact hne (‹k = key›.trans ‹k' = key›.symm)
  · exact hfresh (heq ▸ hk')
  · exact hfresh (heq ▸ hk)
  · exact hne heq

namespace Renames

variable (h : Renames key key' t t')

include h

theorem keys_eq : t'.keys = t.keys.map (renamed key key') := by
  rw [keys, h.entries_eq, keys, List.map_map, List.map_map]
  rfl

theorem get?_of_ne {k : String} (hkey : k ≠ key) (hkey' : k ≠ key') : t'.get? k = t.get? k := by
  have hfind : ∀ es : List (String × α),
      find? k (es.map fun e => (renamed key key' e.1, e.2)) = find? k es := by
    intro es
    induction es with
    | nil => rfl
    | cons e es ih =>
      obtain ⟨k', v⟩ := e
      rw [List.map_cons, find?, find?, ih]
      by_cases hk : k' = key
      · subst hk
        rw [renamed_self, if_neg (Ne.symm hkey'), if_neg (Ne.symm hkey)]
      · rw [renamed_of_ne hk]
  rw [get?, h.entries_eq, hfind, get?]

theorem get?_new : t'.get? key' = t.get? key := by
  have hfind : ∀ es : List (String × α), find? key' es = none →
      find? key' (es.map fun e => (renamed key key' e.1, e.2)) = find? key es := by
    intro es hnone
    induction es with
    | nil => rfl
    | cons e es ih =>
      obtain ⟨k, v⟩ := e
      rw [find?] at hnone
      split at hnone
      · cases hnone
      · rename_i hk
        rw [List.map_cons, find?, find?, ih hnone]
        by_cases hkey : k = key
        · subst hkey
          rw [renamed_self, if_pos rfl, if_pos rfl]
        · rw [renamed_of_ne hkey, if_neg hk, if_neg hkey]
  rw [get?, h.entries_eq, hfind t.entries h.fresh, get?]

theorem get?_old (hne : key ≠ key') : t'.get? key = none := by
  rw [get?_eq_none_iff, h.keys_eq, List.mem_map]
  rintro ⟨k, _, hk⟩
  unfold renamed at hk
  split at hk
  · exact hne hk.symm
  · exact absurd hk ‹_›

theorem insert {k : String} (hkey : k ≠ key) (hkey' : k ≠ key') (value : α) :
    Renames key key' (t.insert k value) (t'.insert k value) := by
  have hput : ∀ es : List (String × α),
      put k value (es.map fun e => (renamed key key' e.1, e.2)) =
        (put k value es).map fun e => (renamed key key' e.1, e.2) := by
    intro es
    induction es with
    | nil => rw [List.map_nil, put, List.map_singleton, renamed_of_ne hkey]
    | cons e es ih =>
      obtain ⟨k', v⟩ := e
      rw [List.map_cons, put, put, ih]
      by_cases hk : k' = key
      · subst hk
        rw [renamed_self, if_neg (Ne.symm hkey'), if_neg (Ne.symm hkey), List.map_cons,
          renamed_self]
      · rw [renamed_of_ne hk]
        split <;> rw [List.map_cons, renamed_of_ne hk]
  constructor
  · change put k value t'.entries = _
    rw [h.entries_eq, hput]
    rfl
  · rw [get?_insert, if_neg hkey', h.fresh]

end Renames

end

end PostalAddress.Table
