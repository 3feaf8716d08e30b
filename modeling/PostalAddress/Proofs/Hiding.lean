import PostalAddress.Proofs.Entries

/-!
# Tables with some keys hidden

Hiding keys leaves their entries out. What is done to the other entries can be done before or after.
-/

namespace PostalAddress.Table

variable {α : Type}

/-- The table without the entries under some keys. -/
def hide (hidden : List String) (t : Table α) : Table α :=
  t.filterKeys fun key _ => key ∉ hidden

section

variable {hidden : List String} {t : Table α} {key : String}

theorem get?_hide (h : key ∉ hidden) (t : Table α) : (t.hide hidden).get? key = t.get? key := by
  rw [hide, get?_filterKeys, decide_eq_true h]
  cases t.get? key <;> rfl

theorem get?_hide_of_mem (h : key ∈ hidden) (t : Table α) : (t.hide hidden).get? key = none := by
  rw [hide, get?_filterKeys, decide_eq_false (not_not_intro h)]
  cases t.get? key <;> rfl

theorem hide_insert_of_mem (h : key ∈ hidden) (t : Table α) (value : α) :
    (t.insert key value).hide hidden = t.hide hidden := by
  have hput : ∀ es : List (String × α), (put key value es).filter (fun e => e.1 ∉ hidden) =
      es.filter fun e => e.1 ∉ hidden := by
    intro es
    induction es with
    | nil => simp [put, h]
    | cons e es ih =>
      obtain ⟨k, v⟩ := e
      rw [put]
      split
      · rename_i hk
        simp [hk, h]
      · rw [List.filter_cons, List.filter_cons, ih]
  exact ext (hput t.entries)

theorem hide_insert_of_not_mem (h : key ∉ hidden) (t : Table α) (value : α) :
    (t.insert key value).hide hidden = (t.hide hidden).insert key value := by
  have hput : ∀ es : List (String × α), (put key value es).filter (fun e => e.1 ∉ hidden) =
      put key value (es.filter fun e => e.1 ∉ hidden) := by
    intro es
    induction es with
    | nil => simp [put, h]
    | cons e es ih =>
      obtain ⟨k, v⟩ := e
      by_cases hk : k = key
      · subst hk
        simp [put, h]
      · rw [put, if_neg hk, List.filter_cons, List.filter_cons, ih]
        split
        · rw [put, if_neg hk]
        · rfl
  exact ext (hput t.entries)

theorem hide_filterKeys (hidden : List String) (p : String → α → Bool) (t : Table α) :
    (t.filterKeys p).hide hidden = (t.hide hidden).filterKeys p := by
  refine ext ?_
  change (t.entries.filter _).filter _ = (t.entries.filter _).filter _
  rw [List.filter_filter, List.filter_filter]
  exact List.filter_congr fun e _ => Bool.and_comm _ _

theorem hide_mapEntries {β : Type} (hidden : List String) (edit : String → α → β) (t : Table α) :
    (t.mapEntries edit).hide hidden = (t.hide hidden).mapEntries edit := by
  refine ext ?_
  change (t.entries.map _).filter _ = (t.entries.filter _).map _
  rw [List.filter_map]
  rfl

/-- What is hidden already need not be hidden before. -/
theorem hide_hide {hidden hidden' : List String} (h : hidden ⊆ hidden') (t : Table α) :
    (t.hide hidden).hide hidden' = t.hide hidden' := by
  refine ext ?_
  change (t.entries.filter _).filter _ = t.entries.filter _
  rw [List.filter_filter]
  refine List.filter_congr fun e _ => ?_
  by_cases hmem : e.1 ∈ hidden
  · simp [h hmem]
  · simp [hmem]

theorem keys_hide (hidden : List String) (t : Table α) :
    (t.hide hidden).keys = t.keys.filter (· ∉ hidden) := by
  rw [keys, keys, List.filter_map]
  rfl

theorem erase_eq_hide (t : Table α) (key : String) : t.erase key = t.hide [key] := by
  refine ext (List.filter_congr fun e _ => ?_)
  by_cases h : e.1 = key <;> simp [h]

end

end PostalAddress.Table
