import PostalAddress.Proofs.Address.Steps
import PostalAddress.Proofs.Renaming

/-!
# Keys that are spelled out

A key moves to its other spelling only when that is a component, and nothing moves to a key that is
filled in. So a field keeps its value under a key that is spelled as it is, and under one that no
component has in either spelling.
-/

namespace PostalAddress.Fields

variable {spell : String → String} {components : ComponentTable} {f out : Fields}

/-- Keys that do not move stay with their values. -/
theorem normalizeKeys_eq_self_of_unmoved
    (h : ∀ key ∈ Table.keys f, ∀ out, movesTo spell components f out key = false) :
    normalizeKeys spell components f = f := by
  have hfoldl : ∀ (es : List (String × String)) (out : Fields),
      ((out.entries ++ es).map Prod.fst).Nodup →
        (∀ key ∈ es.map Prod.fst, ∀ out, movesTo spell components f out key = false) →
          es.foldl (fun out e => addField spell components f out e.1 e.2) out =
            es.foldl (fun t e => Table.insert t e.1 e.2) out := by
    intro es
    induction es with
    | nil => exact fun _ _ _ => rfl
    | cons e es ih =>
      intro out hnodup hunmoved
      obtain ⟨key, value⟩ := e
      obtain ⟨hkey, hkeys⟩ := List.forall_mem_cons.mp hunmoved
      have hfresh : key ∉ out.entries.map Prod.fst := by
        rw [List.map_append, List.nodup_append] at hnodup
        exact fun hmem => hnodup.2.2 _ hmem _ List.mem_cons_self rfl
      have hfield : addField spell components f out key value = Table.insert out key value := by
        have hnone : Table.get? out key = none := Table.find?_eq_none_iff.mpr hfresh
        simp only at hkey
        simp [addField, hkey, isPresent, present, hnone]
      have hentries : (Table.insert out key value).entries = out.entries ++ [(key, value)] :=
        Table.put_of_not_mem hfresh value
      rw [List.foldl_cons, List.foldl_cons, ← ih _ ?_ hkeys]
      · exact congrArg (List.foldl _ · es) hfield
      · rwa [hentries, List.append_assoc]
  exact (hfoldl f.entries ∅ f.nodup h).trans (Table.ext (Table.entries_ofList f.nodup))

/-- Keys that are spelled as they are stay. -/
theorem normalizeKeys_eq_self (h : ∀ key ∈ Table.keys f, spell key = key) :
    normalizeKeys spell components f = f :=
  normalizeKeys_eq_self_of_unmoved fun key hkey _ => by simp [movesTo, h key hkey]

/-- Nothing moves to a key that is filled in. -/
theorem spell_ne_of_movesTo {key key' : String} (hkey : f.isPresent key)
    (h : movesTo spell components f out key') : spell key' ≠ key := by
  rintro rfl
  simp [movesTo, hkey] at h

/-- Keys move to those of components. -/
theorem isKnown_of_movesTo {key : String} (h : movesTo spell components f out key) :
    components.isKnown (spell key) := by
  unfold movesTo at h
  simp only [Bool.and_eq_true] at h
  exact h.1.1.2

/-- The key does not move, and no key moves to it. -/
def Stays (spell : String → String) (components : ComponentTable) (f : Fields) (key : String) :
    Prop :=
  ∀ out k, movesTo spell components f out k → k ≠ key ∧ spell k ≠ key

theorem stays_of_spelled {key : String} (hspell : spell key = key) (hkey : f.isPresent key) :
    Stays spell components f key := by
  intro out k hmoves
  have hne := spell_ne_of_movesTo hkey hmoves
  exact ⟨fun heq => hne (heq ▸ hspell), hne⟩

theorem stays_of_unknown {key : String} (hspell : ¬ components.isKnown (spell key))
    (hknown : ¬ components.isKnown key) : Stays spell components f key := by
  intro out k hmoves
  have htarget := isKnown_of_movesTo hmoves
  exact ⟨fun heq => hspell (heq ▸ htarget), fun heq => hknown (heq ▸ htarget)⟩

section

variable {key value : String} (hstays : Stays spell components f key)

include hstays

theorem get?_addField (hvalue : value ≠ "") (e : String × String) (he : e.1 = key → e.2 = value) :
    Table.get? (addField spell components f out e.1 e.2) key =
      if e.1 = key then some value else Table.get? out key := by
  unfold addField
  split
  · rename_i hmoves
    obtain ⟨hkey, htarget⟩ := hstays _ _ hmoves
    rw [if_neg hkey]
    split
    · rfl
    · rw [Table.get?_insert, if_neg htarget]
  · split
    · rename_i hempty
      rw [if_neg]
      intro hkey
      simp [he hkey, hvalue] at hempty
    · rw [Table.get?_insert]
      split
      · rename_i hkey
        rw [he hkey]
      · rfl

theorem present_normalizeKeys (hpresent : f.present key = some value) :
    (normalizeKeys spell components f).present key = some value := by
  have hget := get?_eq_of_present hpresent
  have hvalue := ne_empty_of_present hpresent
  have hfold : ∀ (es : List (String × String)) (out : Fields),
      (∀ e ∈ es, e.1 = key → e.2 = value) →
      Table.get? (es.foldl (fun out e => addField spell components f out e.1 e.2) out) key =
        if key ∈ es.map Prod.fst then some value else Table.get? out key := by
    intro es
    induction es with
    | nil => exact fun out _ => rfl
    | cons e es ih =>
      intro out hes
      obtain ⟨he, hes⟩ := List.forall_mem_cons.mp hes
      rw [List.foldl_cons, ih _ hes, get?_addField hstays hvalue e he, List.map_cons]
      by_cases hkey : e.1 = key
      · simp [hkey]
      · simp only [hkey, Ne.symm hkey, if_false, List.mem_cons, false_or]
  refine present_of_get? ?_ hvalue
  refine (hfold f.entries ∅ ?_).trans (if_pos ?_)
  · rintro ⟨k, v⟩ he rfl
    exact Option.some.inj ((Table.get?_eq_some_iff.mpr he).symm.trans hget)
  · exact List.mem_map_of_mem (Table.get?_eq_some_iff.mp hget)

end

end PostalAddress.Fields
