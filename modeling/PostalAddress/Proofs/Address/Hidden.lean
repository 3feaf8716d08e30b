import PostalAddress.Proofs.Address.Spelling
import PostalAddress.Proofs.Address.Untouched
import PostalAddress.Proofs.Hiding

/-!
# Addresses with fields hidden

A field under a key of no component is only asked for where the attention is collected. Up to there
an address without the field is settled as the address with it, less the field; and then its value is
one part of the attention more.
-/

namespace PostalAddress

namespace Fields

variable {hidden : List String}

/-- Keys that are hidden in the one address may be there in the other. -/
theorem congruence_hide {named : List String} (h : ∀ key ∈ named, key ∉ hidden) :
    Congruence named fun f g => g = Table.hide hidden f where
  get?_eq hfg key hkey := by rw [hfg, Table.get?_hide (h key hkey)]
  insert hkey hfg value := by rw [hfg, Table.hide_insert_of_not_mem (h _ hkey)]
  filterKeys hfg p := by rw [hfg, Table.hide_filterKeys]
  mapEntries hfg edit := by rw [hfg, Table.hide_mapEntries]

/-- Keys that are hidden in both addresses may hold anything. -/
theorem congruence_hide_eq {named : List String} (h : ∀ key ∈ named, key ∉ hidden) :
    Congruence named fun f g => Table.hide hidden f = Table.hide hidden g where
  get?_eq hfg key hkey := by
    rw [← Table.get?_hide (h key hkey), hfg, Table.get?_hide (h key hkey)]
  insert hkey hfg value := by
    rw [Table.hide_insert_of_not_mem (h _ hkey), hfg, Table.hide_insert_of_not_mem (h _ hkey)]
  filterKeys hfg p := by rw [Table.hide_filterKeys, hfg, Table.hide_filterKeys]
  mapEntries hfg edit := by rw [Table.hide_mapEntries, hfg, Table.hide_mapEntries]

section Keys

variable {spell : String → String} {components : ComponentTable}
  (hspell : ∀ key ∈ hidden, ¬ components.isKnown (spell key))
  (hknown : ∀ key ∈ hidden, ¬ components.isKnown key)

section

include hknown

theorem movesTo_hide (f out : Fields) (key : String) :
    movesTo spell components (Table.hide hidden f) (Table.hide hidden out) key =
      movesTo spell components f out key := by
  unfold movesTo
  by_cases htarget : components.isKnown (spell key)
  · have hshown : spell key ∉ hidden := fun hmem => hknown _ hmem htarget
    rw [isPresent_congr (Table.get?_hide hshown f), isPresent_congr (Table.get?_hide hshown out)]
  · simp [htarget]

theorem addField_hide (f out : Fields) {key : String} (hkey : key ∉ hidden) (value : String) :
    addField spell components (Table.hide hidden f) (Table.hide hidden out) key value =
      Table.hide hidden (addField spell components f out key value) := by
  unfold addField
  rw [movesTo_hide hknown, isPresent_congr (Table.get?_hide hkey out)]
  split
  · rename_i hmoves
    have hshown : spell key ∉ hidden := fun hmem => hknown _ hmem (isKnown_of_movesTo hmoves)
    split
    · rfl
    · rw [Table.hide_insert_of_not_mem hshown]
  · split
    · rfl
    · rw [Table.hide_insert_of_not_mem hkey]

end

include hspell

/-- A hidden key does not move, and what is done with it stays hidden. -/
theorem hide_addField_of_mem (f out : Fields) {key : String} (hkey : key ∈ hidden)
    (value : String) :
    Table.hide hidden (addField spell components f out key value) = Table.hide hidden out := by
  have hstays : movesTo spell components f out key = false := by
    simp [movesTo, hspell key hkey]
  unfold addField
  rw [hstays, if_neg Bool.false_ne_true]
  split
  · rfl
  · rw [Table.hide_insert_of_mem hkey]

include hknown

theorem normalizeKeys_hide (f : Fields) :
    normalizeKeys spell components (Table.hide hidden f) =
      Table.hide hidden (normalizeKeys spell components f) := by
  have hfold : ∀ (es : List (String × String)) (out : Fields),
      (es.filter fun e => e.1 ∉ hidden).foldl (fun out e =>
          addField spell components (Table.hide hidden f) out e.1 e.2) (Table.hide hidden out) =
        Table.hide hidden (es.foldl (fun out e => addField spell components f out e.1 e.2) out) := by
    intro es
    induction es with
    | nil => exact fun _ => rfl
    | cons e es ih =>
      intro out
      rw [List.foldl_cons, ← ih]
      by_cases hkey : e.1 ∈ hidden
      · rw [List.filter_cons_of_neg (by simpa using hkey),
          hide_addField_of_mem hspell f out hkey]
      · rw [List.filter_cons_of_pos (by simpa using hkey), List.foldl_cons,
          addField_hide hknown f out hkey]
  exact hfold f.entries ∅

end Keys

section Aliases

variable {components : ComponentTable} {small : Bool}
  (hreads : ∀ key ∈ hidden, readsAs? components small key = none)
  (htargets : ∀ key, ∀ name ∈ hidden, readsAs? components small key ≠ some name)

include hreads htargets

theorem foldl_fillFrom_hide (keys : List String) (f : Fields) :
    (keys.filter (· ∉ hidden)).foldl (fillFrom components small) (Table.hide hidden f) =
      Table.hide hidden (keys.foldl (fillFrom components small) f) := by
  induction keys generalizing f with
  | nil => rfl
  | cons key keys ih =>
    rw [List.foldl_cons, ← ih]
    by_cases hkey : key ∈ hidden
    · have hstays : fillFrom components small f key = f := by
        rw [fillFrom, hreads key hkey]
      rw [List.filter_cons_of_neg (by simpa using hkey), hstays]
    · rw [List.filter_cons_of_pos (by simpa using hkey), List.foldl_cons]
      refine congrArg (List.foldl _ · _) ?_
      unfold fillFrom
      split
      · rfl
      · rename_i name hname
        have hshown : name ∉ hidden := fun hmem => htargets key name hmem hname
        rw [isPresent_congr (Table.get?_hide hshown f), Table.get?_hide hkey]
        split
        · rfl
        · split
          · rw [Table.hide_insert_of_not_mem hshown]
          · rfl

theorem resolveAliases_hide (hcode : "country_code" ∉ hidden) {f : Fields}
    (hsmall : (f.present "country_code").any smallDistrictCountries.contains = small) :
    resolveAliases components (Table.hide hidden f) =
      Table.hide hidden (resolveAliases components f) := by
  have hsmall' : (present (Table.hide hidden f) "country_code").any
      smallDistrictCountries.contains = small := by
    rw [present_congr (Table.get?_hide hcode f), hsmall]
  unfold resolveAliases
  rw [hsmall, hsmall', Table.keys_hide]
  exact foldl_fillFrom_hide hreads htargets (Table.keys f) f

end Aliases

theorem hide_collectAttention (h : "attention" ∈ hidden) (components : ComponentTable)
    (f : Fields) :
    Table.hide hidden (collectAttention components f) = Table.hide hidden f := by
  unfold collectAttention
  dsimp only
  split
  · rfl
  · rw [Table.hide_insert_of_mem h]

end Fields

namespace Formatter

/-- Fields without text are not among the values that are listed. -/
theorem joinedValues_hide {hidden : List String} {f : Fields}
    (h : ∀ key ∈ hidden, f.textOf key = "") :
    joinedValues (Table.hide hidden f) = joinedValues f := by
  have hvalues : (Table.values (Table.hide hidden f)).filter (!·.isEmpty) =
      (Table.values f).filter (!·.isEmpty) := by
    change ((f.entries.filter _).map Prod.snd).filter _ = (f.entries.map Prod.snd).filter _
    rw [List.filter_map, List.filter_map, List.filter_filter]
    refine congrArg _ (List.filter_congr fun e he => ?_)
    by_cases hkey : e.1 ∈ hidden
    · have htext := h e.1 hkey
      rw [Fields.textOf, Table.get?_eq_some_iff.mpr (show (e.1, e.2) ∈ f.entries from he)] at htext
      have hempty : e.2 = "" := htext
      simp [hempty]
    · simp [hkey]
  rw [joinedValues, hvalues, joinedValues]

end Formatter

end PostalAddress
