import PostalAddress.Proofs.Address.Agreement
import PostalAddress.Proofs.Hiding

/-!
# The attention

The attention is joined of the value that is given for it and those under keys of no component. A
value more is a part more.
-/

namespace PostalAddress.Fields

variable {components : ComponentTable}

/-- The values that the attention is joined of. -/
def attentionParts (components : ComponentTable) (f : Fields) : List String :=
  (f.present "attention").toList ++
    ((strangers components f).filter fun e => !e.2.isEmpty).map Prod.snd

theorem textOf_collectAttention (f : Fields) :
    (collectAttention components f).textOf "attention" =
      ", ".intercalate (attentionParts components f) := by
  rw [collectAttention_eq, attentionParts]
  cases (strangers components f).filter fun e => !e.2.isEmpty with
  | nil =>
    change f.textOf "attention" = _
    rw [textOf_eq_present]
    cases f.present "attention" <;> rfl
  | cons e es =>
    change Option.getD (Table.get? (Table.insert f "attention" _) "attention") "" = _
    rw [Table.get?_insert, if_pos rfl]
    rfl

/-- Every part of the attention is some text. -/
theorem ne_empty_of_mem_attentionParts {f : Fields} {part : String}
    (h : part ∈ attentionParts components f) : part ≠ "" := by
  obtain h | h := List.mem_append.mp h
  · exact ne_empty_of_present (Option.mem_toList.mp h)
  · obtain ⟨e, he, rfl⟩ := List.mem_map.mp h
    simpa using (List.mem_filter.mp he).2

/-- Without a field of no component the attention lacks its value. -/
theorem attentionParts_hide {f : Fields} {key value : String} (hget : Table.get? f key = some value)
    (hvalue : value ≠ "") (hknown : ¬ components.isKnown key) (hkey : key ≠ "attention") :
    ∃ before after, attentionParts components f = before ++ value :: after ∧
      attentionParts components (Table.hide [key] f) = before ++ after := by
  obtain ⟨es, es', hentries⟩ := List.append_of_mem (Table.get?_eq_some_iff.mp hget)
  have hnodup : (es.map Prod.fst ++ key :: es'.map Prod.fst).Nodup := by
    have hkeys := f.nodup
    rwa [hentries, List.map_append, List.map_cons] at hkeys
  obtain ⟨_, hnodup', hapart⟩ := List.nodup_append.mp hnodup
  have hshown : ∀ e ∈ es ++ es', e.1 ∉ [key] := by
    rintro e he hmem
    obtain rfl := List.mem_singleton.mp hmem
    obtain he | he := List.mem_append.mp he
    · exact hapart _ (List.mem_map_of_mem he) _ List.mem_cons_self rfl
    · exact (List.nodup_cons.mp hnodup').1 (List.mem_map_of_mem he)
  have hhidden : (Table.hide [key] f).entries = es ++ es' := by
    change f.entries.filter (fun e => e.1 ∉ [key]) = _
    rw [hentries, List.filter_append, List.filter_cons_of_neg (by simp), ← List.filter_append]
    exact List.filter_eq_self.mpr fun e he => decide_eq_true (hshown e he)
  have hattention : present (Table.hide [key] f) "attention" = f.present "attention" :=
    present_congr (Table.get?_hide (fun h => hkey (List.mem_singleton.mp h).symm) f)
  refine ⟨(f.present "attention").toList ++
      ((es.filter fun e => !components.isKnown e.1).filter fun e => !e.2.isEmpty).map Prod.snd,
    ((es'.filter fun e => !components.isKnown e.1).filter fun e => !e.2.isEmpty).map Prod.snd,
    ?_, ?_⟩
  · rw [attentionParts, strangers, hentries, List.filter_append,
      List.filter_cons_of_pos (by simpa using hknown), List.filter_append,
      List.filter_cons_of_pos (by simpa using hvalue), List.map_append, List.map_cons,
      List.append_assoc]
  · rw [attentionParts, hattention, strangers, hhidden, List.filter_append, List.filter_append,
      List.map_append, List.append_assoc]

end PostalAddress.Fields
