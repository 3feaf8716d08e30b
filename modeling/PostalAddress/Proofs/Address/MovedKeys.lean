import Mathlib.Logic.Function.Basic
import PostalAddress.Bundled.Components
import PostalAddress.Proofs.Address.Spelling

/-!
# Keys move, values stay

Keys are spelled out field by field. A value that is not empty is put only where none is: under its
own key, which no other key moves to while it is filled in, or under the other spelling, when the
component is filled in neither in the address nor in what there is so far. So the fields that are
filled in are those of the address, each under one of its two spellings. When a key in its other
spelling is spelled as it is, a key that stays behind is one whose component is filled in, and a
second pass moves nothing.
-/

namespace PostalAddress.Fields

open scoped List

variable {spell : String → String} {components : ComponentTable} {f out : Fields}

/-- The entries that are filled in. -/
def filledEntries (es : List (String × String)) : List (String × String) :=
  es.filter (!·.2.isEmpty)

theorem filledEntries_append (es es' : List (String × String)) :
    filledEntries (es ++ es') = filledEntries es ++ filledEntries es' :=
  List.filter_append es es'

theorem map_snd_filledEntries (f : Fields) :
    (filledEntries f.entries).map Prod.snd = (Table.values f).filter (!·.isEmpty) := by
  rw [Table.values, List.filter_map]
  rfl

theorem mem_filledEntries_iff {key value : String} :
    (key, value) ∈ filledEntries f.entries ↔ f.present key = some value := by
  rw [filledEntries, List.mem_filter, ← Table.get?_eq_some_iff]
  constructor
  · rintro ⟨hget, hvalue⟩
    exact present_of_get? hget (by simpa using hvalue)
  · intro hpresent
    exact ⟨get?_eq_of_present hpresent, by simpa using ne_empty_of_present hpresent⟩

section Inserting

theorem isPresent_insert (key key' value : String) :
    isPresent (Table.insert out key value) key' ↔
      if key = key' then value ≠ "" else out.isPresent key' := by
  rw [isPresent_iff, isPresent_iff, textOf, textOf, Table.get?_insert]
  split <;> rfl

/-- What is inserted in an empty place takes nothing away. -/
theorem filledEntries_insert {key : String} (h : out.isPresent key = false) (value : String) :
    (filledEntries (Table.insert out key value).entries).Perm
      (filledEntries [(key, value)] ++ filledEntries out.entries) := by
  have hput : ∀ es : List (String × String), (Table.find? key es).getD "" = "" →
      (filledEntries (Table.put key value es)).Perm
        (filledEntries [(key, value)] ++ filledEntries es) := by
    intro es hempty
    induction es with
    | nil => exact .of_eq (List.append_nil _).symm
    | cons e es ih =>
      obtain ⟨k, v⟩ := e
      rw [Table.find?] at hempty
      by_cases hk : k = key
      · rw [if_pos hk] at hempty
        obtain rfl : v = "" := hempty
        rw [Table.put, if_pos hk, hk]
        exact .of_eq (filledEntries_append [(key, value)] es)
      · rw [if_neg hk] at hempty
        rw [Table.put, if_neg hk]
        calc filledEntries ((k, v) :: Table.put key value es)
            = filledEntries [(k, v)] ++ filledEntries (Table.put key value es) :=
              filledEntries_append [(k, v)] _
          _ ~ filledEntries [(k, v)] ++ (filledEntries [(key, value)] ++ filledEntries es) :=
              (ih hempty).append_left _
          _ ~ filledEntries [(key, value)] ++ (filledEntries [(k, v)] ++ filledEntries es) := by
              rw [← List.append_assoc, ← List.append_assoc]
              exact List.perm_append_comm.append_right _
          _ = filledEntries [(key, value)] ++ filledEntries ((k, v) :: es) :=
              congrArg _ (filledEntries_append [(k, v)] es).symm
  refine hput out.entries ?_
  by_contra hne
  exact Bool.false_ne_true (h.symm.trans (isPresent_iff.mpr hne))

end Inserting

section Steps

/-- A field without a value may be passed over; one with a value moves or stays where it is. -/
theorem addField_cases (spell : String → String) (components : ComponentTable) (f out : Fields)
    (key value : String) :
    value = "" ∧ addField spell components f out key value = out ∨
      (value ≠ "" ∧ movesTo spell components f out key ∧
        addField spell components f out key value = Table.insert out (spell key) value) ∨
      ((value = "" → out.isPresent key = false) ∧
        movesTo spell components f out key = false ∧
        addField spell components f out key value = Table.insert out key value) := by
  unfold addField
  cases hmoves : movesTo spell components f out key <;> by_cases hvalue : value = "" <;>
    cases hkey : out.isPresent key <;> simp [hvalue]

/-- Nothing that is filled in is emptied. -/
theorem isPresent_addField {key' : String} (h : out.isPresent key') (key value : String) :
    (addField spell components f out key value).isPresent key' := by
  obtain ⟨_, heq⟩ | ⟨hvalue, _, heq⟩ | ⟨hvalue, _, heq⟩ :=
    addField_cases spell components f out key value
  · rwa [heq]
  · rw [heq, isPresent_insert]
    split
    · exact hvalue
    · exact h
  · rw [heq, isPresent_insert]
    split
    · rintro rfl
      rename_i hkey
      exact Bool.false_ne_true ((hvalue rfl).symm.trans (hkey ▸ h))
    · exact h

/-- What holds at first and is kept by every field that is added holds of the result. -/
theorem normalizeKeys_induction {P : List (String × String) → Fields → Prop} (h : P [] ∅)
    (hstep : ∀ added e out, e ∈ f.entries → e.1 ∉ added.map Prod.fst → P added out →
      P (added ++ [e]) (addField spell components f out e.1 e.2)) :
    P f.entries (normalizeKeys spell components f) := by
  have hfoldl : ∀ (es added : List (String × String)) (out : Fields),
      added ++ es = f.entries → P added out →
        P f.entries (es.foldl (fun out e => addField spell components f out e.1 e.2) out) := by
    intro es
    induction es with
    | nil =>
      intro added out hentries hadded
      rw [List.append_nil] at hentries
      exact hentries ▸ hadded
    | cons e es ih =>
      intro added out hentries hadded
      have hmem : e ∈ f.entries := hentries ▸ List.mem_append_right _ List.mem_cons_self
      have hfresh : e.1 ∉ added.map Prod.fst := by
        have hnodup := f.nodup
        rw [← hentries, List.map_append, List.nodup_append] at hnodup
        exact fun hkey => hnodup.2.2 _ hkey _ List.mem_cons_self rfl
      exact ih (added ++ [e]) _ (by rw [← hentries, List.append_assoc]; rfl)
        (hstep added e out hmem hfresh hadded)
  exact hfoldl f.entries [] ∅ rfl h

end Steps

section Values

/-- What there is once some fields are added: they themselves, each under its key or its other
spelling. A key that the address fills in is not taken before its own field comes. -/
structure Carries (spell : String → String) (f : Fields) (added : List (String × String))
    (out : Fields) : Prop where
  spelled : ∃ target : String → String, (∀ key, target key = key ∨ target key = spell key) ∧
    filledEntries out.entries ~ (filledEntries added).map fun e => (target e.1, e.2)
  taken : ∀ key, f.isPresent key → out.isPresent key → key ∈ added.map Prod.fst

theorem Carries.insert {added : List (String × String)} {key goal value : String}
    (h : Carries spell f added out) (hfresh : key ∉ added.map Prod.fst)
    (hgoal : goal = key ∨ goal = spell key) (hfree : out.isPresent goal = false)
    (htaken : f.isPresent goal → goal = key) :
    Carries spell f (added ++ [(key, value)]) (Table.insert out goal value) := by
  obtain ⟨target, htarget, hperm⟩ := h.spelled
  refine ⟨⟨Function.update target key goal, fun k => ?_, ?_⟩, fun k hpresent hout => ?_⟩
  · by_cases hk : k = key
    · rw [hk, Function.update_self]
      exact hgoal
    · rw [Function.update_of_ne hk]
      exact htarget k
  · have hadded : ((filledEntries added).map fun e => (Function.update target key goal e.1, e.2)) =
        (filledEntries added).map fun e => (target e.1, e.2) := by
      refine List.map_congr_left fun e he => ?_
      have hne : e.1 ≠ key := by
        rintro rfl
        exact hfresh (List.mem_map_of_mem (List.mem_filter.mp he).1)
      rw [Function.update_of_ne hne]
    have hlast : ((filledEntries [(key, value)]).map
        fun e => (Function.update target key goal e.1, e.2)) = filledEntries [(goal, value)] := by
      by_cases hvalue : value = "" <;> simp [filledEntries, hvalue]
    rw [filledEntries_append, List.map_append, hadded, hlast]
    exact (filledEntries_insert hfree value).trans
      (List.perm_append_comm.trans (hperm.append_right _))
  · rw [List.map_append, List.mem_append]
    rw [isPresent_insert] at hout
    split at hout
    · rename_i heq
      subst heq
      exact .inr (List.mem_singleton.mpr (htaken hpresent))
    · exact .inl (h.taken k hpresent hout)

theorem Carries.addField {added : List (String × String)} {e : String × String}
    (h : Carries spell f added out) (he : e ∈ f.entries) (hfresh : e.1 ∉ added.map Prod.fst) :
    Carries spell f (added ++ [e]) (addField spell components f out e.1 e.2) := by
  obtain ⟨key, value⟩ := e
  obtain ⟨hvalue, heq⟩ | ⟨_, hmoves, heq⟩ | ⟨hfree, _, heq⟩ :=
    addField_cases spell components f out key value
  · rw [heq]
    have hskip : filledEntries (added ++ [(key, value)]) = filledEntries added := by
      simp [filledEntries, hvalue]
    refine ⟨hskip ▸ h.spelled, fun k hpresent hout => ?_⟩
    rw [List.map_append]
    exact List.mem_append_left _ (h.taken k hpresent hout)
  · rw [heq]
    have hfree : out.isPresent (spell key) = false := by
      simp only [movesTo, Bool.and_eq_true, Bool.not_eq_true'] at hmoves
      exact hmoves.2
    exact h.insert hfresh (.inr rfl) hfree
      fun hpresent => absurd rfl (spell_ne_of_movesTo hpresent hmoves)
  · rw [heq]
    refine h.insert hfresh (.inl rfl) ?_ fun _ => rfl
    by_cases hvalue : value = ""
    · exact hfree hvalue
    · have hpresent : f.isPresent key := by
        rw [isPresent, present_of_get? (Table.get?_eq_some_iff.mpr he) hvalue]
        rfl
      by_contra hout
      exact hfresh (h.taken key hpresent (by simpa using hout))

theorem carries_normalizeKeys (spell : String → String) (components : ComponentTable)
    (f : Fields) : Carries spell f f.entries (normalizeKeys spell components f) :=
  normalizeKeys_induction (P := Carries spell f)
    ⟨⟨id, fun _ => .inl rfl, List.Perm.refl _⟩, fun _ _ hout => nomatch hout⟩
    fun _ _ _ he hfresh h => h.addField he hfresh

end Values

section Twice

variable (hspell : ∀ key, spell (spell key) = spell key)

include hspell

/-- A key that stays behind is one whose component is filled in. -/
theorem isPresent_of_mem_keys_normalizeKeys {key : String}
    (hkey : key ∈ Table.keys (normalizeKeys spell components f)) (hne : spell key ≠ key)
    (hknown : components.isKnown (spell key)) :
    (normalizeKeys spell components f).isPresent (spell key) := by
  have hfilled : ∀ k ∈ Table.keys (normalizeKeys spell components f), spell k ≠ k →
      components.isKnown (spell k) → f.isPresent (spell k) ∨
        (normalizeKeys spell components f).isPresent (spell k) := by
    refine normalizeKeys_induction
      (P := fun _ out => ∀ k ∈ Table.keys out, spell k ≠ k → components.isKnown (spell k) →
        f.isPresent (spell k) ∨ out.isPresent (spell k)) nofun ?_
    intro added e out _ _ hout k hk hne hknown
    -- what was filled in before the field was added still is
    suffices hbefore : f.isPresent (spell k) ∨ out.isPresent (spell k) from
      hbefore.imp_right fun hpresent => isPresent_addField hpresent e.1 e.2
    have hinsert : ∀ goal value, k ∈ Table.keys (Table.insert out goal value) →
        k ∈ Table.keys out ∨ k = goal := by
      intro goal value hmem
      rw [Table.keys_insert] at hmem
      split at hmem
      · exact .inl hmem
      · simpa using hmem
    obtain ⟨_, heq⟩ | ⟨_, _, heq⟩ | ⟨_, hstays, heq⟩ :=
      addField_cases spell components f out e.1 e.2
    · exact hout k (heq ▸ hk) hne hknown
    · obtain hk | rfl := hinsert _ _ (heq ▸ hk)
      · exact hout k hk hne hknown
      · exact absurd (hspell e.1) hne
    · obtain hk | rfl := hinsert _ _ (heq ▸ hk)
      · exact hout k hk hne hknown
      · simpa [movesTo, hne, hknown, or_iff_not_imp_left] using hstays
  obtain hpresent | hpresent := hfilled key hkey hne hknown
  · obtain ⟨value, hvalue⟩ := Option.isSome_iff_exists.mp hpresent
    rw [isPresent, present_normalizeKeys (stays_of_spelled (hspell key) hpresent) hvalue]
    rfl
  · exact hpresent

theorem normalizeKeys_normalizeKeys :
    normalizeKeys spell components (normalizeKeys spell components f) =
      normalizeKeys spell components f := by
  refine normalizeKeys_eq_self_of_unmoved fun key hkey out => ?_
  unfold movesTo
  by_cases hne : spell key = key
  · simp [hne]
  · by_cases hknown : components.isKnown (spell key)
    · simp [isPresent_of_mem_keys_normalizeKeys hspell hkey hne hknown]
    · simp [hknown]

end Twice

/-- Spelling the keys out loses no value. -/
theorem normalizeKeys_keeps_values (spell : String → String) (components : ComponentTable)
    (f : Fields) :
    ((Table.values (normalizeKeys spell components f)).filter (!·.isEmpty) ~
        (Table.values f).filter (!·.isEmpty)) ∧
      (∀ key value, f.present key = some value →
        (normalizeKeys spell components f).present key = some value ∨
          (normalizeKeys spell components f).present (spell key) = some value) ∧
      ((∀ key, spell (spell key) = spell key) →
        (∀ key value, spell key = key → f.present key = some value →
          (normalizeKeys spell components f).present key = some value) ∧
        (∀ key ∈ Table.keys (normalizeKeys spell components f), spell key ≠ key →
          components.isKnown (spell key) →
            (normalizeKeys spell components f).isPresent (spell key)) ∧
        normalizeKeys spell components (normalizeKeys spell components f) =
          normalizeKeys spell components f) := by
  obtain ⟨target, htarget, hperm⟩ := (carries_normalizeKeys spell components f).spelled
  refine ⟨?_, fun key value hpresent => ?_, fun hspell => ⟨fun key value hkey hpresent => ?_,
    fun key => isPresent_of_mem_keys_normalizeKeys hspell, normalizeKeys_normalizeKeys hspell⟩⟩
  · have hvalues := hperm.map Prod.snd
    rw [List.map_map] at hvalues
    rw [← map_snd_filledEntries, ← map_snd_filledEntries]
    exact hvalues
  · have hmem : (target key, value) ∈
        filledEntries (normalizeKeys spell components f).entries :=
      hperm.mem_iff.mpr (List.mem_map_of_mem (mem_filledEntries_iff.mpr hpresent))
    rw [mem_filledEntries_iff] at hmem
    obtain heq | heq := htarget key
    · exact .inl (heq ▸ hmem)
    · exact .inr (heq ▸ hmem)
  · have hfilled : f.isPresent key := by
      rw [isPresent, hpresent]
      rfl
    exact present_normalizeKeys (stays_of_spelled hkey hfilled) hpresent

/-- An empty field takes the value of the first key with its name as other spelling, and the second
such key stays behind. -/
theorem normalizeKeys_keeps_values_of_two_spellings :
    ∃ (spell : String → String) (f out : Fields),
      spell = (fun key => if key ∈ ["houseNumber", "HouseNumber"] then "house_number" else key) ∧
      f = .ofList [("house_number", ""), ("houseNumber", "7"), ("road", "Main St"),
        ("HouseNumber", "8"), ("Road", "")] ∧
      out = .ofList [("house_number", "7"), ("road", "Main St"), ("HouseNumber", "8"),
        ("Road", "")] ∧
      normalizeKeys spell Bundled.components f = out ∧
      (Table.values out).filter (!·.isEmpty) ~ (Table.values f).filter (!·.isEmpty) ∧
      (∀ key, spell (spell key) = spell key) ∧
      out.isPresent (spell "HouseNumber") ∧ normalizeKeys spell Bundled.components out = out := by
  have hspell : ∀ spell : String → String,
      spell = (fun key => if key ∈ ["houseNumber", "HouseNumber"] then "house_number" else key) →
        ∀ key, spell (spell key) = spell key := by
    rintro _ rfl key
    by_cases hkey : key ∈ ["houseNumber", "HouseNumber"] <;> simp [hkey]
  have hout : normalizeKeys
      (fun key => if key ∈ ["houseNumber", "HouseNumber"] then "house_number" else key)
      Bundled.components (.ofList [("house_number", ""), ("houseNumber", "7"),
        ("road", "Main St"), ("HouseNumber", "8"), ("Road", "")]) =
      .ofList [("house_number", "7"), ("road", "Main St"), ("HouseNumber", "8"), ("Road", "")] := by
    decide +kernel
  obtain ⟨hvalues, _, htwice⟩ := normalizeKeys_keeps_values
    (fun key => if key ∈ ["houseNumber", "HouseNumber"] then "house_number" else key)
    Bundled.components (.ofList [("house_number", ""), ("houseNumber", "7"), ("road", "Main St"),
      ("HouseNumber", "8"), ("Road", "")])
  obtain ⟨_, hleft, hagain⟩ := htwice (hspell _ rfl)
  rw [hout] at hvalues hleft hagain
  exact ⟨_, _, _, rfl, rfl, rfl, hout, hvalues, hspell _ rfl,
    hleft "HouseNumber" (by decide) (by decide +kernel) (by decide +kernel), hagain⟩

end PostalAddress.Fields
