import PostalAddress.Address.Component
import PostalAddress.Proofs.Renaming

/-!
# Canonical names

The index of a component table is made in two passes, first over the names and then over the
aliases, and what has been entered stays. So a name is canonical for itself, whoever lists it as an
alias, and any other key stands for the first component that lists it; looking a canonical name up
again changes nothing.
-/

namespace PostalAddress

namespace Table

variable {α : Type}

theorem get?_insertNew (t : Table α) (key key' : String) (value : α) :
    (t.insertNew key value).get? key' =
      (t.get? key').or (if key = key' then some value else none) := by
  unfold insertNew
  split
  · rename_i hkey
    split
    · rename_i heq
      rw [contains, heq, Option.isSome_iff_exists] at hkey
      obtain ⟨v, hv⟩ := hkey
      rw [hv, Option.some_or]
    · rw [Option.or_none]
  · rename_i hkey
    rw [contains, Option.not_isSome_iff_eq_none] at hkey
    rw [get?_insert]
    split
    · rename_i heq
      rw [← heq, hkey, Option.none_or]
    · rw [Option.or_none]

/-- Of the keys given to a value, those that have none take it. -/
theorem get?_foldl_insertNew (keys : List String) (value : α) (t : Table α) (key : String) :
    (keys.foldl (fun t k => t.insertNew k value) t).get? key =
      (t.get? key).or (if key ∈ keys then some value else none) := by
  induction keys generalizing t with
  | nil => rw [List.foldl_nil, if_neg List.not_mem_nil, Option.or_none]
  | cons k keys ih =>
    rw [List.foldl_cons, ih, get?_insertNew, Option.or_assoc]
    by_cases hk : k = key
    · subst hk
      simp only [if_true, List.mem_cons_self, Option.some_or]
    · have hmem : key ∈ k :: keys ↔ key ∈ keys := by simp [Ne.symm hk]
      simp only [if_neg hk, hmem, Option.none_or]

end Table

section Positions

variable (keys : Component → List String)

theorem Component.get?_enterFrom (i : Nat) (cs : List Component) (entered : Table Nat)
    (key : String) :
    (enterFrom keys i cs entered).get? key =
      (entered.get? key).or ((cs.findIdx? fun c => key ∈ keys c).map (· + i)) := by
  induction cs generalizing i entered with
  | nil => rw [enterFrom, List.findIdx?_nil, Option.map_none, Option.or_none]
  | cons c cs ih =>
    rw [enterFrom, ih, Table.get?_foldl_insertNew, Option.or_assoc, List.findIdx?_cons]
    by_cases hc : key ∈ keys c
    · simp [hc]
    · simp only [hc, if_false, decide_false, Bool.false_eq_true, Option.none_or, Option.map_map]
      refine congrArg (fun f => (entered.get? key).or (Option.map f _)) (funext fun j => ?_)
      simp only [Function.comp]
      omega

theorem Component.get?_positions (cs : List Component) (key : String) :
    (positions cs).get? key =
      (cs.findIdx? fun c => key ∈ [c.name]).or (cs.findIdx? fun c => key ∈ c.aliases) := by
  have hempty : (∅ : Table Nat).get? key = none := rfl
  have hzero : ∀ i : Option Nat, i.map (· + 0) = i := by rintro (_ | i) <;> rfl
  rw [positions, get?_enterFrom, get?_enterFrom, hempty, Option.none_or, hzero, hzero]

end Positions

namespace ComponentTable

theorem ext {t t' : ComponentTable} (h : t.list = t'.list) : t = t' := by
  obtain ⟨list, index, hindex⟩ := t
  obtain ⟨list', index', hindex'⟩ := t'
  obtain rfl : list = list' := h
  obtain rfl := hindex.trans hindex'.symm
  rfl

variable (t : ComponentTable) (key : String)

@[simp] theorem mem_iff {c : Component} : c ∈ t ↔ c ∈ t.list := Iff.rfl

/-- A key has the position of the first component of this name, or else of the first that lists it
as an alias. -/
theorem get?_index : t.index.get? key =
    (t.list.findIdx? fun c => key ∈ [c.name]).or (t.list.findIdx? fun c => key ∈ c.aliases) := by
  rw [t.index_eq, Component.get?_positions]

theorem canonical_eq_find? :
    t.canonical key = ((t.list.find? fun c => key ∈ [c.name]).or
      (t.list.find? fun c => key ∈ c.aliases)).map Component.name := by
  have hat : ∀ p : Component → Bool,
      (t.list.findIdx? p).bind t.nameAt? = (t.list.find? p).map Component.name := by
    intro p
    rw [List.find?_eq_bind_findIdx?_getElem?, Option.map_bind]
    rfl
  rw [canonical, get?_index]
  cases hindex : t.list.findIdx? fun c => key ∈ [c.name] with
  | none =>
    have hnone : (t.list.find? fun c => key ∈ [c.name]) = none := by
      rw [List.find?_eq_bind_findIdx?_getElem?, hindex, Option.bind_none]
    rw [hnone, Option.none_or, Option.none_or, hat]
  | some i =>
    have hsome : (t.list.find? fun c => key ∈ [c.name]).isSome := by
      rw [List.isSome_find?, ← List.findIdx?_isSome, hindex, Option.isSome_some]
    rw [Option.or_of_isSome hsome, Option.some_or, ← hindex, hat]

/-- The positions of the index are those of components. -/
theorem isSome_canonical : (t.canonical key).isSome = t.isKnown key := by
  rw [isKnown, Table.contains, get?_index, canonical_eq_find?, Option.isSome_map,
    Option.isSome_or, Option.isSome_or, List.findIdx?_isSome, List.findIdx?_isSome,
    List.isSome_find?, List.isSome_find?]

variable {t key} {name : String}

theorem canonical_eq_none_iff : t.canonical key = none ↔ ¬ t.isKnown key := by
  rw [← isSome_canonical, Option.not_isSome_iff_eq_none]

theorem canonical_of_mem_names (h : name ∈ t.names) : t.canonical name = some name := by
  rw [canonical_eq_find?]
  cases hfind : t.list.find? fun c => name ∈ [c.name] with
  | none =>
    obtain ⟨c, hc, rfl⟩ := List.mem_map.mp h
    exact absurd (decide_eq_true (List.mem_singleton.mpr rfl)) (List.find?_eq_none.mp hfind c hc)
  | some c =>
    have hname := List.find?_some hfind
    rw [decide_eq_true_eq, List.mem_singleton] at hname
    rw [Option.some_or, Option.map_some, hname]

theorem isKnown_of_mem_names (h : name ∈ t.names) : t.isKnown name := by
  rw [← isSome_canonical, canonical_of_mem_names h, Option.isSome_some]

/-- What is canonical for a key is the name of a component, and the key is that name or an alias. -/
theorem exists_of_canonical (h : t.canonical key = some name) :
    ∃ c ∈ t, c.name = name ∧ (key = c.name ∨ key ∈ c.aliases) := by
  rw [canonical_eq_find?] at h
  obtain ⟨c, hc, hname⟩ := Option.map_eq_some_iff.mp h
  obtain hfind | ⟨_, hfind⟩ := Option.or_eq_some_iff.mp hc
  · have hkey := List.find?_some hfind
    rw [decide_eq_true_eq, List.mem_singleton] at hkey
    exact ⟨c, List.mem_of_find?_eq_some hfind, hname, .inl hkey⟩
  · have hkey := List.find?_some hfind
    rw [decide_eq_true_eq] at hkey
    exact ⟨c, List.mem_of_find?_eq_some hfind, hname, .inr hkey⟩

theorem mem_names_of_canonical (h : t.canonical key = some name) : name ∈ t.names := by
  obtain ⟨c, hc, rfl, _⟩ := exists_of_canonical h
  exact List.mem_map_of_mem hc

theorem canonical_of_not_mem_names (h : key ∉ t.names) :
    t.canonical key = (t.list.find? fun c => key ∈ c.aliases).map Component.name := by
  have hnone : (t.list.find? fun c => key ∈ [c.name]) = none := by
    refine List.find?_eq_none.mpr fun c hc hkey => h ?_
    rw [List.mem_singleton.mp (of_decide_eq_true hkey)]
    exact List.mem_map_of_mem hc
  rw [canonical_eq_find?, hnone, Option.none_or]

variable (t key)

theorem canonical_eq_ite : t.canonical key = if key ∈ t.names then some key
    else (t.list.find? fun c => key ∈ c.aliases).map Component.name := by
  by_cases h : key ∈ t.names
  · rw [if_pos h, canonical_of_mem_names h]
  · rw [if_neg h, canonical_of_not_mem_names h]

theorem isKnown_iff : t.isKnown key ↔ key ∈ t.names ∨ ∃ c ∈ t, key ∈ c.aliases := by
  rw [← isSome_canonical]
  by_cases h : key ∈ t.names
  · simp [canonical_of_mem_names h, h]
  · simp [canonical_of_not_mem_names h, h]

theorem isAlias_iff : t.isAlias key ↔ key ∉ t.names ∧ ∃ c ∈ t, key ∈ c.aliases := by
  by_cases h : key ∈ t.names
  · simp [isAlias, canonical_of_mem_names h, h]
  · have hknown := isKnown_iff t key
    simp only [h, false_or] at hknown
    simp only [h, not_false_eq_true, true_and]
    rw [← hknown, isAlias, ← isSome_canonical]
    cases hname : t.canonical key with
    | none => rfl
    | some name =>
      have hne : name ≠ key := fun heq => h (heq ▸ mem_names_of_canonical hname)
      simp [hne]

theorem bind_canonical : (t.canonical key).bind t.canonical = t.canonical key := by
  cases h : t.canonical key with
  | none => rfl
  | some name => exact canonical_of_mem_names (mem_names_of_canonical h)

/-- Canonical names are the names, each for itself: no alias takes a name away from its component,
and an alias is read as the first component that lists it. The index, which is entered key by key,
has the position of that component, and it knows no other keys. -/
theorem canonical_retracts_to_names :
    t.canonical key = (if key ∈ t.names then some key
      else (t.list.find? fun c => key ∈ c.aliases).map Component.name) ∧
    (t.canonical key).bind t.canonical = t.canonical key ∧
    (t.isKnown key ↔ key ∈ t.names ∨ ∃ c ∈ t, key ∈ c.aliases) ∧
    (t.isAlias key ↔ key ∉ t.names ∧ ∃ c ∈ t, key ∈ c.aliases) ∧
    t.canonical key = (t.index.get? key).bind t.nameAt? ∧
    t.isKnown key = t.index.contains key ∧
    t.index.get? key = (t.list.findIdx? fun c => key ∈ [c.name]).or
      (t.list.findIdx? fun c => key ∈ c.aliases) :=
  ⟨canonical_eq_ite t key, bind_canonical t key, isKnown_iff t key, isAlias_iff t key, rfl, rfl,
    get?_index t key⟩

example : (["city", "road", "town", "square"].map (ofList [⟨"city", ["road", "town"]⟩,
    ⟨"road", ["town", "city"]⟩, ⟨"city", ["square", "town"]⟩]).canonical) =
      [some "city", some "road", some "city", some "city"] := by decide

end ComponentTable

end PostalAddress
