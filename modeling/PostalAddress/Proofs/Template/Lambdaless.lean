import PostalAddress.Proofs.Entries
import PostalAddress.Template.Context

/-!
# Views without lambdas

A property of values is hereditary when it passes on to all that names lead to in them. Being free
of lambdas is: what a name leads to in views that hold no lambda is none either, unless it is what a
computed value gives. Looking a name up, and putting such a value on top, keeps a context free of
lambdas.
-/

namespace PostalAddress

variable {κ : Type}

namespace Value

/-- What has the property has it in all its parts. -/
structure Hereditary (P : Value κ → Prop) : Prop where
  property : ∀ {v w : Value κ} {name : String}, P v → v.property name = some w → P w
  primitive : ∀ {v w : Value κ} {name : String}, P v → v.primitiveProperty name = some w → P w

inductive Lambdaless : Value κ → Prop
  | null : Lambdaless .null
  | bool (b : Bool) : Lambdaless (.bool b)
  | number (x : Float) : Lambdaless (.number x)
  | string (s : String) : Lambdaless (.string s)
  | list {items : List (Value κ)} (h : ∀ v ∈ items, Lambdaless v) : Lambdaless (.list items)
  | map {es : List (String × Value κ)} (h : ∀ e ∈ es, Lambdaless e.2) : Lambdaless (.map es)
  | computed (k : κ) : Lambdaless (.computed k)

/-- A string has numbers and strings in it. -/
theorem eq_of_primitiveProperty {v w : Value κ} {name : String}
    (hw : v.primitiveProperty name = some w) : (∃ x, w = .number x) ∨ ∃ s, w = .string s := by
  cases v with
  | string s =>
    rw [primitiveProperty] at hw
    split at hw
    · exact .inl ⟨_, (Option.some.inj hw).symm⟩
    · obtain ⟨i, _, hi⟩ := Option.bind_eq_some_iff.mp hw
      obtain ⟨c, _, rfl⟩ := Option.map_eq_some_iff.mp hi
      exact .inr ⟨_, rfl⟩
  | _ => cases hw

theorem hereditary_lambdaless : Hereditary (Lambdaless (κ := κ)) where
  property {v w name} h hw := by
    cases h with
    | list h =>
      rw [Value.property] at hw
      split at hw
      · obtain rfl := Option.some.inj hw
        exact .number _
      · obtain ⟨i, _, hi⟩ := Option.bind_eq_some_iff.mp hw
        exact h w (List.mem_of_getElem? hi)
    | map h => exact h _ (Table.mem_of_find? hw)
    | null => cases hw
    | bool => cases hw
    | number => cases hw
    | string => cases hw
    | computed => cases hw
  primitive {v w name} _ hw := by
    obtain ⟨x, rfl⟩ | ⟨s, rfl⟩ := eq_of_primitiveProperty hw
    · exact .number x
    · exact .string s

end Value

/-- The layer's view holds no lambda, and neither does what it remembers. -/
structure Layer.Lambdaless (l : Layer κ) : Prop where
  view : l.view.Lambdaless
  memo : ∀ name v, Table.find? name l.memo = some (some v) → v.Lambdaless

theorem Layer.lambdaless_of_view {v : Value κ} (h : v.Lambdaless) :
    Layer.Lambdaless ⟨v, []⟩ :=
  ⟨h, fun _ _ hfind => by cases hfind⟩

namespace Context

def Lambdaless (x : Context κ) : Prop := ∀ l ∈ x.top :: x.below, l.Lambdaless

variable {x : Context κ} {v w : Value κ}

theorem lambdaless_ofView (h : v.Lambdaless) : (ofView v).Lambdaless := by
  intro l hl
  obtain rfl := List.mem_singleton.mp hl
  exact Layer.lambdaless_of_view h

theorem Lambdaless.push (h : x.Lambdaless) (hv : v.Lambdaless) : (x.push v).Lambdaless := by
  intro l hl
  obtain rfl | hl := List.mem_cons.mp hl
  · exact Layer.lambdaless_of_view hv
  · exact h l hl

theorem Lambdaless.pop (h : x.Lambdaless) : x.pop.Lambdaless := by
  obtain ⟨top, below⟩ := x
  cases below with
  | nil => exact h
  | cons l ls =>
    intro l' hl'
    exact h l' (List.mem_cons_of_mem top hl')

section Hereditary

variable {P : Value κ → Prop} (hP : Value.Hereditary P)
include hP

theorem step?_of_hereditary (h : P v) {name : String} (hw : step? v name = some w) : P w := by
  rw [step?, Option.orElse_eq_orElse, Option.orElse_eq_or, Option.or_eq_some_iff] at hw
  rcases hw with hw | ⟨_, hw⟩
  · exact hP.property h hw
  · exact hP.primitive h hw

theorem walk?_of_hereditary (h : P v) {names : List String} (hw : walk? v names = some w) :
    P w := by
  induction names generalizing v with
  | nil =>
    obtain rfl := Option.some.inj hw
    exact h
  | cons name names ih =>
    obtain ⟨u, hu, hw⟩ := Option.bind_eq_some_iff.mp hw
    exact ih (step?_of_hereditary hP h hu) hw

theorem resolveIn_of_hereditary (h : P v) {name : String} (hw : resolveIn name v = some w) :
    P w := by
  rw [resolveIn] at hw
  split at hw
  · exact hP.property h hw
  · exact walk?_of_hereditary hP h hw

/-- What a name leads to in views with a hereditary property has it too. -/
theorem resolve_of_hereditary {views : List (Value κ)} (h : ∀ v ∈ views, P v) {name : String}
    (hw : resolve name views = some w) : P w := by
  rw [resolve] at hw
  split at hw
  · exact h w (List.mem_of_mem_head? hw)
  · obtain ⟨v, hv, hres⟩ := List.exists_of_findSome?_eq_some hw
    exact resolveIn_of_hereditary hP (h v hv) hres

end Hereditary

theorem settle_cases {compute : Compute κ} {o : Option (Value κ)}
    (h : settle compute v o = some w) : (∃ k, w = compute k v) ∨ o = some w := by
  unfold settle at h
  split at h
  · rename_i k
    exact .inl ⟨k, (Option.some.inj h).symm⟩
  · exact .inr h

/-- A lookup in a context without lambdas finds none but those of computed values, and what it
remembers is none. -/
theorem Lambdaless.lookup (h : x.Lambdaless) (compute : Compute κ) (name : String) :
    (x.lookup compute name).2.Lambdaless ∧ ∀ w, (x.lookup compute name).1 = some w →
      (∃ k, w = compute k x.view) ∨ w.Lambdaless := by
  have htop : x.top.Lambdaless := h x.top List.mem_cons_self
  have hviews : ∀ v ∈ x.views, v.Lambdaless := by
    intro v hv
    obtain rfl | hv := List.mem_cons.mp hv
    · exact htop.view
    · obtain ⟨l, hl, rfl⟩ := List.mem_map.mp hv
      exact (h l (List.mem_cons_of_mem _ hl)).view
  unfold Context.lookup
  cases hfind : Table.find? name x.top.memo with
  | some o =>
    refine ⟨h, fun w hw => ?_⟩
    obtain hk | rfl := settle_cases hw
    · exact .inl hk
    · exact .inr (htop.memo name w hfind)
  | none =>
    constructor
    · intro l hl
      obtain rfl | hl := List.mem_cons.mp hl
      · refine ⟨htop.view, fun name' v hv => ?_⟩
        rw [Table.find?] at hv
        split at hv
        · exact resolve_of_hereditary Value.hereditary_lambdaless hviews (Option.some.inj hv)
        · exact htop.memo name' v hv
      · exact h l (List.mem_cons_of_mem _ hl)
    · intro w hw
      obtain hk | hres := settle_cases hw
      · exact .inl hk
      · exact .inr (resolve_of_hereditary Value.hereditary_lambdaless hviews hres)

end Context

end PostalAddress
