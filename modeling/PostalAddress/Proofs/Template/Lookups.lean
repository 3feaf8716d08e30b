import PostalAddress.Proofs.Template.Memory
import PostalAddress.Proofs.Text.Parts

/-!
# Lookups and what ran before them

A stack of views answers a lookup from the views alone: `.` is the view it is made in, and any other
name leads to what the nearest view has under it, where null counts. A computed value is called with
the view the lookup is made in. What the layers remember of earlier lookups never shows in an
answer, whichever layers they were made in and however the stack has grown and shrunk since.
-/

namespace PostalAddress.Context

variable {κ : Type} {compute : Compute κ}

section Searching

/-- The name has a `.` after its first character. -/
def IsPath (name : String) : Prop := '.' ∈ name.toList ∧ name.toList.head? ≠ some '.'

/-- A segment leads to a member of a map or list, or else to a property of a scalar. -/
def Leads (name : String) (v w : Value κ) : Prop :=
  v.property name = some w ∨ v.property name = none ∧ v.primitiveProperty name = some w

inductive Follows : List String → Value κ → Value κ → Prop
  | here (v : Value κ) : Follows [] v v
  | step {name : String} {names : List String} {v u w : Value κ} (h : Leads name v u)
      (rest : Follows names u w) : Follows (name :: names) v w

/-- A view has a path when all its segments can be followed, any other name as a member. -/
def Has (name : String) (v w : Value κ) : Prop :=
  ¬ IsPath name ∧ v.property name = some w ∨
    IsPath name ∧ ∃ names ≠ [], ".".intercalate names = name ∧
      (∀ part ∈ names, '.' ∉ part.toList) ∧ Follows names v w

/-- What a name leads to, with the innermost view first. -/
inductive Finds (name : String) : List (Value κ) → Option (Value κ) → Prop
  | top {v : Value κ} {vs : List (Value κ)} (h : name = ".") : Finds name (v :: vs) (some v)
  | hit {v w : Value κ} {vs : List (Value κ)} (h : name ≠ ".") (has : Has name v w) :
      Finds name (v :: vs) (some w)
  | miss {v : Value κ} {vs : List (Value κ)} {r : Option (Value κ)} (h : name ≠ ".")
      (hasNot : ∀ w, ¬ Has name v w) (rest : Finds name vs r) : Finds name (v :: vs) r
  | nowhere : Finds name [] none

/-- What is found is the answer, unless it is computed from the view on top. -/
inductive Yields (compute : Compute κ) (top : Value κ) :
    Option (Value κ) → Option (Value κ) → Prop
  | computed (k : κ) : Yields compute top (some (.computed k)) (some (compute k top))
  | asFound {found : Option (Value κ)} (h : ∀ k, found ≠ some (.computed k)) :
      Yields compute top found found

theorem walk?_eq_some_iff {names : List String} {v w : Value κ} :
    walk? v names = some w ↔ Follows names v w := by
  induction names generalizing v with
  | nil =>
    constructor
    · intro h
      exact Option.some.inj h ▸ .here v
    · rintro ⟨⟩
      rfl
  | cons name names ih =>
    rw [walk?, Option.bind_eq_some_iff]
    have hstep : ∀ u, step? v name = some u ↔ Leads name v u := by
      intro u
      rw [step?, Option.orElse_eq_orElse, Option.orElse_eq_or, Option.or_eq_some_iff, Leads]
    constructor
    · rintro ⟨u, hu, hrest⟩
      exact .step ((hstep u).mp hu) (ih.mp hrest)
    · rintro ⟨⟩
      rename_i u hu hrest
      exact ⟨u, (hstep u).mpr hu, ih.mpr hrest⟩

theorem segments_of_not_isPath {name : String} (h : ¬ IsPath name) : segments name = [] := by
  unfold segments
  unfold IsPath at h
  split
  · rfl
  · rfl
  · rename_i hdot
    rw [if_neg]
    simp only [List.contains_iff_mem]
    intro hmem
    refine h ⟨hmem, fun hhead => ?_⟩
    cases hname : name.toList with
    | nil => simp [hname] at hmem
    | cons c r =>
      rw [hname] at hhead
      obtain rfl := Option.some.inj hhead
      exact hdot _ hname

theorem segments_of_isPath {name : String} (h : IsPath name) :
    segments name = (Text.splitOn '.' name.toList).map String.ofList := by
  obtain ⟨hmem, hhead⟩ := h
  unfold segments
  split
  · rename_i hname
    simp [hname] at hmem
  · rename_i hname
    rw [hname] at hhead
    exact absurd rfl hhead
  · rw [if_pos (by simpa using hmem)]

/-- The segments of a path are the parts between its dots. -/
theorem eq_segments_iff {name : String} (h : IsPath name) {names : List String} :
    names = segments name ↔
      names ≠ [] ∧ ".".intercalate names = name ∧ ∀ part ∈ names, '.' ∉ part.toList := by
  rw [segments_of_isPath h]
  constructor
  · rintro rfl
    refine ⟨by simpa using Text.splitOn_ne_nil '.' name.toList, ?_, ?_⟩
    · rw [← String.toList_inj, String.toList_intercalate, List.map_map]
      have hid : String.toList ∘ String.ofList = id := funext fun _ => String.toList_ofList
      rw [hid, List.map_id]
      exact Text.intercalate_splitOn '.' name.toList
    · intro part hpart
      obtain ⟨t, ht, rfl⟩ := List.mem_map.mp hpart
      rw [String.toList_ofList]
      exact Text.not_mem_of_mem_splitOn ht
  · rintro ⟨hne, rfl, hparts⟩
    have hsplit : Text.splitOn '.' (['.'].intercalate (names.map String.toList)) =
        names.map String.toList := by
      refine Text.splitOn_intercalate (by simpa using hne) ?_
      intro t ht
      obtain ⟨part, hpart, rfl⟩ := List.mem_map.mp ht
      exact hparts part hpart
    rw [String.toList_intercalate]
    refine Eq.trans ?_ (congrArg (List.map String.ofList) hsplit.symm)
    rw [List.map_map]
    have hid : String.ofList ∘ String.toList = id := funext fun _ => String.ofList_toList
    rw [hid, List.map_id]

theorem resolveIn_eq_some_iff {name : String} {v w : Value κ} :
    resolveIn name v = some w ↔ Has name v w := by
  by_cases hpath : IsPath name
  · have hsegments := (eq_segments_iff hpath).mp rfl
    have hresolve : resolveIn name v = walk? v (segments name) := by
      unfold resolveIn
      split
      · rename_i hnil
        exact absurd hnil hsegments.1
      · rfl
    rw [hresolve, walk?_eq_some_iff, Has]
    simp only [hpath, not_true_eq_false, false_and, true_and, false_or]
    constructor
    · exact fun hfollows => ⟨_, hsegments.1, hsegments.2.1, hsegments.2.2, hfollows⟩
    · rintro ⟨names, hne, hname, hparts, hfollows⟩
      rwa [← (eq_segments_iff hpath).mpr ⟨hne, hname, hparts⟩]
  · rw [resolveIn, segments_of_not_isPath hpath, Has]
    simp [hpath]

theorem finds_iff {name : String} {vs : List (Value κ)} {r : Option (Value κ)} :
    Finds name vs r ↔ r = resolve name vs := by
  constructor
  · intro h
    induction h with
    | top hname => rw [resolve, if_pos hname, List.head?_cons]
    | hit hname hhas =>
      rw [resolve, if_neg hname, List.findSome?_cons, resolveIn_eq_some_iff.mpr hhas]
    | @miss v _ _ hname hhasNot _ ih =>
      have hnone : resolveIn name v = none :=
        Option.eq_none_iff_forall_ne_some.mpr fun w hw => hhasNot w (resolveIn_eq_some_iff.mp hw)
      rw [resolve, if_neg hname] at ih ⊢
      rw [List.findSome?_cons, hnone, ih]
    | nowhere => exact (ite_self _).symm
  · rintro rfl
    by_cases hname : name = "."
    · rw [resolve, if_pos hname]
      cases vs with
      | nil => exact .nowhere
      | cons v vs => exact .top hname
    · rw [resolve, if_neg hname]
      induction vs with
      | nil => exact .nowhere
      | cons v vs ih =>
        rw [List.findSome?_cons]
        cases hresolve : resolveIn name v with
        | some w => exact .hit hname (resolveIn_eq_some_iff.mp hresolve)
        | none =>
          refine .miss hname (fun w hhas => ?_) ih
          rw [resolveIn_eq_some_iff.mpr hhas] at hresolve
          cases hresolve

theorem yields_iff {top : Value κ} {found r : Option (Value κ)} :
    Yields compute top found r ↔ r = settle compute top found := by
  constructor
  · rintro (k | h)
    · rfl
    · unfold settle
      split
      · exact absurd rfl (h _)
      · rfl
  · rintro rfl
    unfold settle
    split
    · exact .computed _
    · rename_i h
      exact .asFound h

end Searching

section Asking

/-- What is done with a stack of views. A lookup is made in the layer that lies so many below the
top, or in the root when there are fewer. -/
inductive Action (κ : Type)
  | push (v : Value κ)
  | pop
  | lookup (below : Nat) (name : String)

/-- What is left of a stack below some of its views; the root stays. -/
def dropViews (n : Nat) (vs : List (Value κ)) : List (Value κ) := vs.drop (min n (vs.length - 1))

theorem dropViews_succ (n : Nat) (v w : Value κ) (vs : List (Value κ)) :
    dropViews (n + 1) (v :: w :: vs) = dropViews n (w :: vs) := by
  simp only [dropViews, List.length_cons, Nat.add_sub_cancel, Nat.succ_min_succ,
    List.drop_succ_cons]

theorem exists_dropViews (n : Nat) (v : Value κ) (vs : List (Value κ)) :
    ∃ top below, dropViews n (v :: vs) = top :: below := by
  refine List.ne_nil_iff_exists_cons.mp (List.ne_nil_of_length_pos ?_)
  rw [dropViews, List.length_drop, List.length_cons]
  omega

/-- The answers to the lookups, with no memory of those before. -/
inductive Answered (compute : Compute κ) :
    List (Action κ) → List (Value κ) → List (Option (Value κ)) → Prop
  | done {vs : List (Value κ)} : Answered compute [] vs []
  | push {v : Value κ} {as : List (Action κ)} {vs : List (Value κ)}
      {rs : List (Option (Value κ))} (rest : Answered compute as (v :: vs) rs) :
      Answered compute (.push v :: as) vs rs
  | pop {as : List (Action κ)} {vs : List (Value κ)} {rs : List (Option (Value κ))}
      (rest : Answered compute as (dropViews 1 vs) rs) : Answered compute (.pop :: as) vs rs
  | lookup {n : Nat} {name : String} {as : List (Action κ)} {vs below : List (Value κ)}
      {top : Value κ} {found r : Option (Value κ)} {rs : List (Option (Value κ))}
      (layer : dropViews n vs = top :: below) (finds : Finds name (top :: below) found)
      (yields : Yields compute top found r) (rest : Answered compute as vs rs) :
      Answered compute (.lookup n name :: as) vs (r :: rs)

/-- The layer that is asked remembers what it was asked; the layers above stay as they are. -/
def lookupBelow (compute : Compute κ) (name : String) :
    Nat → Context κ → Option (Value κ) × Context κ
  | 0, x => x.lookup compute name
  | n + 1, x =>
    match x.below with
    | [] => x.lookup compute name
    | l :: ls =>
      let (r, y) := lookupBelow compute name n ⟨l, ls⟩
      (r, ⟨x.top, y.top :: y.below⟩)

/-- The answers to the lookups that are made in a context. -/
def run (compute : Compute κ) : List (Action κ) → Context κ → List (Option (Value κ))
  | [], _ => []
  | .push v :: as, x => run compute as (x.push v)
  | .pop :: as, x => run compute as x.pop
  | .lookup n name :: as, x =>
    let (r, x) := lookupBelow compute name n x
    r :: run compute as x

variable {x : Context κ}

theorem Faithful.pop_views (h : x.Faithful) :
    x.pop.Faithful ∧ x.pop.views = dropViews 1 x.views := by
  obtain ⟨top, below⟩ := x
  cases below with
  | nil => exact ⟨h, rfl⟩
  | cons l ls => exact ⟨h.2, rfl⟩

theorem Faithful.lookupBelow (h : x.Faithful) (compute : Compute κ) (name : String) (n : Nat) :
    (lookupBelow compute name n x).1 = valueOf compute name (dropViews n x.views) ∧
      (lookupBelow compute name n x).2.Faithful ∧
      (lookupBelow compute name n x).2.views = x.views := by
  induction n generalizing x with
  | zero => simpa [Context.lookupBelow, dropViews] using h.lookup compute name
  | succ n ih =>
    obtain ⟨top, below⟩ := x
    cases below with
    | nil => exact h.lookup compute name
    | cons l ls =>
      obtain ⟨hvalue, hfaithful, hviews⟩ := ih (x := ⟨l, ls⟩) h.2
      refine ⟨?_, ⟨fun name' w hw => ?_, hfaithful⟩, congrArg (top.view :: ·) hviews⟩
      · rw [views, List.map_cons, dropViews_succ]
        exact hvalue
      · rw [h.1 name' w hw]
        exact congrArg (fun vs => resolve name' (top.view :: vs)) hviews.symm

theorem answered_iff_of_faithful (h : x.Faithful) {as : List (Action κ)}
    {rs : List (Option (Value κ))} :
    Answered compute as x.views rs ↔ rs = run compute as x := by
  induction as generalizing x rs with
  | nil =>
    constructor
    · rintro ⟨⟩
      rfl
    · rintro rfl
      exact .done
  | cons a as ih =>
    cases a with
    | push v =>
      rw [run, ← ih (h.push v)]
      constructor
      · rintro ⟨⟩
        assumption
      · exact .push
    | pop =>
      obtain ⟨hfaithful, hviews⟩ := h.pop_views
      rw [run, ← ih hfaithful, hviews]
      constructor
      · rintro ⟨⟩
        assumption
      · exact .pop
    | lookup n name =>
      obtain ⟨hvalue, hfaithful, hviews⟩ := h.lookupBelow compute name n
      have hrun : run compute (.lookup n name :: as) x =
          valueOf compute name (dropViews n x.views) ::
            run compute as (Context.lookupBelow compute name n x).2 :=
        congrArg (· :: _) hvalue
      rw [hrun]
      constructor
      · rintro (_ | _ | _ | ⟨hlayer, hfinds, hyields, hrest⟩)
        rw [← hviews, ih hfaithful] at hrest
        rw [hlayer, valueOf, ← finds_iff.mp hfinds, ← yields_iff.mp hyields, hrest]
      · rintro rfl
        obtain ⟨top, below, hlayer⟩ := exists_dropViews n x.view (x.below.map Layer.view)
        refine .lookup hlayer (finds_iff.mpr rfl) (yields_iff.mpr ?_) ?_
        · exact congrArg (valueOf compute name) hlayer
        · exact hviews ▸ (ih hfaithful).mpr rfl

/-- The answers to lookups are those that the views alone give. -/
theorem answered_iff_run (compute : Compute κ) (as : List (Action κ)) (v : Value κ)
    (rs : List (Option (Value κ))) :
    Answered compute as [v] rs ↔ rs = run compute as (ofView v) :=
  answered_iff_of_faithful (faithful_ofView v)

end Asking

end PostalAddress.Context
