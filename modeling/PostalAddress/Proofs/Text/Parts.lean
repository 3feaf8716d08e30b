import PostalAddress.Text.Front

/-!
# Parts of a text put together again

Cutting a text at a character or at every match of `Front.exactly`, and putting the separator back
between the parts, gives the text again. A front that matches nowhere cuts nothing and replaces
nothing; `Front.Needs` names a character without which it cannot match.
-/

namespace PostalAddress.Text

variable {α : Type}

/-- What is said of the characters of a text is decided for these and not for all characters. -/
instance (priority := high) decidableForallMem (p : Char → Prop) [DecidablePred p] (t : List Char) :
    Decidable (∀ c ∈ t, p c) := List.decidableBAll p t

theorem take_length_takeWhile (p : α → Bool) (t : List α) :
    t.take (t.takeWhile p).length = t.takeWhile p :=
  (List.prefix_iff_eq_take.mp (List.takeWhile_prefix p)).symm

theorem drop_length_takeWhile (p : α → Bool) (t : List α) :
    t.drop (t.takeWhile p).length = t.dropWhile p :=
  calc t.drop (t.takeWhile p).length
      = (t.takeWhile p ++ t.dropWhile p).drop (t.takeWhile p).length := by
        rw [List.takeWhile_append_dropWhile]
    _ = t.dropWhile p := List.drop_left

theorem intercalate_cons (sep p : List α) {ps : List (List α)} (h : ps ≠ []) :
    sep.intercalate (p :: ps) = p ++ (sep ++ sep.intercalate ps) := by
  rw [List.intercalate_cons_of_ne_nil h, List.append_assoc]

/-- A part more makes a joined text longer. -/
theorem length_intercalate_lt {sep p : List α} (hp : p ≠ []) (ps qs : List (List α)) :
    (sep.intercalate (ps ++ qs)).length < (sep.intercalate (ps ++ p :: qs)).length := by
  have hpos : 0 < p.length := List.length_pos_iff.mpr hp
  induction ps with
  | nil =>
    cases qs with
    | nil => simpa [List.intercalate] using hpos
    | cons q qs =>
      rw [List.nil_append, List.nil_append, intercalate_cons sep p (List.cons_ne_nil q qs)]
      simp only [List.length_append]
      omega
  | cons r ps ih =>
    have hlong : (sep.intercalate (r :: (ps ++ p :: qs))).length =
        r.length + sep.length + (sep.intercalate (ps ++ p :: qs)).length := by
      rw [intercalate_cons sep r (by simp), List.length_append, List.length_append]
      omega
    have hshort : (sep.intercalate (r :: (ps ++ qs))).length ≤
        r.length + sep.length + (sep.intercalate (ps ++ qs)).length := by
      by_cases hrest : ps ++ qs = []
      · simp [hrest, List.intercalate]
      · rw [intercalate_cons sep r hrest, List.length_append, List.length_append]
        omega
    rw [List.cons_append, List.cons_append, hlong]
    omega
@[simp] theorem consHead_ne_nil (a : α) (ps : List (List α)) : consHead a ps ≠ [] := by
  cases ps <;> simp [consHead]

theorem intercalate_consHead (sep : List α) (a : α) {ps : List (List α)} (h : ps ≠ []) :
    sep.intercalate (consHead a ps) = a :: sep.intercalate ps := by
  obtain ⟨p, ps, rfl⟩ := List.exists_cons_of_ne_nil h
  cases ps with
  | nil => simp [consHead, List.intercalate]
  | cons q qs => simp [consHead, List.intercalate]

theorem splitOn_ne_nil (sep : Char) (t : List Char) : splitOn sep t ≠ [] := by
  cases t with
  | nil => simp [splitOn]
  | cons c r => rw [splitOn]; split <;> simp

theorem intercalate_splitOn (sep : Char) (t : List Char) :
    [sep].intercalate (splitOn sep t) = t := by
  induction t with
  | nil => simp [splitOn, List.intercalate]
  | cons c r ih =>
    rw [splitOn]
    split
    · rename_i h
      rw [intercalate_cons _ _ (splitOn_ne_nil sep r), ih, h]
      rfl
    · rw [intercalate_consHead _ _ (splitOn_ne_nil sep r), ih]

theorem intercalate_concat (sep p : List α) {ps : List (List α)} (h : ps ≠ []) :
    sep.intercalate (ps ++ [p]) = sep.intercalate ps ++ (sep ++ p) := by
  induction ps with
  | nil => exact absurd rfl h
  | cons q ps ih =>
    by_cases hps : ps = []
    · subst hps
      simp [List.intercalate]
    · rw [List.cons_append, intercalate_cons sep q (by simp), ih hps, intercalate_cons sep q hps]
      simp only [List.append_assoc]

theorem intercalate_concat_append (sep p q : List α) (ps : List (List α)) :
    sep.intercalate (ps ++ [p ++ q]) = sep.intercalate (ps ++ [p]) ++ q := by
  by_cases h : ps = []
  · subst h
    simp [List.intercalate]
  · rw [intercalate_concat _ _ h, intercalate_concat _ _ h]
    simp only [List.append_assoc]

theorem head?_intercalate_cons (sep : List α) {p : List α} (hp : p ≠ []) (ps : List (List α)) :
    (sep.intercalate (p :: ps)).head? = p.head? := by
  obtain ⟨a, p, rfl⟩ := List.exists_cons_of_ne_nil hp
  by_cases hps : ps = []
  · subst hps
    simp [List.intercalate]
  · rw [intercalate_cons sep _ hps]
    rfl

theorem getLast?_intercalate_concat (sep : List α) {p : List α} (hp : p ≠ [])
    (ps : List (List α)) : (sep.intercalate (ps ++ [p])).getLast? = p.getLast? := by
  by_cases hps : ps = []
  · subst hps
    simp [List.intercalate]
  · rw [intercalate_concat sep p hps, ← List.append_assoc, List.getLast?_append,
      List.getLast?_eq_some_getLast hp, Option.some_or]

theorem mem_intercalate {sep : List α} {ps : List (List α)} {a : α}
    (h : a ∈ sep.intercalate ps) : a ∈ sep ∨ ∃ p ∈ ps, a ∈ p := by
  induction ps with
  | nil => simp [List.intercalate] at h
  | cons p ps ih =>
    by_cases hnil : ps = []
    · subst hnil
      exact .inr ⟨p, List.mem_cons_self, by simpa [List.intercalate] using h⟩
    · rw [intercalate_cons sep p hnil] at h
      obtain h | h := List.mem_append.mp h
      · exact .inr ⟨p, List.mem_cons_self, h⟩
      · obtain h | h := List.mem_append.mp h
        · exact .inl h
        · obtain h | ⟨q, hq, ha⟩ := ih h
          · exact .inl h
          · exact .inr ⟨q, List.mem_cons_of_mem p hq, ha⟩

theorem mem_intercalate_of_mem (sep : List α) {p : List α} {ps : List (List α)} {a : α}
    (hp : p ∈ ps) (ha : a ∈ p) : a ∈ sep.intercalate ps := by
  induction ps with
  | nil => cases hp
  | cons q ps ih =>
    by_cases hnil : ps = []
    · subst hnil
      obtain rfl := List.mem_singleton.mp hp
      simpa [List.intercalate] using ha
    · rw [intercalate_cons sep q hnil]
      obtain rfl | hp := List.mem_cons.mp hp
      · exact List.mem_append_left _ ha
      · exact List.mem_append_right _ (List.mem_append_right _ (ih hp))

theorem splitOn_of_not_mem {sep : Char} {t : List Char} (h : sep ∉ t) : splitOn sep t = [t] := by
  induction t with
  | nil => rfl
  | cons c r ih =>
    have hc : ¬ c = sep := fun hc => h (hc ▸ List.mem_cons_self)
    rw [splitOn, if_neg hc, ih fun hr => h (List.mem_cons_of_mem c hr)]
    rfl

theorem consHead_append (a : α) {ps : List (List α)} (h : ps ≠ []) (qs : List (List α)) :
    consHead a (ps ++ qs) = consHead a ps ++ qs := by
  obtain ⟨p, ps, rfl⟩ := List.exists_cons_of_ne_nil h
  rfl

theorem splitOn_append_cons (sep : Char) (s t : List Char) :
    splitOn sep (s ++ sep :: t) = splitOn sep s ++ splitOn sep t := by
  induction s with
  | nil => simp [splitOn]
  | cons c s ih =>
    rw [List.cons_append, splitOn, splitOn, ih]
    split
    · rfl
    · exact consHead_append c (splitOn_ne_nil sep s) _

theorem splitOn_intercalate {sep : Char} {ps : List (List Char)} (hne : ps ≠ [])
    (h : ∀ p ∈ ps, sep ∉ p) : splitOn sep ([sep].intercalate ps) = ps := by
  induction ps with
  | nil => exact absurd rfl hne
  | cons p ps ih =>
    obtain ⟨hp, hps⟩ := List.forall_mem_cons.mp h
    by_cases hnil : ps = []
    · subst hnil
      simpa [List.intercalate] using splitOn_of_not_mem hp
    · rw [intercalate_cons _ _ hnil, List.singleton_append, splitOn_append_cons,
        splitOn_of_not_mem hp, ih hnil hps]
      rfl

theorem not_mem_of_mem_splitOn {sep : Char} {t p : List Char} (h : p ∈ splitOn sep t) :
    sep ∉ p := by
  induction t generalizing p with
  | nil =>
    obtain rfl := List.mem_singleton.mp h
    exact List.not_mem_nil
  | cons c r ih =>
    rw [splitOn] at h
    split at h
    · obtain rfl | h := List.mem_cons.mp h
      · exact List.not_mem_nil
      · exact ih h
    · rename_i hc
      obtain ⟨q, qs, hqs⟩ := List.exists_cons_of_ne_nil (splitOn_ne_nil sep r)
      rw [hqs] at h ih
      obtain rfl | h := List.mem_cons.mp h
      · rintro hmem
        obtain rfl | hmem := List.mem_cons.mp hmem
        · exact hc rfl
        · exact ih List.mem_cons_self hmem
      · exact ih (List.mem_cons_of_mem q h)

namespace Front

theorem split_go_ne_nil (f : Front) (k : Nat) (t : List Char) : split.go f k t ≠ [] := by
  fun_induction split.go f k t with
  | case1 => simp
  | case2 _ _ _ ih => exact ih
  | case3 => simp
  | case4 => simp

/-- What stands before the first `k` characters' end belongs to no part. -/
theorem intercalate_split_go {x : List Char} (k : Nat) (t : List Char) :
    x.intercalate (split.go (exactly x) k t) = t.drop k := by
  fun_induction split.go (exactly x) k t with
  | case1 k => simp [List.intercalate]
  | case2 k c r ih => simpa using ih
  | case3 c r n hx ih =>
    rw [intercalate_cons _ _ (split_go_ne_nil _ _ _), ih]
    simp only [exactly, Option.ite_none_right_eq_some, Option.some.injEq,
      List.isPrefixOf_iff_prefix] at hx
    obtain ⟨⟨u, hu⟩, hn⟩ := hx
    have hd : r.drop n = u := by
      rw [← List.drop_succ_cons (a := c), ← hu, ← Nat.succ_eq_add_one, ← hn, List.drop_left]
    rw [hd]
    exact hu
  | case4 c r _ ih =>
    rw [intercalate_consHead _ _ (split_go_ne_nil _ _ _), ih]
    rfl

theorem intercalate_split_exactly (x t : List Char) :
    x.intercalate ((exactly x).split t) = t :=
  intercalate_split_go 0 t

theorem split_go (f : Front) (k : Nat) (t : List Char) : split.go f k t = f.split (t.drop k) := by
  induction t generalizing k with
  | nil => cases k <;> rfl
  | cons c r ih =>
    cases k with
    | zero => rfl
    | succ k => rw [split.go, ih, List.drop_succ_cons]

theorem split_cons_of_none {f : Front} {c : Char} {r : List Char} (h : f (c :: r) = none) :
    f.split (c :: r) = consHead c (f.split r) := by
  rw [split, split.go, h, split_go, List.drop_zero]

theorem split_cons_of_some {f : Front} {c : Char} {r : List Char} {n : Nat}
    (h : f (c :: r) = some (n + 1)) : f.split (c :: r) = [] :: f.split (r.drop n) := by
  rw [split, split.go, h, ← split_go]

theorem split_ne_nil (f : Front) (t : List Char) : f.split t ≠ [] := split_go_ne_nil f 0 t

/-- A front that matches nowhere in a text finds one part. -/
theorem split_eq_singleton {f : Front} {t : List Char} (h : ∀ s, s <:+ t → f s = none) :
    f.split t = [t] := by
  have hgo : ∀ s, s <:+ t → split.go f 0 s = [s] := by
    intro s
    induction s with
    | nil => intro _; rfl
    | cons c r ih =>
      intro hs
      rw [split.go, h _ hs, ih ((List.suffix_cons c r).trans hs)]
      rfl
  exact hgo t (List.suffix_refl t)

theorem replaceAll_eq_self {f : Front} {new t : List Char}
    (h : ∀ s, s <:+ t → f s = none) : f.replaceAll new t = t := by
  have hgo : ∀ s, s <:+ t → replaceAll.go f new 0 s = s := by
    intro s
    induction s with
    | nil => intro _; rfl
    | cons c r ih =>
      intro hs
      rw [replaceAll.go, h _ hs, ih ((List.suffix_cons c r).trans hs)]
  exact hgo t (List.suffix_refl t)

theorem replaceAll_go (f : Front) (new : List Char) (k : Nat) (t : List Char) :
    replaceAll.go f new k t = f.replaceAll new (t.drop k) := by
  induction t generalizing k with
  | nil => cases k <;> rfl
  | cons c r ih =>
    cases k with
    | zero => rfl
    | succ k => rw [replaceAll.go, ih, List.drop_succ_cons]

/-- Nothing is replaced, or the first match is and then those after it. -/
theorem replaceAll_eq_self_or (f : Front) (new t : List Char) :
    f.replaceAll new t = t ∨ ∃ s c r n, t = s ++ c :: r ∧ f (c :: r) = some (n + 1) ∧
      f.replaceAll new t = s ++ (new ++ f.replaceAll new (r.drop n)) := by
  induction t with
  | nil => exact .inl rfl
  | cons c r ih =>
    rw [replaceAll, replaceAll.go]
    split
    · rename_i n hn
      exact .inr ⟨[], c, r, n, rfl, hn, by rw [replaceAll_go, List.nil_append]⟩
    · rw [replaceAll_go, List.drop_zero]
      obtain ih | ⟨s, c', r', n, rfl, hn, ih⟩ := ih
      · exact .inl (by rw [ih])
      · exact .inr ⟨c :: s, c', r', n, rfl, hn, by rw [ih, List.cons_append]⟩

theorem spaced_split {x t : List Char} {n : Nat} (h : spaced x t = some n) :
    ∃ s u, t = s ++ x ++ u ∧ (s ++ x).length = n ∧ ∀ c ∈ s, isBlank c := by
  induction t generalizing n with
  | nil =>
    simp only [spaced, exactly, Option.ite_none_right_eq_some, Option.some.injEq,
      List.isPrefixOf_iff_prefix, List.prefix_nil] at h
    obtain ⟨rfl, rfl⟩ := h
    exact ⟨[], [], rfl, rfl, by simp⟩
  | cons c r ih =>
    have hexact : exactly x (c :: r) = some n → ∃ s u, c :: r = s ++ x ++ u ∧
        (s ++ x).length = n ∧ ∀ c ∈ s, isBlank c := by
      intro h
      simp only [exactly, Option.ite_none_right_eq_some, Option.some.injEq,
        List.isPrefixOf_iff_prefix] at h
      obtain ⟨⟨u, hu⟩, rfl⟩ := h
      exact ⟨[], u, hu.symm, rfl, by simp⟩
    rw [spaced] at h
    split at h
    · rename_i hc
      split at h
      · rename_i m hm
        obtain ⟨s, u, rfl, rfl, hs⟩ := ih hm
        obtain rfl : (s ++ x).length + 1 = n := Option.some.inj h
        exact ⟨c :: s, u, rfl, rfl, List.forall_mem_cons.mpr ⟨hc, hs⟩⟩
      · exact hexact h
    · exact hexact h

/-- A front that matches only where a given character follows. -/
def Needs (c : Char) (f : Front) : Prop := ∀ t n, f t = some n → c ∈ t

theorem Needs.eq_none {c : Char} {f : Front} {t : List Char} (hf : f.Needs c) (hc : c ∉ t)
    (s : List Char) (hs : s <:+ t) : f s = none := by
  cases h : f s with
  | none => rfl
  | some n => exact absurd (hs.subset (hf s n h)) hc

theorem needs_exactly {c : Char} {x : List Char} (h : c ∈ x) : (exactly x).Needs c := by
  intro t n hn
  simp only [exactly, Option.ite_none_right_eq_some, List.isPrefixOf_iff_prefix] at hn
  exact hn.1.subset h

end Front

end PostalAddress.Text
