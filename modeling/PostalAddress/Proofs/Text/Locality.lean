import PostalAddress.Proofs.Text.Parts

/-!
# Fronts that look no further than their match

A front is local when a text can be cut after its match without changing the match, and when
cutting a text brings no match about. What is exact, white space, and both together are local, and
the leftmost match of a local front is decided by the text up to its end.
-/

namespace PostalAddress.Text.Front

structure Local (f : Front) : Prop where
  keeps : ∀ t u n, f (t ++ u) = some n → n ≤ t.length → f t = some n
  none_of_append : ∀ t u, f (t ++ u) = none → f t = none

theorem exactly_eq_some_iff {x t : List Char} {n : Nat} :
    exactly x t = some n ↔ x <+: t ∧ x.length = n := by
  simp only [exactly, Option.ite_none_right_eq_some, Option.some.injEq, List.isPrefixOf_iff_prefix]

theorem exactly_eq_none_iff {x t : List Char} : exactly x t = none ↔ ¬ x <+: t := by
  simp [exactly]

theorem local_exactly (x : List Char) : (exactly x).Local where
  keeps t u n h hn := by
    rw [exactly_eq_some_iff] at h ⊢
    exact ⟨List.prefix_of_prefix_length_le h.1 (List.prefix_append t u) (h.2 ▸ hn), h.2⟩
  none_of_append t u h := by
    rw [exactly_eq_none_iff] at h ⊢
    exact fun hx => h (hx.trans (List.prefix_append t u))

theorem local_run (p : Char → Bool) : (run p).Local where
  keeps t u n h hn := by
    simp only [run, Option.some.injEq] at h ⊢
    subst h
    induction t with
    | nil =>
      simp only [List.nil_append, List.length_nil, Nat.le_zero] at hn
      simp only [List.nil_append, hn]
      rfl
    | cons c r ih =>
      by_cases hc : p c
      · simp only [List.cons_append, List.takeWhile_cons_of_pos hc, List.length_cons] at hn ⊢
        rw [ih (Nat.le_of_succ_le_succ hn)]
      · simp only [List.cons_append, List.takeWhile_cons_of_neg hc]
  none_of_append t u h := by simp [run] at h

theorem spaced_nil_ne_none (t : List Char) : spaced [] t ≠ none := by
  cases t with
  | nil => simp [spaced, exactly]
  | cons c r =>
    rw [spaced]
    split
    · split <;> simp [exactly]
    · simp [exactly]

theorem local_spaced (x : List Char) : (spaced x).Local := by
  have hnone : ∀ t u, spaced x (t ++ u) = none → spaced x t = none := by
    intro t u h
    induction t with
    | nil =>
      rw [spaced, exactly_eq_none_iff, List.prefix_nil]
      rintro rfl
      exact spaced_nil_ne_none u h
    | cons c r ih =>
      rw [List.cons_append, spaced] at h
      rw [spaced]
      split at h
      · split at h
        · cases h
        · rename_i hb _ hr
          rw [if_pos hb, ih hr]
          exact (local_exactly x).none_of_append (c :: r) u h
      · rename_i hb
        rw [if_neg hb]
        exact (local_exactly x).none_of_append (c :: r) u h
  refine ⟨?_, hnone⟩
  intro t u n h hn
  induction t generalizing n with
  | nil =>
    obtain rfl : n = 0 := Nat.le_zero.mp hn
    obtain ⟨s, v, _, hlen, _⟩ := spaced_split h
    have hx : x = [] := (List.append_eq_nil_iff.mp (List.length_eq_zero_iff.mp hlen)).2
    rw [hx]
    rfl
  | cons c r ih =>
    rw [List.cons_append, spaced] at h
    rw [spaced]
    split at h
    · rename_i hb
      rw [if_pos hb]
      split at h
      · rename_i m hm
        obtain rfl : m + 1 = n := Option.some.inj h
        rw [ih m hm (Nat.le_of_succ_le_succ hn)]
      · rename_i hr
        rw [hnone r u hr]
        exact (local_exactly x).keeps (c :: r) u n h hn
    · rename_i hb
      rw [if_neg hb]
      exact (local_exactly x).keeps (c :: r) u n h hn

theorem Local.andThen_run {f : Front} (hf : f.Local) (p : Char → Bool) :
    (f.andThen (run p)).Local where
  keeps t u n h hn := by
    obtain ⟨m, hm, h⟩ := Option.bind_eq_some_iff.mp h
    obtain ⟨k, hk, rfl⟩ := Option.map_eq_some_iff.mp h
    have hmt : m ≤ t.length := Nat.le_trans (Nat.le_add_right m k) hn
    rw [List.drop_append_of_le_length hmt] at hk
    have hk' : run p (t.drop m) = some k :=
      (local_run p).keeps _ u k hk (by rw [List.length_drop]; omega)
    simp [andThen, hf.keeps t u m hm hmt, hk']
  none_of_append t u h := by
    cases hm : f (t ++ u) with
    | none => simp [andThen, hf.none_of_append t u hm]
    | some m => simp [andThen, hm, run] at h

section Find

variable {f : Front}

theorem find?_eq_some_zero_iff {t : List Char} {n : Nat} :
    f.find? t = some (0, n) ↔ f t = some n := by
  cases t with
  | nil => simp [find?]
  | cons c r =>
    rw [find?]
    split
    · rename_i m hm
      simp [hm]
    · rename_i hm
      simp [hm]

theorem find?_eq_some {t : List Char} {i n : Nat} (h : f.find? t = some (i, n)) :
    i ≤ t.length ∧ f (t.drop i) = some n := by
  induction t generalizing i with
  | nil =>
    obtain ⟨m, hm, hin⟩ := Option.map_eq_some_iff.mp h
    obtain ⟨rfl, rfl⟩ : 0 = i ∧ m = n := by simpa using hin
    exact ⟨Nat.le_refl 0, hm⟩
  | cons c r ih =>
    rw [find?] at h
    split at h
    · rename_i m hm
      obtain ⟨rfl, rfl⟩ : 0 = i ∧ m = n := by simpa using h
      exact ⟨Nat.zero_le _, hm⟩
    · obtain ⟨⟨j, m⟩, hj, hij⟩ := Option.map_eq_some_iff.mp h
      obtain ⟨rfl, rfl⟩ : j + 1 = i ∧ m = n := by simpa using hij
      obtain ⟨hle, hfj⟩ := ih hj
      exact ⟨Nat.succ_le_succ hle, hfj⟩

theorem find?_keeps (hf : f.Local) {t u : List Char} {i n : Nat}
    (h : f.find? (t ++ u) = some (i, n)) (hle : i + n ≤ t.length) : f.find? t = some (i, n) := by
  induction t generalizing i with
  | nil =>
    obtain ⟨rfl, rfl⟩ : i = 0 ∧ n = 0 := by
      simp only [List.length_nil, Nat.le_zero, Nat.add_eq_zero_iff] at hle
      exact hle
    rw [find?_eq_some_zero_iff] at h ⊢
    exact hf.keeps [] u 0 h (Nat.le_refl 0)
  | cons c r ih =>
    rw [List.cons_append, find?] at h
    rw [find?]
    split at h
    · rename_i m hm
      obtain ⟨rfl, rfl⟩ : 0 = i ∧ m = n := by simpa using h
      rw [hf.keeps (c :: r) u m hm (by simpa using hle)]
    · rename_i hm
      obtain ⟨⟨j, m⟩, hj, hij⟩ := Option.map_eq_some_iff.mp h
      obtain ⟨rfl, rfl⟩ : j + 1 = i ∧ m = n := by simpa using hij
      rw [hf.none_of_append (c :: r) u hm, ih hj (by simp only [List.length_cons] at hle; omega)]
      rfl

end Find

end PostalAddress.Text.Front
