import PostalAddress.Proofs.Text.Locality

/-!
# Fronts in a text that goes on

A text that ends with white space may go on in any way: what was matched or not matched by a front
that holds no white space stays so, since such a front cannot reach over the end. With white space
allowed before it a front may do so, but not before a match that comes later.
-/

namespace PostalAddress.Text

def EndsBlank (t : List Char) : Prop := ∃ c ∈ t.getLast?, isBlank c

/-- No white space stands in the text. -/
def Blankless (x : List Char) : Prop := ∀ c ∈ x, isBlank c = false

instance (x : List Char) : Decidable (Blankless x) :=
  List.decidableBAll (fun c => isBlank c = false) x

theorem EndsBlank.of_suffix {t v : List Char} (h : EndsBlank t) (hsuf : v <:+ t) (hv : v ≠ []) :
    EndsBlank v := by
  obtain ⟨c, hc, hblank⟩ := h
  obtain ⟨s, rfl⟩ := hsuf
  rw [List.getLast?_append, List.getLast?_eq_some_getLast hv, Option.some_or] at hc
  exact ⟨c, (List.getLast?_eq_some_getLast hv).symm ▸ hc, hblank⟩

/-- Of two texts, one of them without white space, none can end the other's beginning. -/
theorem not_prefix_of_endsBlank {t x : List Char} (ht : EndsBlank t) (hx : Blankless x) :
    ¬ t <+: x := by
  rintro ⟨v, rfl⟩
  obtain ⟨c, hc, hblank⟩ := ht
  rw [hx c (List.mem_append_left v (List.mem_of_getLast? hc))] at hblank
  cases hblank

theorem prefix_append_iff {t x : List Char} (ht : EndsBlank t) (hx : Blankless x) (u : List Char) :
    x <+: t ++ u ↔ x <+: t := by
  constructor
  · intro h
    obtain hxt | htx := List.prefix_or_prefix_of_prefix h (List.prefix_append t u)
    · exact hxt
    · exact absurd htx (not_prefix_of_endsBlank ht hx)
  · exact fun h => h.trans (List.prefix_append t u)

theorem blankless_of_mem_words {t w : List Char} (h : w ∈ words t) : Blankless w := by
  have hgo : ∀ {t w : List Char}, w ∈ words.go t → Blankless w := by
    intro t
    induction t with
    | nil =>
      intro w hw
      obtain rfl := List.mem_singleton.mp hw
      exact fun _ hc => nomatch hc
    | cons c r ih =>
      intro w hw
      rw [words.go] at hw
      split at hw
      · obtain rfl | hw := List.mem_cons.mp hw
        · exact fun _ hc => nomatch hc
        · exact ih hw
      · rename_i hc
        cases hgo : words.go r with
        | nil =>
          rw [hgo] at hw
          obtain rfl := List.mem_singleton.mp hw
          exact List.forall_mem_singleton.mpr (Bool.eq_false_iff.mpr hc)
        | cons p ps =>
          rw [hgo] at hw ih
          obtain rfl | hw := List.mem_cons.mp hw
          · exact List.forall_mem_cons.mpr ⟨Bool.eq_false_iff.mpr hc, ih List.mem_cons_self⟩
          · exact ih (List.mem_cons_of_mem p hw)
  exact hgo (List.mem_filter.mp h).1

namespace Front

/-- A front whose matches and failures stay when a text that ends with white space goes on. -/
structure Firm (f : Front) : Prop where
  keeps : ∀ t u n, f t = some n → n < t.length → f (t ++ u) = some n
  none_append : ∀ t u, EndsBlank t → f t = none → f (t ++ u) = none

theorem firm_exactly {x : List Char} (hx : Blankless x) : (exactly x).Firm where
  keeps t u n h _ := by
    rw [exactly_eq_some_iff] at h ⊢
    exact ⟨h.1.trans (List.prefix_append t u), h.2⟩
  none_append t u ht h := by
    rw [exactly_eq_none_iff] at h ⊢
    rwa [prefix_append_iff ht hx]

theorem firm_run (p : Char → Bool) : (run p).Firm where
  keeps t u n h hn := by
    simp only [run, Option.some.injEq] at h ⊢
    subst h
    induction t with
    | nil => cases hn
    | cons c r ih =>
      by_cases hc : p c
      · simp only [List.cons_append, List.takeWhile_cons_of_pos hc, List.length_cons] at hn ⊢
        rw [ih (Nat.lt_of_succ_lt_succ hn)]
      · simp only [List.cons_append, List.takeWhile_cons_of_neg hc]
  none_append t u _ h := by simp [run] at h

theorem Firm.andThen_run {f : Front} (hf : f.Firm) (p : Char → Bool) :
    (f.andThen (run p)).Firm where
  keeps t u n h hn := by
    obtain ⟨m, hm, h⟩ := Option.bind_eq_some_iff.mp h
    obtain ⟨k, hk, rfl⟩ := Option.map_eq_some_iff.mp h
    have hmt : m < t.length := Nat.lt_of_le_of_lt (Nat.le_add_right m k) hn
    have hk' : run p (t.drop m ++ u) = some k :=
      (firm_run p).keeps _ u k hk (by rw [List.length_drop]; omega)
    simp [andThen, hf.keeps t u m hm hmt, List.drop_append_of_le_length (Nat.le_of_lt hmt), hk']
  none_append t u ht h := by
    cases hm : f t with
    | none => simp [andThen, hf.none_append t u ht hm]
    | some m => simp [andThen, hm, run] at h

section Spaced

variable {x : List Char}

/-- A blank begins no match of `x` alone. -/
theorem spaced_cons_of_isBlank (hx : Blankless x) (hne : x ≠ []) {c : Char} (hc : isBlank c)
    (r : List Char) : spaced x (c :: r) = (spaced x r).map (· + 1) := by
  have hnone : exactly x (c :: r) = none := by
    rw [exactly_eq_none_iff]
    rintro ⟨u, hu⟩
    obtain ⟨d, x, rfl⟩ := List.exists_cons_of_ne_nil hne
    obtain ⟨rfl, _⟩ := List.cons_eq_cons.mp hu
    rw [hx d List.mem_cons_self] at hc
    cases hc
  rw [spaced, if_pos hc, hnone]
  cases spaced x r <;> rfl

theorem spaced_eq_some_iff (hx : Blankless x) (hne : x ≠ []) {t : List Char} {n : Nat} :
    spaced x t = some n ↔
      ∃ s u, t = s ++ (x ++ u) ∧ (∀ c ∈ s, isBlank c) ∧ n = s.length + x.length := by
  have hexact : ∀ {t : List Char} {n : Nat}, exactly x t = some n ↔
      ∃ u, t = x ++ u ∧ n = x.length := by
    intro t n
    rw [exactly_eq_some_iff]
    constructor
    · rintro ⟨⟨u, hu⟩, hn⟩
      exact ⟨u, hu.symm, hn.symm⟩
    · rintro ⟨u, hu, hn⟩
      exact ⟨⟨u, hu.symm⟩, hn.symm⟩
  induction t generalizing n with
  | nil => simp [spaced, exactly, hne]
  | cons c r ih =>
    cases hb : isBlank c with
    | true =>
      rw [spaced_cons_of_isBlank hx hne hb, Option.map_eq_some_iff]
      constructor
      · rintro ⟨m, hm, rfl⟩
        obtain ⟨s, u, rfl, hs, rfl⟩ := ih.mp hm
        exact ⟨c :: s, u, rfl, List.forall_mem_cons.mpr ⟨hb, hs⟩, by simp; omega⟩
      · rintro ⟨s, u, hsplit, hs, rfl⟩
        cases s with
        | nil =>
          obtain ⟨d, y, rfl⟩ := List.exists_cons_of_ne_nil hne
          obtain ⟨rfl, _⟩ := List.cons_eq_cons.mp hsplit
          rw [hx c List.mem_cons_self] at hb
          cases hb
        | cons d s =>
          obtain ⟨rfl, rfl⟩ := List.cons_eq_cons.mp hsplit
          refine ⟨s.length + x.length, ih.mpr ⟨s, u, rfl, ?_, rfl⟩, by simp; omega⟩
          exact (List.forall_mem_cons.mp hs).2
    | false =>
      rw [spaced, if_neg (by simp [hb]), hexact]
      constructor
      · rintro ⟨u, hu, rfl⟩
        exact ⟨[], u, hu, by simp, by simp⟩
      · rintro ⟨s, u, hsplit, hs, rfl⟩
        cases s with
        | nil => exact ⟨u, hsplit, by simp⟩
        | cons d s =>
          obtain ⟨rfl, _⟩ := List.cons_eq_cons.mp hsplit
          rw [(List.forall_mem_cons.mp hs).1] at hb
          cases hb

theorem spaced_append (hx : Blankless x) (hne : x ≠ []) {t : List Char} {n : Nat}
    (h : spaced x t = some n) (u : List Char) : spaced x (t ++ u) = some n := by
  rw [spaced_eq_some_iff hx hne] at h ⊢
  obtain ⟨s, v, rfl, hs, hn⟩ := h
  exact ⟨s, v ++ u, by simp, hs, hn⟩

/-- Where a character that is not blank is left, going on brings no match about. -/
theorem spaced_append_eq_none (hx : Blankless x) (hne : x ≠ []) {t : List Char} (ht : EndsBlank t)
    {c : Char} (hc : c ∈ t) (hblank : isBlank c = false) (h : spaced x t = none) (u : List Char) :
    spaced x (t ++ u) = none := by
  rw [Option.eq_none_iff_forall_ne_some] at h ⊢
  intro n hn
  obtain ⟨s, v, hsplit, hs, rfl⟩ := (spaced_eq_some_iff hx hne).mp hn
  obtain ⟨w, rfl, hw⟩ | ⟨w, rfl, hw⟩ := List.append_eq_append_iff.mp hsplit
  · -- The text would be blank to its end.
    rw [hs c (List.mem_append_left w hc)] at hblank
    cases hblank
  · have hxw : x <+: w ++ u := ⟨v, hw⟩
    have hend : w ≠ [] := by
      rintro rfl
      rw [List.append_nil] at hc
      rw [hs c hc] at hblank
      cases hblank
    obtain ⟨v', hv'⟩ := (prefix_append_iff (ht.of_suffix (List.suffix_append s w) hend) hx u).mp hxw
    exact h _ ((spaced_eq_some_iff hx hne).mpr ⟨s, v', by rw [hv'], hs, rfl⟩)

theorem find?_spaced_append (hx : Blankless x) (hne : x ≠ []) {t : List Char} (ht : EndsBlank t)
    {i n : Nat} (h : (spaced x).find? t = some (i, n)) (u : List Char) :
    (spaced x).find? (t ++ u) = some (i, n) := by
  induction t generalizing i n with
  | nil =>
    obtain ⟨c, hc, _⟩ := ht
    cases hc
  | cons c r ih =>
    rw [find?] at h
    rw [List.cons_append, find?]
    split at h
    · rename_i m hm
      have hmatch := spaced_append hx hne hm u
      rw [List.cons_append] at hmatch
      rw [hmatch]
      exact h
    · rename_i hnone
      obtain ⟨⟨j, m⟩, hj, hij⟩ := Option.map_eq_some_iff.mp h
      obtain ⟨_, hfj⟩ := find?_eq_some hj
      obtain ⟨s, v, hsplit, _, _⟩ := (spaced_eq_some_iff hx hne).mp hfj
      obtain ⟨d, y, rfl⟩ := List.exists_cons_of_ne_nil hne
      have hd : d ∈ r := by
        refine (List.drop_suffix j r).subset ?_
        rw [hsplit]
        simp
      have hlater := spaced_append_eq_none hx hne ht (List.mem_cons_of_mem c hd)
        (hx d List.mem_cons_self) hnone u
      have hr : EndsBlank r := ht.of_suffix (List.suffix_cons c r) (List.ne_nil_of_mem hd)
      rw [List.cons_append] at hlater
      rw [hlater, ih hr hj]
      exact congrArg some hij

end Spaced

end Front

end PostalAddress.Text
