import Mathlib.Data.List.TakeWhile
import Mathlib.Order.Basic
import PostalAddress.Proofs.Cleanup.Matches

/-!
# What cleaning takes away

The weight of a text is its length, with every comma counted twice. `Lightens f` says that `f`
gives back a text as it is or a lighter one. The edits, the removal of repeated parts and so
`cleanOnce` are of this kind: a pair of commas becomes a comma and a space, every other edit makes
the text shorter.
-/

namespace PostalAddress.Cleanup

open Text

def weight (t : List Char) : Nat := t.length + t.count ','

@[simp] theorem weight_nil : weight [] = 0 := rfl

theorem weight_cons (c : Char) (t : List Char) :
    weight (c :: t) = (if c = ',' then 2 else 1) + weight t := by
  simp only [weight, List.length_cons, List.count_cons, beq_iff_eq]
  split <;> omega

@[simp] theorem weight_append (s t : List Char) : weight (s ++ t) = weight s + weight t := by
  simp only [weight, List.length_append, List.count_append]
  omega

theorem length_le_weight (t : List Char) : t.length ≤ weight t := Nat.le_add_right _ _

def Lightens (f : List Char → List Char) : Prop := ∀ t, f t = t ∨ weight (f t) < weight t

theorem Lightens.weight_le {f : List Char → List Char} (hf : Lightens f) (t : List Char) :
    weight (f t) ≤ weight t := by
  rcases hf t with h | h
  · rw [h]
  · exact h.le

theorem lightens_id : Lightens id := fun _ => .inl rfl

theorem Lightens.comp {f g : List Char → List Char} (hg : Lightens g) (hf : Lightens f) :
    Lightens fun t => g (f t) := by
  intro t
  rcases hf t with h | h
  · simpa only [h] using hg t
  · exact .inr ((hg.weight_le (f t)).trans_lt h)

theorem lightens_foldl {β : Type} (op : List Char → β → List Char) (bs : List β)
    (h : ∀ b ∈ bs, Lightens fun t => op t b) : Lightens fun t => bs.foldl op t := by
  induction bs with
  | nil => exact lightens_id
  | cons b bs ih =>
    have hb : Lightens fun t => op t b := h b List.mem_cons_self
    have hbs : Lightens fun t => bs.foldl op t := ih fun b' hb' => h b' (List.mem_cons_of_mem b hb')
    exact hbs.comp hb

section Sublists

theorem eq_or_weight_lt_of_sublist {s t : List Char} (h : s.Sublist t) :
    s = t ∨ weight s < weight t := by
  by_cases hl : s.length = t.length
  · exact .inl (h.eq_of_length hl)
  · right
    have hlen : s.length ≤ t.length := h.length_le
    have hcount : s.count ',' ≤ t.count ',' := h.count_le ','
    unfold weight
    omega

theorem lightens_dropWhile (p : Char → Bool) : Lightens (List.dropWhile p) :=
  fun _ => eq_or_weight_lt_of_sublist (List.dropWhile_sublist p)

theorem lightens_dropTrailing (p : Char → Bool) : Lightens (dropTrailing p) := by
  intro t
  apply eq_or_weight_lt_of_sublist
  have h : (t.reverse.dropWhile p).Sublist t.reverse := List.dropWhile_sublist p
  simpa [dropTrailing] using h.reverse

theorem lightens_trim : Lightens trim :=
  (lightens_dropTrailing isBlank).comp (lightens_dropWhile isBlank)

theorem lightens_dropHyphen : Lightens dropHyphen := by
  intro t
  apply eq_or_weight_lt_of_sublist
  unfold dropHyphen
  split
  · exact ((List.Sublist.refl _).cons _).cons _
  · exact List.Sublist.refl _

end Sublists

section Replacing

/-- A replacement that is lighter than every text it stands for. -/
def LighterThan (new : List Char) (f : Front) : Prop :=
  ∀ t n, f t = some n → 0 < n → weight new < weight (t.take n)

theorem LighterThan.weight_append_lt {new t rest : List Char} {f : Front} {n : Nat}
    (h : LighterThan new f) (hn : f t = some (n + 1)) (hrest : weight rest ≤ weight (t.drop (n + 1))) :
    weight (new ++ rest) < weight t := by
  have hnew : weight new < weight (t.take (n + 1)) := h t (n + 1) hn n.succ_pos
  calc weight (new ++ rest)
      = weight new + weight rest := weight_append _ _
    _ < weight (t.take (n + 1)) + weight (t.drop (n + 1)) := Nat.add_lt_add_of_lt_of_le hnew hrest
    _ = weight t := by rw [← weight_append, List.take_append_drop]

theorem lightens_replaceAll {new : List Char} {f : Front} (h : LighterThan new f) :
    Lightens (f.replaceAll new) := by
  have hgo : ∀ k t, Front.replaceAll.go f new k t = t.drop k ∨
      weight (Front.replaceAll.go f new k t) < weight (t.drop k) := by
    intro k t
    fun_induction Front.replaceAll.go f new k t with
    | case1 => simp
    | case2 k c r ih => simpa using ih
    | case3 c r n hn ih =>
      have hrest : weight (Front.replaceAll.go f new n r) ≤ weight (r.drop n) := by
        rcases ih with ih | ih
        · rw [ih]
        · exact ih.le
      exact .inr (h.weight_append_lt hn hrest)
    | case4 c r _ ih =>
      rcases ih with ih | ih
      · exact .inl (by rw [ih]; rfl)
      · right
        rw [List.drop_zero] at ih ⊢
        rw [weight_cons, weight_cons]
        omega
  exact hgo 0

theorem lighterThan_exactly {new x : List Char} (h : weight new < weight x) :
    LighterThan new (Front.exactly x) := by
  intro t n hn _
  rwa [take_exactly hn]

/-- One character in the place of at least two that pass. -/
theorem lighterThan_atLeast {c : Char} {p : Char → Bool} (hp : ∀ d, p d → (d = ',' ↔ c = ',')) :
    LighterThan [c] (atLeast 2 p) := by
  intro t n hn _
  obtain ⟨hle, hall⟩ := take_atLeast hn
  rw [weight_cons, weight_nil]
  by_cases h : c = ','
  · have hcount : (t.take n).count ',' = (t.take n).length :=
      List.count_eq_length.mpr fun d hd => ((hp d (hall d hd)).mpr h).symm
    rw [if_pos h, weight, hcount]
    omega
  · rw [if_neg h]
    exact Nat.lt_of_lt_of_le (by omega) (length_le_weight _)

theorem lighterThan_gaps : LighterThan [' '] (atLeast 2 isGap) := by
  refine lighterThan_atLeast fun d hd => ?_
  simp only [isGap, Bool.or_eq_true, decide_eq_true_eq] at hd
  rcases hd with rfl | rfl <;> decide

theorem lighterThan_commas : LighterThan [','] (atLeast 2 (· = ',')) :=
  lighterThan_atLeast (by simp)

theorem lighterThan_newlines : LighterThan ['\n'] (atLeast 2 (· = '\n')) :=
  lighterThan_atLeast fun d hd => by rw [of_decide_eq_true hd]

theorem lighterThan_commaPair : LighterThan [',', ' '] commaPair := by
  intro t n hn _
  obtain ⟨s, hs, _⟩ := take_commaPair hn
  rw [hs]
  simp [weight_cons]
  omega

theorem lighterThan_gapCommaGap : LighterThan [',', ' '] gapCommaGap := by
  intro t n hn _
  obtain ⟨a, b, hab, ha, hb, _⟩ := take_gapCommaGap hn
  have hla : 0 < a.length := List.length_pos_iff.mpr ha
  have hlb : 0 < b.length := List.length_pos_iff.mpr hb
  have hwa := length_le_weight a
  have hwb := length_le_weight b
  have hnew : weight [',', ' '] = 3 := by decide
  rw [hab, hnew, weight_append, weight_cons, if_pos rfl]
  omega

theorem lighterThan_gapNewline : LighterThan ['\n'] gapNewline := by
  intro t n hn _
  obtain ⟨c, hc, _⟩ := take_gapNewline hn
  have hlen : 2 ≤ weight [c, '\n'] := length_le_weight [c, '\n']
  rw [hc]
  exact hlen

theorem lighterThan_newlineGaps : LighterThan ['\n'] newlineGaps := by
  intro t n hn _
  obtain ⟨a, ha, hne, _⟩ := take_newlineGaps hn
  have hlen : 0 < a.length := List.length_pos_iff.mpr hne
  have hle := length_le_weight a
  rw [ha, weight_cons, weight_cons, if_neg (by decide), weight_nil]
  omega

theorem lightens_of_mem_edits {edit : List Char → List Char} (h : edit ∈ edits) :
    Lightens edit := by
  simp only [edits, List.mem_cons, List.not_mem_nil, or_false] at h
  rcases h with rfl | rfl | rfl | rfl | rfl | rfl | rfl | rfl | rfl | rfl | rfl | rfl
  · exact lightens_dropTrailing isTrailing
  · exact lightens_dropWhile isLeading
  · exact lightens_dropHyphen
  · exact lightens_replaceAll lighterThan_commaPair
  · exact lightens_replaceAll lighterThan_gapCommaGap
  · exact lightens_replaceAll lighterThan_gaps
  · exact lightens_replaceAll lighterThan_gapNewline
  · exact lightens_replaceAll (lighterThan_exactly (by decide))
  · exact lightens_replaceAll lighterThan_commas
  · exact lightens_replaceAll (lighterThan_exactly (by decide))
  · exact lightens_replaceAll lighterThan_newlineGaps
  · exact lightens_replaceAll lighterThan_newlines

end Replacing

section Repetitions

/-- The weight of parts with a separator of weight `w` after each. -/
def load (w : Nat) : List (List Char) → Nat
  | [] => 0
  | p :: ps => weight p + w + load w ps

@[simp] theorem load_nil (w : Nat) : load w [] = 0 := rfl

@[simp] theorem load_cons (w : Nat) (p : List Char) (ps : List (List Char)) :
    load w (p :: ps) = weight p + w + load w ps := rfl

theorem weight_intercalate (sep : List Char) {ps : List (List Char)} (h : ps ≠ []) :
    weight (sep.intercalate ps) + weight sep = load (weight sep) ps := by
  induction ps with
  | nil => exact absurd rfl h
  | cons p ps ih =>
    by_cases hps : ps = []
    · subst hps
      simp [List.intercalate]
    · rw [intercalate_cons sep p hps, weight_append, weight_append, load_cons, ← ih hps]
      omega

theorem cons_eq_or_load_lt {w : Nat} {p q : List Char} {ps qs : List (List Char)}
    (hq : q = p ∨ weight q < weight p) (hqs : qs = ps ∨ load w qs < load w ps) :
    q :: qs = p :: ps ∨ load w (q :: qs) < load w (p :: ps) := by
  rw [load_cons, load_cons]
  rcases hq with rfl | hq
  · rcases hqs with rfl | hqs
    · exact .inl rfl
    · exact .inr (by omega)
  · rcases hqs with rfl | hqs
    · exact .inr (by omega)
    · exact .inr (by omega)

theorem distinct_eq_or_load_lt {f : List Char → List Char} (hf : Lightens f) {w : Nat} (hw : 0 < w)
    (seen ps : List (List Char)) :
    distinct f seen ps = ps ∨ load w (distinct f seen ps) < load w ps := by
  fun_induction distinct f seen ps with
  | case1 => exact .inl rfl
  | case2 seen p ps q _ ih => exact cons_eq_or_load_lt (lightens_trim p) ih
  | case3 seen p ps q _ _ ih =>
    right
    rw [load_cons]
    rcases ih with ih | ih
    · rw [ih]
      omega
    · omega
  | case4 seen p ps q _ _ ih => exact cons_eq_or_load_lt (hf.comp lightens_trim p) ih

theorem distinct_ne_nil (f : List Char → List Char) {ps : List (List Char)} (h : ps ≠ []) :
    distinct f [] ps ≠ [] := by
  obtain ⟨p, ps, rfl⟩ := List.exists_cons_of_ne_nil h
  simp only [distinct, List.contains_nil, Bool.false_eq_true, if_false]
  split <;> simp

/-- Cutting a text up, keeping distinct parts and joining them lightens it. -/
theorem lightens_distinct {f : List Char → List Char} (hf : Lightens f) {sep : List Char}
    (hsep : 0 < weight sep) {cut : List Char → List (List Char)} (hcut : ∀ t, cut t ≠ [])
    (hjoin : ∀ t, sep.intercalate (cut t) = t) :
    Lightens fun t => sep.intercalate (distinct f [] (cut t)) := by
  intro t
  dsimp only
  rcases distinct_eq_or_load_lt hf hsep [] (cut t) with h | h
  · exact .inl (by rw [h, hjoin])
  · right
    rw [← weight_intercalate sep (distinct_ne_nil f (hcut t)),
      ← weight_intercalate sep (hcut t), hjoin] at h
    omega

theorem lightens_dedupeLine : Lightens dedupeLine :=
  lightens_distinct lightens_id (by decide) (Front.split_ne_nil _)
    (Front.intercalate_split_exactly separator)

theorem lightens_dedupe : Lightens dedupe :=
  lightens_distinct lightens_dedupeLine (by decide) (splitOn_ne_nil '\n')
    (intercalate_splitOn '\n')

end Repetitions

theorem lightens_cleanOnce : Lightens cleanOnce :=
  lightens_trim.comp <| lightens_foldl _ _ fun _ hedit =>
    lightens_dedupe.comp (lightens_of_mem_edits hedit)

end PostalAddress.Cleanup
