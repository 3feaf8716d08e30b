import PostalAddress.Proofs.Cleanup.Lines
import PostalAddress.Proofs.Text.Continuing

/-!
# Texts that a pass leaves alone

A pass that gives a text back has changed it nowhere on the way, since what is taken away never
comes again. So every edit finds nothing to do in a settled text, and there is nothing repeated in
it: `Clean` says in full what such a text looks like.
-/

namespace PostalAddress.Cleanup

open Text

section FixedPoints

variable {f g : List Char → List Char} {t : List Char}

theorem Lightens.comp_eq_self_iff (hg : Lightens g) (hf : Lightens f) :
    g (f t) = t ↔ f t = t ∧ g t = t := by
  constructor
  · intro h
    obtain hself | hlt := hf t
    · rw [hself] at h
      exact ⟨hself, h⟩
    · have hle : weight (g (f t)) ≤ weight (f t) := hg.weight_le (f t)
      rw [h] at hle
      omega
  · rintro ⟨hself, h⟩
    rw [hself, h]

theorem foldl_eq_self_iff {β : Type} {op : List Char → β → List Char} {bs : List β}
    (h : ∀ b ∈ bs, Lightens fun t => op t b) : bs.foldl op t = t ↔ ∀ b ∈ bs, op t b = t := by
  induction bs with
  | nil => simp
  | cons b bs ih =>
    obtain ⟨hb, hbs⟩ := List.forall_mem_cons.mp h
    rw [List.foldl_cons, List.forall_mem_cons, ← ih hbs]
    exact (lightens_foldl op bs hbs).comp_eq_self_iff hb

theorem cleanOnce_eq_self_iff_edits :
    cleanOnce t = t ↔ (∀ edit ∈ edits, edit t = t) ∧ dedupe t = t ∧ trim t = t := by
  have hstep : ∀ edit ∈ edits, Lightens fun t => dedupe (edit t) := fun _ hedit =>
    lightens_dedupe.comp (lightens_of_mem_edits hedit)
  have hedits : edits.foldl (fun t edit => dedupe (edit t)) t = t ↔
      (∀ edit ∈ edits, edit t = t) ∧ dedupe t = t := by
    rw [foldl_eq_self_iff hstep]
    constructor
    · intro h
      have hboth := fun edit hedit =>
        (lightens_dedupe.comp_eq_self_iff (lightens_of_mem_edits hedit)).mp (h edit hedit)
      exact ⟨fun edit hedit => (hboth edit hedit).1, (hboth _ List.mem_cons_self).2⟩
    · rintro ⟨h, hdedupe⟩ edit hedit
      rw [h edit hedit, hdedupe]
  have htrim := lightens_trim.comp_eq_self_iff (t := t) (lightens_foldl _ edits hstep)
  rwa [hedits, and_assoc] at htrim

end FixedPoints

section Matches

variable {f : Front} {new t : List Char}

theorem weight_replaceAll_lt (h : LighterThan new f) {s : List Char} (hs : s <:+ t) {n : Nat}
    (hn : f s = some (n + 1)) : weight (f.replaceAll new t) < weight t := by
  induction t with
  | nil =>
    obtain rfl := List.suffix_nil.mp hs
    exact absurd (h [] (n + 1) hn n.succ_pos) (Nat.not_lt_zero _)
  | cons c r ih =>
    rw [Front.replaceAll, Front.replaceAll.go]
    split
    · rename_i m hm
      rw [Front.replaceAll_go]
      exact h.weight_append_lt hm ((lightens_replaceAll h).weight_le (r.drop m))
    · rename_i hno
      obtain rfl | hs := List.suffix_cons_iff.mp hs
      · exact absurd hn (hno n)
      · rw [Front.replaceAll_go, List.drop_zero, weight_cons, weight_cons]
        exact Nat.add_lt_add_left (ih hs) _

theorem replaceAll_eq_self_iff (h : LighterThan new f) :
    f.replaceAll new t = t ↔ ∀ s, s <:+ t → ∀ n, f s ≠ some (n + 1) := by
  constructor
  · intro hself s hs n hn
    have hlt := weight_replaceAll_lt h hs hn
    rw [hself] at hlt
    exact Nat.lt_irrefl _ hlt
  · intro hno
    obtain hself | ⟨s, c, r, n, rfl, hn, _⟩ := Front.replaceAll_eq_self_or f new t
    · exact hself
    · exact absurd hn (hno (c :: r) (List.suffix_append s (c :: r)) n)

/-- A front that matches in a text exactly when one of these texts stands in it. -/
structure Spots (f : Front) (p : List Char → Prop) : Prop where
  matches_of_prefix : ∀ x s, p x → x <+: s → ∃ n, f s = some (n + 1)
  exists_infix : ∀ s n, f s = some (n + 1) → ∃ x, p x ∧ x <:+: s

theorem Spots.replaceAll_eq_self_iff {p : List Char → Prop} (hf : Spots f p)
    (h : LighterThan new f) : f.replaceAll new t = t ↔ ∀ x, p x → ¬ x <:+: t := by
  rw [Cleanup.replaceAll_eq_self_iff h]
  constructor
  · rintro hno x hx hin
    obtain ⟨s, hpre, hsuf⟩ := List.infix_iff_prefix_suffix.mp hin
    obtain ⟨n, hn⟩ := hf.matches_of_prefix x s hx hpre
    exact hno s hsuf n hn
  · intro hno s hs n hn
    obtain ⟨x, hx, hin⟩ := hf.exists_infix s n hn
    exact hno x hx (hin.trans hs.isInfix)

theorem spots_exactly {c : Char} {x : List Char} : Spots (Front.exactly (c :: x)) (· = c :: x) where
  matches_of_prefix := by
    rintro _ s rfl hpre
    exact ⟨x.length, Front.exactly_eq_some_iff.mpr ⟨hpre, rfl⟩⟩
  exists_infix s n hn := ⟨_, rfl, (Front.exactly_eq_some_iff.mp hn).1.isInfix⟩

theorem spots_commaPair :
    Spots commaPair fun x => ∃ s, (∀ c ∈ s, isBlank c) ∧ x = ',' :: (s ++ [',']) where
  matches_of_prefix := by
    rintro _ t ⟨s, hs, rfl⟩ ⟨u, rfl⟩
    have hspaced : Front.spaced [','] (s ++ ([','] ++ u)) = some (s.length + 1) :=
      (Front.spaced_eq_some_iff (by decide) (by decide)).mpr ⟨s, u, rfl, hs, rfl⟩
    refine ⟨s.length + 1, ?_⟩
    rw [List.cons_append, List.append_assoc, commaPair, hspaced]
    rfl
  exists_infix t n hn := by
    obtain ⟨s, htake, hs⟩ := take_commaPair hn
    exact ⟨_, ⟨s, hs, rfl⟩, htake ▸ (List.take_prefix (n + 1) t).isInfix⟩

theorem spots_gapCommaGap :
    Spots gapCommaGap fun x => ∃ c d, isGap c ∧ isGap d ∧ x = [c, ',', d] where
  matches_of_prefix := by
    rintro _ t ⟨c, d, hc, hd, rfl⟩ ⟨u, rfl⟩
    have hbefore : List.takeWhile isGap (c :: ',' :: d :: u) = [c] := by
      rw [List.takeWhile_cons_of_pos hc, List.takeWhile_cons_of_neg (by decide)]
    refine ⟨1 + (List.takeWhile isGap (d :: u)).length, ?_⟩
    simp [gapCommaGap, hbefore, List.takeWhile_cons_of_pos hd]
    omega
  exists_infix t n hn := by
    obtain ⟨a, b, htake, ha, hb, hgap⟩ := take_gapCommaGap hn
    obtain ⟨a, c, rfl⟩ := (List.eq_nil_or_concat a).resolve_left ha
    obtain ⟨d, b, rfl⟩ := List.exists_cons_of_ne_nil hb
    refine ⟨[c, ',', d], ⟨c, d, hgap c (by simp), hgap d (by simp), rfl⟩, ?_⟩
    refine List.IsInfix.trans ⟨a, b, ?_⟩ (List.take_prefix (n + 1) t).isInfix
    rw [htake]
    simp

theorem spots_atLeast (p : Char → Bool) :
    Spots (atLeast 2 p) fun x => ∃ c d, p c ∧ p d ∧ x = [c, d] where
  matches_of_prefix := by
    rintro _ t ⟨c, d, hc, hd, rfl⟩ ⟨u, rfl⟩
    refine ⟨(List.takeWhile p u).length + 1, ?_⟩
    simp [atLeast, List.takeWhile_cons_of_pos hc, List.takeWhile_cons_of_pos hd]
  exists_infix t n hn := by
    obtain ⟨hle, hall⟩ := take_atLeast hn
    obtain ⟨c, d, u, hu⟩ : ∃ c d u, t.take (n + 1) = c :: d :: u := by
      rcases hu : t.take (n + 1) with _ | ⟨c, _ | ⟨d, u⟩⟩
      · simp [hu] at hle
      · simp [hu] at hle
      · exact ⟨c, d, u, rfl⟩
    rw [hu] at hall
    refine ⟨[c, d], ⟨c, d, hall c (by simp), hall d (by simp), rfl⟩, ?_⟩
    exact List.IsInfix.trans ⟨[], u, by rw [hu]; rfl⟩ (List.take_prefix (n + 1) t).isInfix

theorem spots_gapNewline : Spots gapNewline fun x => ∃ c, isGap c ∧ x = [c, '\n'] where
  matches_of_prefix := by
    rintro _ t ⟨c, hc, rfl⟩ ⟨u, rfl⟩
    exact ⟨1, by simp [gapNewline, hc]⟩
  exists_infix t n hn := by
    obtain ⟨c, htake, hc⟩ := take_gapNewline hn
    exact ⟨_, ⟨c, hc, rfl⟩, htake ▸ (List.take_prefix (n + 1) t).isInfix⟩

theorem spots_newlineGaps : Spots newlineGaps fun x => ∃ c, isGap c ∧ x = ['\n', c] where
  matches_of_prefix := by
    rintro _ t ⟨c, hc, rfl⟩ ⟨u, rfl⟩
    refine ⟨(List.takeWhile isGap u).length + 1, ?_⟩
    simp [newlineGaps, List.takeWhile_cons_of_pos hc]
  exists_infix t n hn := by
    obtain ⟨a, htake, ha, hgap⟩ := take_newlineGaps hn
    obtain ⟨c, a, rfl⟩ := List.exists_cons_of_ne_nil ha
    refine ⟨_, ⟨c, hgap c (by simp), rfl⟩, ?_⟩
    exact List.IsInfix.trans ⟨[], a, by rw [htake]; rfl⟩ (List.take_prefix (n + 1) t).isInfix

end Matches

section Repetitions

/-- Parts without white space at an end, of which only those that may be repeated are equal. -/
structure Unrepeated (ps : List (List Char)) : Prop where
  trimmed : ∀ p ∈ ps, Trimmed p
  unequal : ps.Pairwise fun p q => p = q → isExempt p

variable {f : List Char → List Char}

theorem length_distinct_le (f : List Char → List Char) (seen ps : List (List Char)) :
    (distinct f seen ps).length ≤ ps.length := by
  fun_induction distinct f seen ps with
  | case1 => exact Nat.le_refl 0
  | case2 seen p ps q _ ih => exact Nat.succ_le_succ ih
  | case3 seen p ps q _ _ ih => exact Nat.le_succ_of_le ih
  | case4 seen p ps q _ _ ih => exact Nat.succ_le_succ ih

theorem trim_eq_self_iff {t : List Char} : trim t = t ↔ Trimmed t :=
  ⟨fun h => h ▸ trimmed_trim t, Trimmed.trim_eq⟩

theorem unrepeated_cons_iff {p : List Char} {ps : List (List Char)} :
    Unrepeated (p :: ps) ↔ Trimmed p ∧ (isExempt p = false → p ∉ ps) ∧ Unrepeated ps := by
  constructor
  · rintro ⟨htrimmed, hunequal⟩
    obtain ⟨hp, hps⟩ := List.forall_mem_cons.mp htrimmed
    obtain ⟨hfirst, hrest⟩ := List.pairwise_cons.mp hunequal
    refine ⟨hp, fun hplain hmem => ?_, hps, hrest⟩
    rw [hfirst p hmem rfl] at hplain
    cases hplain
  · rintro ⟨hp, hfirst, hps, hrest⟩
    refine ⟨List.forall_mem_cons.mpr ⟨hp, hps⟩, List.pairwise_cons.mpr ⟨?_, hrest⟩⟩
    rintro q hq rfl
    by_contra hplain
    exact hfirst (Bool.eq_false_iff.mpr hplain) hq

theorem distinct_eq_self_iff (hf : Lightens f) (seen ps : List (List Char)) :
    distinct f seen ps = ps ↔
      Unrepeated ps ∧ ∀ p ∈ ps, isExempt p = false → f p = p ∧ p ∉ seen := by
  fun_induction distinct f seen ps with
  | case1 => exact ⟨fun _ => ⟨⟨List.forall_mem_nil _, .nil⟩, List.forall_mem_nil _⟩, fun _ => rfl⟩
  | case2 seen p ps q hq ih =>
    rw [List.cons_eq_cons, ih, trim_eq_self_iff, unrepeated_cons_iff, List.forall_mem_cons]
    constructor
    · rintro ⟨hp, hps, hplain⟩
      have hexempt : isExempt p = true := hp.trim_eq ▸ hq
      exact ⟨⟨hp, by simp [hexempt], hps⟩, by simp [hexempt], hplain⟩
    · rintro ⟨⟨hp, _, hps⟩, _, hplain⟩
      exact ⟨hp, hps, hplain⟩
  | case3 seen p ps q hq hseen _ =>
    constructor
    · intro h
      have hle := length_distinct_le f seen ps
      rw [h] at hle
      exact absurd hle (Nat.not_succ_le_self _)
    · rintro ⟨hps, hplain⟩
      have hp : q = p := (unrepeated_cons_iff.mp hps).1.trim_eq
      rw [hp] at hq hseen
      have hfresh := (hplain p List.mem_cons_self (Bool.eq_false_iff.mpr hq)).2
      exact absurd (List.contains_iff_mem.mp hseen) hfresh
  | case4 seen p ps q hq hseen ih =>
    have hkept : f q = p ↔ Trimmed p ∧ f p = p := by
      rw [← trim_eq_self_iff]
      exact hf.comp_eq_self_iff lightens_trim
    rw [List.cons_eq_cons, hkept, ih, unrepeated_cons_iff, List.forall_mem_cons]
    constructor
    · rintro ⟨⟨hp, hfp⟩, hps, hplain⟩
      have hqp : q = p := hp.trim_eq
      rw [hqp] at hq hseen hplain
      refine ⟨⟨hp, fun hnot hmem => ?_, hps⟩, fun _ => ⟨hfp, ?_⟩, fun p' hp' hnot => ?_⟩
      · exact (hplain p hmem hnot).2 List.mem_cons_self
      · exact fun hmem => hseen (List.contains_iff_mem.mpr hmem)
      · exact ⟨(hplain p' hp' hnot).1, fun hmem =>
          (hplain p' hp' hnot).2 (List.mem_cons_of_mem p hmem)⟩
    · rintro ⟨⟨hp, hfirst, hps⟩, hself, hplain⟩
      have hqp : q = p := hp.trim_eq
      rw [hqp] at hq ⊢
      have hnot : isExempt p = false := Bool.eq_false_iff.mpr hq
      refine ⟨⟨hp, (hself hnot).1⟩, hps, fun p' hp' hnot' => ⟨(hplain p' hp' hnot').1, ?_⟩⟩
      intro hmem
      obtain rfl | hmem := List.mem_cons.mp hmem
      · exact hfirst hnot hp'
      · exact (hplain p' hp' hnot').2 hmem

theorem dedupeLine_eq_self_iff {l : List Char} :
    dedupeLine l = l ↔ Unrepeated ((Front.exactly separator).split l) := by
  have hcut := Front.intercalate_split_exactly separator l
  have hdistinct : dedupeLine l = l ↔
      distinct id [] ((Front.exactly separator).split l) = (Front.exactly separator).split l := by
    constructor
    · intro h
      have hparted := parted_distinct l
      rw [← split_intercalate hparted.ne_nil hparted.whole]
      exact congrArg (Front.exactly separator).split h
    · intro h
      rw [dedupeLine, h, hcut]
  rw [hdistinct, distinct_eq_self_iff lightens_id]
  simp

theorem dedupe_eq_self_iff {t : List Char} :
    dedupe t = t ↔ Unrepeated (splitOn '\n' t) ∧ ∀ l ∈ splitOn '\n' t, isExempt l = false →
      Unrepeated ((Front.exactly separator).split l) := by
  have hdistinct : dedupe t = t ↔ distinct dedupeLine [] (splitOn '\n' t) = splitOn '\n' t := by
    rw [← splitOn_dedupe]
    exact ⟨congrArg (splitOn '\n'), fun h => by
      rw [← intercalate_splitOn '\n' (dedupe t), h, intercalate_splitOn]⟩
  rw [hdistinct, distinct_eq_self_iff lightens_dedupeLine]
  simp only [dedupeLine_eq_self_iff, List.not_mem_nil, not_false_eq_true, and_true]

end Repetitions

section Clean

variable {t : List Char}

theorem dropTrailing_eq_self_iff {p : Char → Bool} :
    dropTrailing p t = t ↔ ∀ c ∈ t.getLast?, p c = false :=
  ⟨fun h => h ▸ getLast?_dropTrailing p t, dropTrailing_eq_self⟩

theorem dropWhile_eq_self_iff {p : Char → Bool} :
    t.dropWhile p = t ↔ ∀ c ∈ t.head?, p c = false := by
  cases t <;> simp [List.dropWhile_eq_self_iff]

theorem dropHyphen_eq_self_iff : dropHyphen t = t ↔ ¬ ['-', ' '] <+: t := by
  unfold dropHyphen
  split
  · rename_i r
    have hne : r ≠ '-' :: ' ' :: r := by
      intro h
      have hlen := congrArg List.length h
      simp only [List.length_cons] at hlen
      omega
    exact iff_of_false hne (not_not_intro (List.prefix_append ['-', ' '] r))
  · rename_i hno
    exact iff_of_true rfl fun ⟨r, hr⟩ => hno r hr.symm

/-- A text with nothing stray in it. -/
structure Orderly (t : List Char) : Prop where
  front : ∀ c ∈ t.head?, isBlank c = false ∧ c ≠ ','
  hyphen : ¬ ['-', ' '] <+: t
  back : ∀ c ∈ t.getLast?, isBlank c = false ∧ c ≠ ',' ∧ c ≠ '\x7d'
  /-- More than white space stands between two commas. -/
  commas : ∀ s, (∀ c ∈ s, isBlank c) → ¬ ',' :: (s ++ [',']) <:+: t
  comma : ∀ c d, isGap c → isGap d → ¬ [c, ',', d] <:+: t
  gaps : ∀ c d, isGap c → isGap d → ¬ [c, d] <:+: t
  newline : ∀ c, isGap c ∨ c = ',' ∨ c = '\n' → ¬ [c, '\n'] <:+: t ∧ ¬ ['\n', c] <:+: t

/-- An orderly text in which lines are not repeated, nor are parts in a line. -/
structure Clean (t : List Char) : Prop extends Orderly t where
  lines : Unrepeated (splitOn '\n' t)
  parts : ∀ l ∈ splitOn '\n' t, isExempt l = false → Unrepeated ((Front.exactly separator).split l)

theorem isLeading_eq_false_iff {c : Char} : isLeading c = false ↔ isBlank c = false ∧ c ≠ ',' := by
  simp [isLeading, and_comm]

theorem isTrailing_eq_false_iff {c : Char} :
    isTrailing c = false ↔ isBlank c = false ∧ c ≠ ',' ∧ c ≠ '\x7d' := by
  simp only [isTrailing, Bool.or_eq_false_iff, decide_eq_false_iff_not, ne_eq]
  tauto

theorem Orderly.trimmed (h : Orderly t) : Trimmed t where
  head c hc := (h.front c hc).1
  last c hc := (h.back c hc).1

/-- The pair `,,` is a pair of commas with nothing between, so its edit asks for nothing more. -/
theorem forall_edits_eq_self_iff : (∀ edit ∈ edits, edit t = t) ↔ Orderly t := by
  simp only [edits, List.forall_mem_cons]
  rw [dropTrailing_eq_self_iff, dropWhile_eq_self_iff, dropHyphen_eq_self_iff,
    spots_commaPair.replaceAll_eq_self_iff lighterThan_commaPair,
    spots_gapCommaGap.replaceAll_eq_self_iff lighterThan_gapCommaGap,
    (spots_atLeast isGap).replaceAll_eq_self_iff lighterThan_gaps,
    spots_gapNewline.replaceAll_eq_self_iff lighterThan_gapNewline,
    spots_exactly.replaceAll_eq_self_iff (lighterThan_exactly (by decide)),
    (spots_atLeast (· = ',')).replaceAll_eq_self_iff lighterThan_commas,
    spots_exactly.replaceAll_eq_self_iff (lighterThan_exactly (by decide)),
    spots_newlineGaps.replaceAll_eq_self_iff lighterThan_newlineGaps,
    (spots_atLeast (· = '\n')).replaceAll_eq_self_iff lighterThan_newlines]
  constructor
  · rintro ⟨back, front, hyphen, commas, comma, gaps, gapBefore, commaAfter, _, commaBefore,
      gapAfter, newlines, _⟩
    refine ⟨?_, hyphen, ?_, ?_, ?_, ?_, ?_⟩
    · exact fun c hc => isLeading_eq_false_iff.mp (front c hc)
    · exact fun c hc => isTrailing_eq_false_iff.mp (back c hc)
    · exact fun s hs => commas _ ⟨s, hs, rfl⟩
    · exact fun c d hc hd => comma _ ⟨c, d, hc, hd, rfl⟩
    · exact fun c d hc hd => gaps _ ⟨c, d, hc, hd, rfl⟩
    · rintro c (hc | rfl | rfl)
      · exact ⟨gapBefore _ ⟨c, hc, rfl⟩, gapAfter _ ⟨c, hc, rfl⟩⟩
      · exact ⟨commaBefore _ rfl, commaAfter _ rfl⟩
      · have hpair := newlines _ ⟨'\n', '\n', rfl, rfl, rfl⟩
        exact ⟨hpair, hpair⟩
  · intro h
    refine ⟨?_, ?_, h.hyphen, ?_, ?_, ?_, ?_, ?_, ?_, ?_, ?_, ?_, List.forall_mem_nil _⟩
    · exact fun c hc => isTrailing_eq_false_iff.mpr (h.back c hc)
    · exact fun c hc => isLeading_eq_false_iff.mpr (h.front c hc)
    · rintro _ ⟨s, hs, rfl⟩
      exact h.commas s hs
    · rintro _ ⟨c, d, hc, hd, rfl⟩
      exact h.comma c d hc hd
    · rintro _ ⟨c, d, hc, hd, rfl⟩
      exact h.gaps c d hc hd
    · rintro _ ⟨c, hc, rfl⟩
      exact (h.newline c (.inl hc)).1
    · rintro _ rfl
      exact (h.newline ',' (.inr (.inl rfl))).2
    · rintro _ ⟨c, d, hc, hd, rfl⟩
      rw [of_decide_eq_true hc, of_decide_eq_true hd]
      exact h.commas [] (List.forall_mem_nil _)
    · rintro _ rfl
      exact (h.newline ',' (.inr (.inl rfl))).1
    · rintro _ ⟨c, hc, rfl⟩
      exact (h.newline c (.inl hc)).2
    · rintro _ ⟨c, d, hc, hd, rfl⟩
      rw [of_decide_eq_true hc, of_decide_eq_true hd]
      exact (h.newline '\n' (.inr (.inr rfl))).1

/-- A pass leaves a text alone exactly when the text is empty or clean. -/
theorem cleanOnce_eq_self_iff : cleanOnce t = t ↔ t = [] ∨ Clean t := by
  constructor
  · intro h
    obtain ⟨hedits, hdedupe, _⟩ := cleanOnce_eq_self_iff_edits.mp h
    have horderly : Orderly t := forall_edits_eq_self_iff.mp hedits
    obtain ⟨hlines, hparts⟩ := dedupe_eq_self_iff.mp hdedupe
    exact .inr { horderly with lines := hlines, parts := hparts }
  · rintro (rfl | h)
    · rfl
    · exact cleanOnce_eq_self_iff_edits.mpr ⟨forall_edits_eq_self_iff.mpr h.toOrderly,
        dedupe_eq_self_iff.mpr ⟨h.lines, h.parts⟩, h.toOrderly.trimmed.trim_eq⟩

end Clean

end PostalAddress.Cleanup
