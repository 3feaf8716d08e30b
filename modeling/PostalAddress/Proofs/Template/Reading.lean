import PostalAddress.Proofs.Template.Scanning
import PostalAddress.Template.Compile

/-!
# Reading the pieces of a source

`Reads d s ps d' s'` says that the pieces `ps` are read from `s` to `s'`, and that the delimiters
change from `d` to `d'` on the way. A reading can be split between any two pieces, and what was
read is read again, with its spans moved, from a text that is cut off where the reading stopped.
-/

namespace PostalAddress

open Text

namespace Span

/-- The span `n` bytes further on. -/
def move (n : Nat) (s : Span) : Span := ⟨s.start + n, s.stop + n⟩

end Span

namespace Piece

def move (n : Nat) : Piece → Piece
  | .letter c span => .letter c (span.move n)
  | .tag t span => .tag t (span.move n)

/-- The delimiters that hold after a piece. -/
def delimitersAfter (d : Delimiters) : Piece → Delimiters
  | .letter _ _ => d
  | .tag t _ => t.delimitersAfter d

def setsDelimiters : Piece → Bool
  | .tag (.delimiters _) _ => true
  | _ => false

theorem setsDelimiters_move (n : Nat) (p : Piece) :
    (p.move n).setsDelimiters = p.setsDelimiters := by
  cases p with
  | letter c span => rfl
  | tag t span => cases t <;> rfl

theorem delimitersAfter_of_not_sets {p : Piece} (h : p.setsDelimiters = false)
    (d : Delimiters) : p.delimitersAfter d = d := by
  cases p with
  | letter c span => rfl
  | tag t span =>
    cases t with
    | delimiters d' => cases h
    | _ => rfl

theorem foldl_delimitersAfter {ps : List Piece} (h : ∀ p ∈ ps, p.setsDelimiters = false)
    (d : Delimiters) : ps.foldl delimitersAfter d = d := by
  induction ps with
  | nil => rfl
  | cons p ps ih =>
    obtain ⟨hp, hps⟩ := List.forall_mem_cons.mp h
    rw [List.foldl_cons, delimitersAfter_of_not_sets hp, ih hps]

end Piece

inductive Reads : Delimiters → Scanner → List Piece → Delimiters → Scanner → Prop
  | done (d : Delimiters) (s : Scanner) : Reads d s [] d s
  | letter {d d' : Delimiters} {c : Char} {r : List Char} {p : Nat} {ps : List Piece} {s' : Scanner}
      (no : ¬ d.opening.toList <+: c :: r) (rest : Reads d ⟨r, p + c.utf8Size⟩ ps d' s') :
      Reads d ⟨c :: r, p⟩ (.letter c ⟨p, p + c.utf8Size⟩ :: ps) d' s'
  | tag {d d' : Delimiters} {s after s' : Scanner} {tag : Tag} {ps : List Piece}
      (nonempty : s.rest ≠ []) (yes : d.opening.toList <+: s.rest)
      (scan : Tag.scan d s = .ok (tag, after))
      (rest : Reads (tag.delimitersAfter d) after ps d' s') :
      Reads d s (.tag tag ⟨s.position, after.position⟩ :: ps) d' s'

namespace Reads

variable {d d' : Delimiters} {s s' : Scanner} {ps qs : List Piece}

theorem reaches (h : Reads d s ps d' s') : s.Reaches s' := by
  induction h with
  | done d s => exact .refl s
  | @letter d d' c r p ps s' no rest ih =>
    have hstep : Scanner.Reaches ⟨c :: r, p⟩ ⟨r, p + c.utf8Size⟩ := ⟨[c], rfl, rfl⟩
    exact hstep.trans ih
  | tag nonempty yes scan rest ih => exact (Tag.reaches_scanTag scan).trans ih

theorem delimiters_eq (h : Reads d s ps d' s') : d' = ps.foldl Piece.delimitersAfter d := by
  induction h with
  | done d s => rfl
  | letter no rest ih => exact ih
  | tag nonempty yes scan rest ih => exact ih

theorem split (h : Reads d s (ps ++ qs) d' s') :
    ∃ d₁ s₁, Reads d s ps d₁ s₁ ∧ Reads d₁ s₁ qs d' s' := by
  induction ps generalizing d s with
  | nil => exact ⟨d, s, .done d s, h⟩
  | cons p ps ih =>
    cases h with
    | letter no rest =>
      obtain ⟨d₁, s₁, h₁, h₂⟩ := ih rest
      exact ⟨d₁, s₁, .letter no h₁, h₂⟩
    | tag nonempty yes scan rest =>
      obtain ⟨d₁, s₁, h₁, h₂⟩ := ih rest
      exact ⟨d₁, s₁, .tag nonempty yes scan h₁, h₂⟩

theorem append {d₁ : Delimiters} {s₁ : Scanner} (h : Reads d s ps d₁ s₁)
    (h' : Reads d₁ s₁ qs d' s') : Reads d s (ps ++ qs) d' s' := by
  induction h with
  | done d s => exact h'
  | letter no rest ih => exact .letter no (ih h')
  | tag nonempty yes scan rest ih => exact .tag nonempty yes scan (ih h')

/-- A piece begins where the scanner stands, and there is more of the source there. -/
theorem cons_tag {t : Tag} {span : Span} (h : Reads d s (.tag t span :: ps) d' s') :
    s.rest ≠ [] ∧ span.start = s.position ∧
      ∃ after, s.Reaches after ∧ span.stop = after.position ∧
        Reads (t.delimitersAfter d) after ps d' s' := by
  cases h with
  | @tag _ _ _ after _ _ _ nonempty yes scan rest =>
    exact ⟨nonempty, rfl, after, Tag.reaches_scanTag scan, rfl, rest⟩

/-- What is read before the rest `u` of a text is read where the text ends there. -/
theorem cut {t u : List Char} {n q : Nat} (hu : u ≠ [])
    (h : Reads d ⟨t ++ u, n + q⟩ ps d' s') (hsuf : u <:+ s'.rest) :
    ∃ ps' v k, ps = ps'.map (Piece.move n) ∧ s' = ⟨v ++ u, n + q + k⟩ ∧
      Reads d ⟨t, q⟩ ps' d' ⟨v, q + k⟩ := by
  generalize hs : (⟨t ++ u, n + q⟩ : Scanner) = s at h
  induction h generalizing t q with
  | done d s => exact ⟨[], t, 0, rfl, hs.symm, .done d _⟩
  | @letter d d' c r p ps s' no rest ih =>
    obtain ⟨htext, rfl⟩ := Scanner.mk.inj hs
    have hlen : u.length ≤ r.length := (hsuf.trans rest.reaches.suffix).length_le
    cases t with
    | nil =>
      rw [List.nil_append] at htext
      simp only [htext, List.length_cons] at hlen
      omega
    | cons c' t =>
      obtain ⟨rfl, rfl⟩ := List.cons_eq_cons.mp htext
      have hnext : (⟨t ++ u, n + (q + c'.utf8Size)⟩ : Scanner) = ⟨t ++ u, n + q + c'.utf8Size⟩ := by
        rw [Nat.add_assoc]
      obtain ⟨ps', v, k, rfl, rfl, hread⟩ := ih hsuf hnext
      refine ⟨.letter c' ⟨q, q + c'.utf8Size⟩ :: ps', v, c'.utf8Size + k, ?_, ?_, ?_⟩
      · simp only [List.map_cons, Piece.move, Span.move, Nat.add_comm n, Nat.add_right_comm]
      · simp only [Nat.add_assoc]
      · rw [← Nat.add_assoc]
        exact .letter (fun hd => no (hd.trans (List.prefix_append _ _))) hread
  | @tag d d' s after s' tag ps nonempty yes scan rest ih =>
    subst hs
    have hafter : u <:+ after.rest := hsuf.trans rest.reaches.suffix
    obtain ⟨v, k, rfl, hscan⟩ := Tag.scan_cut scan hu hafter q
    have hlen := Tag.length_scanTag scan yes
    simp only [List.length_append] at hlen
    have hopen : d.opening.toList <+: t :=
      List.prefix_of_prefix_length_le yes (List.prefix_append t u) (by omega)
    have ht : t ≠ [] := by
      rintro rfl
      simp only [List.length_nil] at hlen
      omega
    obtain ⟨ps', w, l, rfl, rfl, hread⟩ := ih (q := q + k) hsuf (by rw [Nat.add_assoc])
    refine ⟨.tag tag ⟨q, q + k⟩ :: ps', w, k + l, ?_, ?_, ?_⟩
    · simp only [List.map_cons, Piece.move, Span.move, Nat.add_comm n, Nat.add_right_comm]
    · simp only [Nat.add_assoc]
    · rw [← Nat.add_assoc]
      exact .tag ht hopen hscan hread

/-- What is read up to the rest `u` of a text is all there is to read before it. -/
theorem cut_end {t u : List Char} {n m : Nat} (hu : u ≠ [])
    (h : Reads d ⟨t ++ u, n⟩ ps d' ⟨u, m⟩) :
    m = n + byteLength t ∧ ∃ ps', ps = ps'.map (Piece.move n) ∧
      Reads d ⟨t, 0⟩ ps' d' ⟨[], byteLength t⟩ := by
  obtain ⟨x, hx, hm⟩ := h.reaches
  obtain rfl : t = x := List.append_cancel_right hx
  obtain ⟨ps', v, k, rfl, hs, hread⟩ := cut (q := 0) hu h (List.suffix_refl u)
  obtain ⟨hv, hk⟩ := Scanner.mk.inj hs
  obtain rfl : v = [] := List.append_left_eq_self.mp hv.symm
  simp only [Nat.zero_add] at hread hm hk
  obtain rfl : k = byteLength t := by omega
  exact ⟨hm, ps', rfl, hread⟩

end Reads

namespace Pieces

theorem read_skip (d : Delimiters) (p k : Nat) (t : List Char) :
    read d p k t = read d (p + byteLength (t.take k)) 0 (t.drop k) := by
  induction k generalizing p t with
  | zero => rfl
  | succ k ih =>
    cases t with
    | nil => rfl
    | cons c r =>
      rw [read, ih, List.take_succ_cons, List.drop_succ_cons, byteLength, Nat.add_assoc]

theorem read_letter {d : Delimiters} {c : Char} {r : List Char} (p : Nat)
    (h : ¬ d.opening.toList <+: c :: r) :
    read d p 0 (c :: r) =
      cons (.letter c ⟨p, p + c.utf8Size⟩) (read d (p + c.utf8Size) 0 r) := by
  rw [read, if_neg (by rwa [List.isPrefixOf_iff_prefix])]

theorem read_tag {d : Delimiters} {s after : Scanner} {tag : Tag}
    (h : d.opening.toList <+: s.rest) (hscan : Tag.scan d s = .ok (tag, after)) :
    read d s.position 0 s.rest =
      cons (.tag tag ⟨s.position, after.position⟩)
        (read (tag.delimitersAfter d) after.position 0 after.rest) := by
  have hlen := Tag.length_scanTag hscan h
  obtain ⟨x, hx, hp⟩ := Tag.reaches_scanTag hscan
  obtain ⟨t, p⟩ := s
  cases x with
  | nil =>
    simp only [List.nil_append] at hx
    simp only [hx] at hlen
    omega
  | cons c r =>
    simp only [List.cons_append] at hx hp h
    subst hx
    have hskip : (r ++ after.rest).length - after.rest.length = r.length := by
      rw [List.length_append, Nat.add_sub_cancel]
    dsimp only
    rw [read, if_pos (by rwa [List.isPrefixOf_iff_prefix]), hscan]
    dsimp only
    rw [read_skip, hskip, List.take_left, List.drop_left, hp, byteLength, Nat.add_assoc]

theorem read_error {d : Delimiters} {c : Char} {r : List Char} {p : Nat} {e : TemplateError}
    (h : d.opening.toList <+: c :: r) (hscan : Tag.scan d ⟨c :: r, p⟩ = .error e) :
    read d p 0 (c :: r) = ⟨[], some e⟩ := by
  rw [read, if_pos (by rwa [List.isPrefixOf_iff_prefix]), hscan]

/-- The pieces of a source are read up to its end, or up to a tag that is at fault. -/
theorem exists_reads_read (d : Delimiters) (s : Scanner) :
    ∃ d' s', Reads d s (read d s.position 0 s.rest).list d' s' ∧
      ((read d s.position 0 s.rest).failure = none ∧ s'.rest = [] ∨
        ∃ e, (read d s.position 0 s.rest).failure = some e ∧ Tag.scan d' s' = .error e) := by
  obtain ⟨t, p⟩ := s
  -- A tag may take any number of characters, so the induction is on how many are left.
  generalize hn : t.length = n
  induction n using Nat.strongRecOn generalizing d t p with
  | ind n ih =>
    cases t with
    | nil => exact ⟨d, _, .done d _, .inl ⟨rfl, rfl⟩⟩
    | cons c r =>
      by_cases hd : d.opening.toList <+: c :: r
      · cases hscan : Tag.scan d ⟨c :: r, p⟩ with
        | error e =>
          rw [read_error hd hscan]
          exact ⟨d, _, .done d _, .inr ⟨e, rfl, hscan⟩⟩
        | ok result =>
          obtain ⟨tag, after⟩ := result
          have hlen := Tag.length_scanTag hscan hd
          dsimp only at hlen
          rw [read_tag hd hscan]
          obtain ⟨d', s', hread, hend⟩ :=
            ih after.rest.length (by omega) (tag.delimitersAfter d) after.rest after.position rfl
          exact ⟨d', s', .tag (List.cons_ne_nil c r) hd hscan hread, hend⟩
      · dsimp only
        rw [read_letter p hd]
        simp only [List.length_cons] at hn
        obtain ⟨d', s', hread, hend⟩ := ih r.length (by omega) d r (p + c.utf8Size) rfl
        exact ⟨d', s', .letter hd hread, hend⟩

theorem reads_of_read {d : Delimiters} {s : Scanner}
    (h : (read d s.position 0 s.rest).failure = none) :
    ∃ d' p', Reads d s (read d s.position 0 s.rest).list d' ⟨[], p'⟩ := by
  obtain ⟨d', ⟨t, p'⟩, hread, ⟨_, hend⟩ | ⟨e, he, _⟩⟩ := exists_reads_read d s
  · obtain rfl : t = [] := hend
    exact ⟨d', p', hread⟩
  · rw [h] at he
    cases he

theorem read_of_reads {d d' : Delimiters} {s : Scanner} {ps : List Piece} {p' : Nat}
    (h : Reads d s ps d' ⟨[], p'⟩) : read d s.position 0 s.rest = ⟨ps, none⟩ := by
  generalize hs : (⟨[], p'⟩ : Scanner) = s' at h
  induction h with
  | done d s =>
    subst hs
    rfl
  | letter no rest ih =>
    dsimp only
    rw [read_letter _ no, ih hs]
    rfl
  | tag nonempty yes scan rest ih =>
    rw [read_tag yes scan, ih hs]
    rfl

theorem read_eq_iff {d : Delimiters} {p : Nat} {t : List Char} {ps : List Piece} :
    read d p 0 t = ⟨ps, none⟩ ↔ ∃ d' p', Reads d ⟨t, p⟩ ps d' ⟨[], p'⟩ := by
  constructor
  · intro h
    have hreads := reads_of_read (d := d) (s := ⟨t, p⟩) (by rw [h])
    rwa [h] at hreads
  · rintro ⟨d', p', h⟩
    exact read_of_reads h

end Pieces

end PostalAddress
