import PostalAddress.Proofs.Pattern.Literal
import PostalAddress.Template.Piece

/-!
# Delimiters that are accepted

Delimiters are accepted when neither is empty and the patterns that find them fit. Those of short
delimiters do. Where the opening delimiter alone takes more memory than a pattern may, its pattern
does not. A tag sets only delimiters that are accepted.
-/

namespace PostalAddress

open Text

section Blanks

/-- White space, as a pattern writes it. -/
def Written.blanks : Written := .many 0 none true (.named false .space)

def Node.blanks : Node := .loop 0 none true (.set Listed.whiteSpace)

theorem Written.means_blanks : Means .blanks .blanks := by
  have hset : Node.ofSet Listed.whiteSpace = .set Listed.whiteSpace := by
    have honly : Listed.whiteSpace.only? = none := by decide +kernel
    rw [Node.ofSet, honly]
  change some ([[Node.many 0 none true (.choice [.concat [.ofSet Listed.whiteSpace]])]],
    ({} : PatternFlags)) = _
  rw [hset]
  rfl

theorem PatternReader.readBranches?_blanks {fuel groups : Nat} {nested : Bool} {b : Branches}
    {r : List Char} {names : List (String × Nat)} (h : r.head? ≠ some '?') :
    readBranches? (fuel + 2) nested b ⟨'\\' :: 's' :: '*' :: r, false, groups, names⟩ =
      readBranches? fuel nested (b.push .blanks) ⟨r, false, groups, names⟩ := by
  have hread : readEscape? false ('s' :: '*' :: r) = some (.named false .space, '*' :: r) := rfl
  have hmany : ∀ body : Written, repetition (0, none) body r = (.many 0 none true body, r) := by
    intro body
    unfold repetition
    split
    · exact absurd rfl h
    · rfl
  rw [readBranches?]
  simp only [skip_false, hread]
  rw [readBranches?]
  simp only [skip_false, Branches.push, hmany]
  rfl

theorem Node.concat_literals_blanks (c : Char) (t : List Char) :
    concat ((c :: t).map (fun c => .literal [c]) ++ [.blanks]) =
      .seq (.literal (c :: t)) .blanks := by
  rw [concat, List.flatMap_append, flatMap_parts_literals, List.foldr_append]
  change ofParts (List.foldr consPart [.blanks] _) = _
  rw [foldr_consPart_literals c t (by simp [blanks])]
  rfl

theorem Node.concat_blanks_literals (c : Char) (t : List Char) :
    concat (.blanks :: (c :: t).map fun c => .literal [c]) = .seq .blanks (.literal (c :: t)) := by
  rw [concat, List.flatMap_cons, flatMap_parts_literals, List.foldr_append,
    foldr_consPart_literals c t (by simp)]
  rfl

end Blanks

section Parse

open PatternReader

variable (c : Char) (t : List Char) {s : String}

theorem Written.depth_le_of_mem_charParts {w : Written} (h : w ∈ charParts t ∨ w = .blanks) :
    w.depth ≤ 1 := by
  obtain h | rfl := h
  · obtain ⟨c, _, rfl⟩ := List.mem_map.mp h
    exact Nat.zero_le 1
  · decide

/-- A text with white space after it, written as a pattern. -/
theorem Pattern.parse?_escape_blanks (hs : s.toList = escape (c :: t) ++ ['\\', 's', '*']) :
    parse? s = if (Node.seq (.literal (c :: t)) .blanks).fits then
      some ⟨(Node.seq (.literal (c :: t)) .blanks).program, []⟩ else none := by
  obtain ⟨k, hk⟩ := Nat.exists_eq_add_of_le (length_le_length_escape (c :: t))
  have hlength : (escape (c :: t) ++ ['\\', 's', '*']).length + 1 = k + 4 + (c :: t).length := by
    simp [hk]
    omega
  have hread : Written.read? s.toList = some (.chain (charParts (c :: t) ++ [.blanks]), []) := by
    refine Written.read?_of_parts (k := k + 1) ?_ fun w hw =>
      Written.depth_le_of_mem_charParts (c :: t) (by simpa using hw)
    rw [hs, hlength, readBranches?_escape, readBranches?_blanks (by simp), List.reverse_append]
    simp [Branches.start, Branches.push]
  have hnode : (Written.chain (charParts (c :: t) ++ [.blanks])).node? =
      some (.seq (.literal (c :: t)) .blanks) := by
    rw [Written.node?_chain (List.rel_append (Written.means_charParts (c :: t))
      (.cons Written.means_blanks .nil)) (by simp), Node.concat_literals_blanks]
  exact parse?_eq hread hnode

/-- A text with white space before it, written as a pattern. -/
theorem Pattern.parse?_blanks_escape (hs : s.toList = ['\\', 's', '*'] ++ escape (c :: t)) :
    parse? s = if (Node.seq .blanks (.literal (c :: t))).fits then
      some ⟨(Node.seq .blanks (.literal (c :: t))).program, []⟩ else none := by
  obtain ⟨k, hk⟩ := Nat.exists_eq_add_of_le (length_le_length_escape (c :: t))
  have hlength : (['\\', 's', '*'] ++ escape (c :: t)).length + 1 =
      k + 2 + (c :: t).length + 2 := by
    simp [hk]
    omega
  have hread : Written.read? s.toList = some (.chain (.blanks :: charParts (c :: t)), []) := by
    have hhead : (escape (c :: t)).head? ≠ some '?' := by
      have h := head?_escape_ne (m := '?') (by decide) (by decide) (c :: t) (r := []) (by simp)
      rwa [List.append_nil] at h
    refine Written.read?_of_parts (k := k + 1) ?_ fun w hw =>
      Written.depth_le_of_mem_charParts (c :: t) (List.mem_cons.mp hw).symm
    rw [hs, hlength, List.cons_append, List.cons_append, List.cons_append, List.nil_append,
      readBranches?_blanks hhead, ← List.append_nil (escape (c :: t)), readBranches?_escape]
    simp [Branches.start, Branches.push]
  have hnode : (Written.chain (.blanks :: charParts (c :: t))).node? =
      some (.seq .blanks (.literal (c :: t))) := by
    rw [Written.node?_chain (.cons Written.means_blanks (Written.means_charParts (c :: t)))
      (by simp), Node.concat_blanks_literals]
  exact parse?_eq hread hnode

end Parse

section Fits

theorem Node.partCount_blanks_le : Node.blanks.partCount ≤ 20 := by decide +kernel

/-- A literal that alone takes more than the limit has no size. -/
theorem Size.after?_literal_eq_none {cs : List Char} (h : limit < 32 * byteLength cs)
    (backward : Bool) (z : Size) : after? backward .alone (.literal cs) z = none := by
  have hmemory : limit < (z.add (byteLength cs) 0).memory := by
    simp only [memory, add]
    omega
  change settle? .alone (z.add (byteLength cs) 0) = none
  rw [settle?]
  exact if_neg (by simpa [fits] using hmemory)

theorem Text.byteLength_le (t : List Char) : byteLength t ≤ 4 * t.length := by
  induction t with
  | nil => exact Nat.le_refl 0
  | cons c t ih =>
    have hc := c.utf8Size_le_four
    rw [byteLength, List.length_cons]
    omega

theorem Node.fits_literal_blanks_eq_false {cs : List Char}
    (h : Size.limit < 32 * byteLength cs) : (Node.seq (.literal cs) .blanks).fits = false := by
  have hparts : ¬ partLimit * (Node.seq (.literal cs) .blanks).partCount ≤ Size.limit := by
    have hbytes := byteLength_le cs
    rw [partCount, partCount, partLimit]
    omega
  have hforward : Size.forward? (.seq (.literal cs) .blanks) = none := by
    have hseq : ∀ z, Size.after? false .alone (.seq (.literal cs) .blanks) z = none := by
      intro z
      change ((Size.after? false .alone (.literal cs) z).bind _).bind _ = none
      rw [Size.after?_literal_eq_none h]
      rfl
    rw [Size.forward?, hseq]
    rfl
  rw [fits, decide_eq_false hparts, hforward]
  rfl

end Fits

namespace Delimiters

/-- The patterns of the delimiters take no more memory than a pattern may. -/
def Fits (d : Delimiters) : Prop := ∀ s ∈ d.patterns, (Pattern.parse? s).isSome

/-- What delimiters are accepted for. -/
def Proper (d : Delimiters) : Prop := d.opening ≠ "" ∧ d.closing ≠ "" ∧ d.Fits

instance (d : Delimiters) : Decidable d.Fits :=
  inferInstanceAs (Decidable (∀ s ∈ d.patterns, (Pattern.parse? s).isSome))

instance (d : Delimiters) : Decidable d.Proper := inferInstanceAs (Decidable (_ ∧ _ ∧ _))

variable {d : Delimiters}

theorem fits_of_short (hopening : d.opening ≠ "") (hclosing : d.closing ≠ "")
    (ho : d.opening.length ≤ 2500) (hc : d.closing.length ≤ 2500) : d.Fits := by
  have hblanks := Node.partCount_blanks_le
  obtain ⟨a, as, has⟩ := List.exists_cons_of_ne_nil (mt String.toList_eq_nil_iff.mp hopening)
  obtain ⟨b, bs, hbs⟩ := List.exists_cons_of_ne_nil (mt String.toList_eq_nil_iff.mp hclosing)
  rw [← String.length_toList, has] at ho
  rw [← String.length_toList, hbs] at hc
  rintro s hs
  simp only [patterns, List.mem_cons, List.not_mem_nil, or_false, has, hbs] at hs
  obtain rfl | rfl | rfl := hs
  · rw [Pattern.parse?_escape_blanks a as (by simp), if_pos (Node.fits_of_partCount_le ?_)]
    · rfl
    · rw [Node.partCount, Node.partCount]
      omega
  · rw [Pattern.parse?_blanks_escape b bs (by simp), if_pos (Node.fits_of_partCount_le ?_)]
    · rfl
    · rw [Node.partCount, Node.partCount]
      omega
  · rw [Pattern.parse?_blanks_escape '\x7d' (b :: bs) (by simp),
      if_pos (Node.fits_of_partCount_le ?_)]
    · rfl
    · rw [Node.partCount, Node.partCount, List.length_cons]
      omega

/-- A delimiter whose literal alone takes more than the limit is refused. -/
theorem not_fits_of_long (h : Size.limit < 32 * byteLength d.opening.toList) : ¬ d.Fits := by
  intro hfits
  cases hopening : d.opening.toList with
  | nil =>
    rw [hopening] at h
    exact absurd h (by decide)
  | cons c t =>
    have hsome := hfits _ List.mem_cons_self
    rw [hopening] at h hsome
    rw [Pattern.parse?_escape_blanks c t (by simp), Node.fits_literal_blanks_eq_false h] at hsome
    cases hsome

theorem check_eq (d : Delimiters) : d.check =
    if d.Proper then .ok () else .error (.invalidDelimiters (d.opening ++ " " ++ d.closing)) := by
  have hcheck : (d.opening.isEmpty || d.closing.isEmpty ||
      d.patterns.any fun p => (Pattern.parse? p).isNone) = true ↔ ¬ d.Proper := by
    simp only [Proper, Fits, Bool.or_eq_true, String.isEmpty_iff, List.any_eq_true,
      Option.isNone_iff_eq_none, Option.isSome_iff_ne_none]
    grind
  unfold check
  by_cases hd : d.Proper
  · rw [if_pos hd, if_neg (fun h => hcheck.mp h hd)]
  · rw [if_neg hd, if_pos (hcheck.mpr hd)]

theorem check_of_proper (h : d.Proper) : d.check = .ok () := by rw [check_eq, if_pos h]

theorem check_of_not_proper (h : ¬ d.Proper) :
    d.check = .error (.invalidDelimiters (d.opening ++ " " ++ d.closing)) := by
  rw [check_eq, if_neg h]

theorem proper_braces : braces.Proper := by
  have hne : braces.opening ≠ "" ∧ braces.closing ≠ "" := by decide
  exact ⟨hne.1, hne.2, fits_of_short hne.1 hne.2 (by decide) (by decide)⟩

end Delimiters

namespace Tag

variable {mark : List Char} {value : String}

/-- A tag sets the delimiters that its value reads as, when they are accepted. -/
theorem ofSigil_set (value : String) :
    ofSigil ['='] value = (Delimiters.parse value).bind fun d =>
      if d.Proper then .ok (.delimiters d)
      else .error (.invalidDelimiters (d.opening ++ " " ++ d.closing)) := by
  cases hparse : Delimiters.parse value with
  | error e =>
    rw [ofSigil, hparse]
    rfl
  | ok d =>
    rw [ofSigil, hparse]
    change d.check.bind (fun _ => Except.ok (Tag.delimiters d)) = ite d.Proper _ _
    rw [Delimiters.check_eq]
    split <;> rfl

theorem ofSigil_set_eq_ok_iff {tag : Tag} : ofSigil ['='] value = .ok tag ↔
    ∃ d, tag = .delimiters d ∧ Delimiters.parse value = .ok d ∧ d.Proper := by
  rw [ofSigil_set]
  cases Delimiters.parse value with
  | error e => simp [Except.bind]
  | ok d =>
    rw [Except.bind]
    split <;> rename_i hd
    · constructor
      · intro h
        exact ⟨d, (Except.ok.inj h).symm, rfl, hd⟩
      · rintro ⟨_, rfl, hparse, _⟩
        rw [Except.ok.inj hparse]
    · constructor
      · intro h
        cases h
      · rintro ⟨_, _, hparse, hd'⟩
        exact absurd (Except.ok.inj hparse ▸ hd') hd

theorem accepted_of_ofSigil {d : Delimiters} (h : ofSigil mark value = .ok (.delimiters d)) :
    Delimiters.parse value = .ok d ∧ d.Proper := by
  by_cases hmark : mark = ['=']
  · subst hmark
    obtain ⟨d', htag, hd⟩ := ofSigil_set_eq_ok_iff.mp h
    obtain rfl := Tag.delimiters.inj htag
    exact hd
  · unfold ofSigil at h
    split at h
    all_goals first | exact absurd rfl hmark | cases h

theorem exists_spec_of_ofSigil {e : TemplateError} (h : ofSigil mark value = .error e) :
    ∃ spec, e = .invalidDelimiters spec := by
  by_cases hmark : mark = ['=']
  · subst hmark
    rw [ofSigil_set] at h
    cases hparse : Delimiters.parse value with
    | error e' =>
      rw [hparse] at h
      obtain rfl := Except.error.inj h
      unfold Delimiters.parse at hparse
      split at hparse
      · cases hparse
      · exact ⟨value, (Except.error.inj hparse).symm⟩
    | ok d =>
      rw [hparse, Except.bind] at h
      split at h
      · cases h
      · exact ⟨_, (Except.error.inj h).symm⟩
  · unfold ofSigil at h
    split at h
    all_goals first | exact absurd rfl hmark | cases h

end Tag

end PostalAddress
