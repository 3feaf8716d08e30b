import PostalAddress.Proofs.Text.Locality
import PostalAddress.Template.Piece

/-!
# Scanning a text that is cut off

`Takes s x s'` says that a scanner goes from `s` to `s'` by passing over the text `x`, and
`Reaches s s'` that it does so over some text. An operation `Cuts` when its outcome is decided by
the characters it passes over: what it does in a text it also does, at any other position, where the
text is cut off after them. Scanning for a local front is of this kind, and so is the reading of a
tag.
-/

namespace PostalAddress

open Text

@[simp] theorem Text.byteLength_append (s t : List Char) :
    byteLength (s ++ t) = byteLength s + byteLength t := by
  induction s with
  | nil => simp [byteLength]
  | cons c r ih => simp [byteLength, ih, Nat.add_assoc]

namespace Scanner

variable {α β : Type}

def Reaches (s s' : Scanner) : Prop :=
  ∃ x, s.rest = x ++ s'.rest ∧ s'.position = s.position + byteLength x

theorem Reaches.refl (s : Scanner) : s.Reaches s := ⟨[], rfl, rfl⟩

theorem Reaches.trans {s s' s'' : Scanner} (h : s.Reaches s') (h' : s'.Reaches s'') :
    s.Reaches s'' := by
  obtain ⟨x, hx, hp⟩ := h
  obtain ⟨y, hy, hp'⟩ := h'
  refine ⟨x ++ y, by rw [hx, hy, List.append_assoc], ?_⟩
  rw [hp', hp, byteLength_append, Nat.add_assoc]

theorem Reaches.suffix {s s' : Scanner} (h : s.Reaches s') : s'.rest <:+ s.rest := by
  obtain ⟨x, hx, _⟩ := h
  exact ⟨x, hx.symm⟩

/-- The scanner passes over `x`. -/
structure Takes (s : Scanner) (x : List Char) (s' : Scanner) : Prop where
  rest_eq : s.rest = x ++ s'.rest
  position_eq : s'.position = s.position + byteLength x

section Takes

variable {s s' s'' : Scanner} {x y : List Char}

theorem Takes.nil (s : Scanner) : s.Takes [] s := ⟨rfl, rfl⟩

theorem Takes.append (h : s.Takes x s') (h' : s'.Takes y s'') : s.Takes (x ++ y) s'' where
  rest_eq := by rw [h.rest_eq, h'.rest_eq, List.append_assoc]
  position_eq := by rw [h'.position_eq, h.position_eq, byteLength_append, Nat.add_assoc]

theorem Takes.reaches (h : s.Takes x s') : s.Reaches s' := ⟨x, h.rest_eq, h.position_eq⟩

theorem takes_advance (s : Scanner) (n : Nat) : s.Takes (s.advance n).1 (s.advance n).2 :=
  ⟨(List.take_append_drop n s.rest).symm, rfl⟩

theorem takes_scan (s : Scanner) (find : Finder) : s.Takes (s.scan find).1 (s.scan find).2 := by
  unfold scan
  split
  · exact takes_advance s _
  · exact Takes.nil s

theorem takes_scanUntil (s : Scanner) (find : Finder) :
    s.Takes (s.scanUntil find).1 (s.scanUntil find).2 := by
  unfold scanUntil
  split
  · exact takes_advance s _
  · exact takes_advance s _

end Takes

theorem reaches_scan (s : Scanner) (find : Finder) : s.Reaches (s.scan find).2 :=
  (takes_scan s find).reaches

theorem reaches_scanUntil (s : Scanner) (find : Finder) : s.Reaches (s.scanUntil find).2 :=
  (takes_scanUntil s find).reaches

structure Cuts (op : Scanner → α × Scanner) : Prop where
  reaches : ∀ s : Scanner, s.Reaches (op s).2
  cut : ∀ t u p q, u ≠ [] → u <:+ (op ⟨t ++ u, p⟩).2.rest →
    ∃ v k, (op ⟨t ++ u, p⟩).2 = ⟨v ++ u, p + k⟩ ∧
      op ⟨t, q⟩ = ((op ⟨t ++ u, p⟩).1, ⟨v, q + k⟩)

theorem advance_append {t u : List Char} {n : Nat} (hn : n ≤ t.length) (p : Nat) :
    advance ⟨t ++ u, p⟩ n = (t.take n, ⟨t.drop n ++ u, p + byteLength (t.take n)⟩) := by
  simp only [advance, List.take_append_of_le_length hn, List.drop_append_of_le_length hn]

theorem advance_eq (t : List Char) (n p : Nat) :
    advance ⟨t, p⟩ n = (t.take n, ⟨t.drop n, p + byteLength (t.take n)⟩) := rfl

/-- A scanner that has not passed the beginning of `u` is still before it. -/
theorem le_length_of_suffix_drop {t u : List Char} {n : Nat} (hu : u ≠ [])
    (h : u <:+ (t ++ u).drop n) : n ≤ t.length := by
  have hpos : 0 < u.length := List.length_pos_iff.mpr hu
  have hlen := h.length_le
  rw [List.length_drop, List.length_append] at hlen
  omega

theorem Cuts.pure (a : α) : Cuts fun s => (a, s) where
  reaches s := Reaches.refl s
  cut t _ _ _ _ _ := ⟨t, 0, rfl, rfl⟩

theorem Cuts.bind {op : Scanner → α × Scanner} {next : α → Scanner → β × Scanner} (h : Cuts op)
    (hn : ∀ a, Cuts (next a)) : Cuts fun s => next (op s).1 (op s).2 where
  reaches s := (h.reaches s).trans ((hn _).reaches _)
  cut t u p q hu hsuf := by
    have hmid : u <:+ (op ⟨t ++ u, p⟩).2.rest := hsuf.trans ((hn _).reaches _).suffix
    obtain ⟨v, k, hv, hop⟩ := h.cut t u p q hu hmid
    rw [hv] at hsuf
    obtain ⟨w, l, hw, hnext⟩ := (hn _).cut v u (p + k) (q + k) hu hsuf
    refine ⟨w, k + l, ?_, ?_⟩
    · rw [hv, hw, Nat.add_assoc]
    · rw [hop, hnext, hv, Nat.add_assoc]

theorem scan_find? (f : Front) (s : Scanner) : s.scan f.find? =
    match f s.rest with
    | some n => s.advance n
    | none => ([], s) := by
  cases hf : f s.rest with
  | some n =>
    rw [scan, Front.find?_eq_some_zero_iff.mpr hf]
    rfl
  | none =>
    unfold scan
    split
    · rename_i n hn
      rw [Front.find?_eq_some_zero_iff, hf] at hn
      cases hn
    · rfl

theorem cuts_scan {f : Front} (hf : f.Local) : Cuts fun s => s.scan f.find? where
  reaches s := reaches_scan s _
  cut t u p q hu hsuf := by
    simp only [scan_find?] at hsuf ⊢
    cases hft : f (t ++ u) with
    | none =>
      rw [hf.none_of_append t u hft]
      exact ⟨t, 0, rfl, rfl⟩
    | some n =>
      rw [hft] at hsuf
      have hn : n ≤ t.length := le_length_of_suffix_drop hu hsuf
      rw [hf.keeps t u n hft hn]
      dsimp only
      rw [advance_append hn]
      exact ⟨t.drop n, byteLength (t.take n), rfl, rfl⟩

/-- Scanning up to a match is decided by what is passed over when the match is passed over too. -/
theorem cuts_scanUntil_then {f : Front} (hf : f.Local)
    {next : List Char → Scanner → β × Scanner} (hn : ∀ x, Cuts (next x))
    (hpast : ∀ x s n, f s.rest = some n → (next x s).2.rest.length + n ≤ s.rest.length) :
    Cuts fun s => next (s.scanUntil f.find?).1 (s.scanUntil f.find?).2 where
  reaches s := (reaches_scanUntil s _).trans ((hn _).reaches _)
  cut t u p q hu hsuf := by
    cases hft : f.find? (t ++ u) with
    | none =>
      have hend : (scanUntil ⟨t ++ u, p⟩ f.find?).2.rest = [] := by
        simp [scanUntil, hft, advance]
      have hnil : u <:+ [] := hend ▸ hsuf.trans ((hn _).reaches _).suffix
      exact absurd (List.suffix_nil.mp hnil) hu
    | some m =>
      obtain ⟨i, n⟩ := m
      have hscan : scanUntil ⟨t ++ u, p⟩ f.find? = advance ⟨t ++ u, p⟩ i := by
        simp [scanUntil, hft]
      obtain ⟨hi, hfi⟩ := Front.find?_eq_some hft
      rw [hscan] at hsuf ⊢
      have hin : i + n ≤ t.length := by
        have hlen := hpast ((t ++ u).take i) (advance ⟨t ++ u, p⟩ i).2 n hfi
        have hle := hsuf.length_le
        simp only [advance_eq, List.length_drop, List.length_append] at hlen hle hi
        omega
      have hit : i ≤ t.length := Nat.le_trans (Nat.le_add_right i n) hin
      have hcut : scanUntil ⟨t, q⟩ f.find? = advance ⟨t, q⟩ i := by
        simp [scanUntil, Front.find?_keeps hf hft hin]
      rw [advance_append hit] at hsuf ⊢
      rw [hcut, advance_eq]
      obtain ⟨v, k, hv, hnext⟩ :=
        (hn _).cut (t.drop i) u _ (q + byteLength (t.take i)) hu hsuf
      refine ⟨v, byteLength (t.take i) + k, ?_, ?_⟩
      · rw [hv, Nat.add_assoc]
      · rw [hnext, Nat.add_assoc]

/-- Scanning up to a match and over it. -/
def scanPast (find : Finder) (s : Scanner) : (List Char × List Char) × Scanner :=
  let (x, s) := s.scanUntil find
  let (m, s) := s.scan find
  ((x, m), s)

theorem rest_scanPast {f : Front} {s : Scanner} {n : Nat} (h : f s.rest = some n) :
    (s.scanPast f.find?).2.rest = s.rest.drop n := by
  have huntil : s.scanUntil f.find? = ([], s) := by
    simp [scanUntil, Front.find?_eq_some_zero_iff.mpr h, advance, byteLength]
  simp only [scanPast, huntil, scan_find?, h, advance]

theorem cuts_scanPast {f : Front} (hf : f.Local) (hlen : ∀ t n, f t = some n → n ≤ t.length) :
    Cuts (scanPast f.find?) := by
  have hnext : ∀ x : List Char,
      Cuts fun s : Scanner => ((x, (s.scan f.find?).1), (s.scan f.find?).2) :=
    fun x => (cuts_scan hf).bind fun m => Cuts.pure (x, m)
  apply cuts_scanUntil_then hf hnext
  intro x s n hn
  have hle : n ≤ s.rest.length := hlen s.rest n hn
  simp only [scan_find?, hn, advance, List.length_drop]
  omega

end Scanner

namespace Tag

open Scanner

theorem local_openingFront (d : Delimiters) : (openingFront d).Local :=
  (Front.local_exactly _).andThen_run isBlank

theorem local_closingFront (d : Delimiters) : (closingFront d).Local := Front.local_spaced _

theorem local_sigil : sigil.Local where
  keeps t u n h hn := by
    cases t with
    | nil =>
      obtain rfl : n = 0 := Nat.le_zero.mp hn
      cases u with
      | nil => exact h
      | cons c r => simp [sigil] at h
    | cons c r => exact h
  none_of_append t u h := by
    cases t with
    | nil => rfl
    | cons c r => exact h

theorem length_of_spaced {x t : List Char} {n : Nat} (h : Front.spaced x t = some n) :
    n ≤ t.length := by
  obtain ⟨s, u, rfl, rfl, _⟩ := Front.spaced_split h
  exact (List.prefix_append (s ++ x) u).length_le

/-- A brace and a delimiter are matched by the brace alone and then by the delimiter alone. -/
theorem spaced_brace {x t : List Char} {n : Nat} (h : Front.spaced ('\x7d' :: x) t = some n) :
    ∃ s u, t = s ++ '\x7d' :: (x ++ u) ∧ n = s.length + 1 + x.length ∧
      Front.spaced ['\x7d'] t = some (s.length + 1) := by
  induction t generalizing n with
  | nil => simp [Front.spaced, Front.exactly] at h
  | cons c r ih =>
    have hexact : Front.exactly ('\x7d' :: x) (c :: r) = some n →
        c = '\x7d' ∧ ∃ u, r = x ++ u ∧ n = 0 + 1 + x.length := by
      intro hn
      obtain ⟨⟨u, hu⟩, rfl⟩ := Front.exactly_eq_some_iff.mp hn
      obtain ⟨rfl, rfl⟩ := List.cons_eq_cons.mp hu
      refine ⟨rfl, u, rfl, ?_⟩
      simp only [List.length_cons]
      omega
    rw [Front.spaced] at h ⊢
    split at h
    · rename_i hb
      have hc : ¬ c = '\x7d' := by
        rintro rfl
        exact absurd hb (by decide)
      split at h
      · rename_i m hm
        obtain ⟨s, u, rfl, rfl, hs⟩ := ih hm
        obtain rfl : s.length + 1 + x.length + 1 = n := Option.some.inj h
        refine ⟨c :: s, u, rfl, ?_, ?_⟩
        · simp only [List.length_cons]
          omega
        · rw [if_pos hb, hs]
          rfl
      · exact absurd (hexact h).1 hc
    · rename_i hb
      obtain ⟨rfl, u, rfl, rfl⟩ := hexact h
      refine ⟨[], u, rfl, rfl, ?_⟩
      rw [if_neg hb]
      rfl

theorem exists_spaced_append (x u : List Char) :
    ∃ m, Front.spaced x (x ++ u) = some m ∧ x.length ≤ m := by
  have hexact : Front.exactly x (x ++ u) = some x.length :=
    Front.exactly_eq_some_iff.mpr ⟨List.prefix_append x u, rfl⟩
  cases ht : x ++ u with
  | nil => exact ⟨x.length, by rw [Front.spaced, ← ht, hexact], Nat.le_refl _⟩
  | cons c r =>
    rw [ht] at hexact
    rw [Front.spaced]
    split
    · split
      · rename_i m hm
        obtain ⟨s, v, _, rfl, _⟩ := Front.spaced_split hm
        exact ⟨_, rfl, by rw [List.length_append]; omega⟩
      · exact ⟨x.length, hexact, Nat.le_refl _⟩
    · exact ⟨x.length, hexact, Nat.le_refl _⟩

/-- The value of a tag and its closing delimiter. -/
def scanBody (d : Delimiters) (mark : List Char) (s : Scanner) :
    (List Char × List Char) × Scanner :=
  let (value, s) := scanValue d mark s
  let (closed, s) := s.scan (closingFront d).find?
  ((value, closed), s)

/-- Scanning over a brace and then over the closing delimiter passes what both match together. -/
theorem length_skip_brace {d : Delimiters} {s : Scanner} {n : Nat}
    (h : Front.spaced ('\x7d' :: d.closing.toList) s.rest = some n) :
    (scanPast (closingFront d).find? (s.scan (Front.spaced ['\x7d']).find?).2).2.rest.length + n ≤
      s.rest.length := by
  obtain ⟨x, u, hrest, rfl, hbrace⟩ := spaced_brace h
  obtain ⟨m, hm, hle⟩ := exists_spaced_append d.closing.toList u
  have hdrop : s.rest.drop (x.length + 1) = d.closing.toList ++ u := by
    rw [hrest, ← List.drop_drop, List.drop_left]
    rfl
  have hskip : (s.scan (Front.spaced ['\x7d']).find?).2.rest = d.closing.toList ++ u := by
    rw [scan_find?, hbrace]
    exact hdrop
  have hclosing : closingFront d (s.scan (Front.spaced ['\x7d']).find?).2.rest = some m := by
    rw [hskip]
    exact hm
  rw [rest_scanPast hclosing, hskip, hrest]
  simp only [List.length_drop, List.length_append, List.length_cons]
  omega

theorem cuts_scanBody (d : Delimiters) (mark : List Char) : Cuts (scanBody d mark) := by
  have hclosing : Cuts (scanPast (closingFront d).find?) :=
    cuts_scanPast (local_closingFront d) fun _ _ => length_of_spaced
  by_cases heq : mark = ['=']
  · subst heq
    exact (cuts_scanPast (Front.local_spaced ['=']) fun _ _ => length_of_spaced).bind
      fun a => hclosing.bind fun b => Cuts.pure (a.1, b.2)
  · by_cases hbrace : mark = ['\x7b']
    · subst hbrace
      have hnext : ∀ x : List Char, Cuts fun s : Scanner =>
          ((x, (scanPast (closingFront d).find? (s.scan (Front.spaced ['\x7d']).find?).2).1.2),
            (scanPast (closingFront d).find? (s.scan (Front.spaced ['\x7d']).find?).2).2) :=
        fun x => (cuts_scan (Front.local_spaced ['\x7d'])).bind
          fun _ => hclosing.bind fun b => Cuts.pure (x, b.2)
      exact cuts_scanUntil_then (Front.local_spaced ('\x7d' :: d.closing.toList)) hnext
        fun _ _ _ h => length_skip_brace h
    · have hbody : scanBody d mark = scanPast (closingFront d).find? := by
        funext s
        rw [scanBody, scanValue, if_neg heq, if_neg hbrace]
        rfl
      rw [hbody]
      exact hclosing

/-- The sigil of a tag, its value and its closing delimiter. -/
def scanParts (d : Delimiters) (s : Scanner) :
    (List Char × List Char × List Char) × Scanner :=
  let (_, s) := s.scan (openingFront d).find?
  let (mark, s) := s.scan sigil.find?
  let (_, s) := s.scan Front.blanks.find?
  let ((value, closed), s) := scanBody d mark s
  ((mark, value, closed), s)

theorem cuts_scanParts (d : Delimiters) : Cuts (scanParts d) :=
  (cuts_scan (local_openingFront d)).bind fun _ =>
    (cuts_scan local_sigil).bind fun mark =>
      (cuts_scan (Front.local_run isBlank)).bind fun _ =>
        (cuts_scanBody d mark).bind fun a => Cuts.pure (mark, a.1, a.2)

theorem scan_eq (d : Delimiters) (s : Scanner) :
    Tag.scan d s =
      if (scanParts d s).1.2.2.isEmpty then .error (.unclosedTag (scanParts d s).2.position)
      else (ofSigil (scanParts d s).1.1 (String.ofList (scanParts d s).1.2.1)).map
        fun tag => (tag, (scanParts d s).2) := by
  unfold Tag.scan
  change (if (scanParts d s).1.2.2.isEmpty then _ else _) = _
  split
  · rfl
  · cases h : ofSigil (scanParts d s).1.1 (String.ofList (scanParts d s).1.2.1) with
    | error e => exact h ▸ rfl
    | ok tag => exact h ▸ rfl

theorem scan_eq_ok_iff {d : Delimiters} {s s' : Scanner} {tag : Tag} :
    Tag.scan d s = .ok (tag, s') ↔ ∃ mark value closed,
      scanParts d s = ((mark, value, closed), s') ∧ closed ≠ [] ∧
        ofSigil mark (String.ofList value) = .ok tag := by
  rw [scan_eq]
  obtain ⟨⟨mark, value, closed⟩, after⟩ := scanParts d s
  constructor
  · intro h
    dsimp only at h
    split at h
    · cases h
    · rename_i hclosed
      cases htag : ofSigil mark (String.ofList value) with
      | error e => rw [htag] at h; cases h
      | ok tag' =>
        rw [htag] at h
        obtain ⟨rfl, rfl⟩ : tag' = tag ∧ after = s' := by simpa [Except.map] using h
        exact ⟨mark, value, closed, rfl, by simpa using hclosed, htag⟩
  · rintro ⟨mark', value', closed', hparts, hclosed, htag⟩
    obtain ⟨⟨rfl, rfl, rfl⟩, rfl⟩ : (mark = mark' ∧ value = value' ∧ closed = closed') ∧
        after = s' := by simpa using hparts
    dsimp only
    rw [if_neg (by simpa using hclosed), htag]
    rfl

/-- A tag is read in the same way where the source is cut off after it. -/
theorem scan_cut {d : Delimiters} {t u : List Char} {p : Nat} {tag : Tag} {s : Scanner}
    (h : Tag.scan d ⟨t ++ u, p⟩ = .ok (tag, s)) (hu : u ≠ []) (hsuf : u <:+ s.rest) (q : Nat) :
    ∃ v k, s = ⟨v ++ u, p + k⟩ ∧ Tag.scan d ⟨t, q⟩ = .ok (tag, ⟨v, q + k⟩) := by
  obtain ⟨mark, value, closed, hparts, hclosed, htag⟩ := scan_eq_ok_iff.mp h
  have hrest : u <:+ (scanParts d ⟨t ++ u, p⟩).2.rest := by rwa [hparts]
  obtain ⟨v, k, hv, hcut⟩ := (cuts_scanParts d).cut t u p q hu hrest
  rw [hparts] at hv hcut
  exact ⟨v, k, hv, scan_eq_ok_iff.mpr ⟨mark, value, closed, hcut, hclosed, htag⟩⟩

theorem reaches_scanTag {d : Delimiters} {s s' : Scanner} {tag : Tag}
    (h : Tag.scan d s = .ok (tag, s')) : s.Reaches s' := by
  obtain ⟨mark, value, closed, hparts, _⟩ := scan_eq_ok_iff.mp h
  have hreach := (cuts_scanParts d).reaches s
  rwa [hparts] at hreach

theorem reaches_scanValue (d : Delimiters) (mark : List Char) (s : Scanner) :
    s.Reaches (scanValue d mark s).2 := by
  unfold scanValue skipTo
  split
  · exact (reaches_scanUntil _ _).trans ((reaches_scan _ _).trans (reaches_scanUntil _ _))
  · split
    · exact (reaches_scanUntil _ _).trans ((reaches_scan _ _).trans (reaches_scanUntil _ _))
    · exact reaches_scanUntil _ _

/-- A tag takes its opening delimiter and at least one character more. -/
theorem length_scanTag {d : Delimiters} {s s' : Scanner} {tag : Tag}
    (h : Tag.scan d s = .ok (tag, s')) (hd : d.opening.toList <+: s.rest) :
    s'.rest.length + d.opening.toList.length < s.rest.length := by
  obtain ⟨mark, value, closed, hparts, hclosed, _⟩ := scan_eq_ok_iff.mp h
  let s₁ := (s.scan (openingFront d).find?).2
  let s₂ := (s₁.scan sigil.find?).2
  let s₃ := (s₂.scan Front.blanks.find?).2
  let s₄ := (scanValue d (s₁.scan sigil.find?).1 s₃).2
  have hopening : s₁.rest.length + d.opening.toList.length ≤ s.rest.length := by
    have hfront : openingFront d s.rest = some (d.opening.toList.length +
        ((s.rest.drop d.opening.toList.length).takeWhile isBlank).length) := by
      simp [openingFront, Front.andThen, Front.exactly_eq_some_iff.mpr ⟨hd, rfl⟩, Front.blanks,
        Front.run]
    have hle := hd.length_le
    simp only [s₁, scan_find?, hfront, advance, List.length_drop]
    omega
  have hreach : s₁.Reaches s₄ :=
    (reaches_scan s₁ _).trans ((reaches_scan s₂ _).trans (reaches_scanValue d _ s₃))
  have hle : s₄.rest.length ≤ s₁.rest.length := hreach.suffix.length_le
  have hlast : (s₄.scan (closingFront d).find?).1.length + s'.rest.length = s₄.rest.length := by
    have happend := congrArg List.length (takes_scan s₄ (closingFront d).find?).rest_eq.symm
    rw [List.length_append] at happend
    have hs' : (s₄.scan (closingFront d).find?).2 = s' := congrArg Prod.snd hparts
    rwa [hs'] at happend
  have hpos : 0 < (s₄.scan (closingFront d).find?).1.length := by
    have hc : (s₄.scan (closingFront d).find?).1 = closed := congrArg (·.1.2.2) hparts
    rw [hc]
    exact List.length_pos_iff.mpr hclosed
  omega

end Tag

end PostalAddress
