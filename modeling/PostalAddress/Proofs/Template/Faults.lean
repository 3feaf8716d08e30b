import PostalAddress.Proofs.Template.Joining

/-!
# Where a source is at fault

A source that does not compile is at fault in one place, and what stands before that place is at no
fault of its own. Cut off there it compiles, or it misses no more than the end of the section that
is open.
-/

namespace PostalAddress

open Text

section Scanning

open Scanner

/-- Where nothing is left to be passed over up to a match, all of the text was passed over. -/
theorem Scanner.rest_scanPast_eq_nil {f : Front}
    (hf : ∀ t n, f t = some n → 0 < n ∧ n ≤ t.length) {s : Scanner}
    (h : (s.scanPast f.find?).1.2 = []) : (s.scanPast f.find?).2.rest = [] := by
  change ((s.scanUntil f.find?).2.scan f.find?).1 = [] at h
  change ((s.scanUntil f.find?).2.scan f.find?).2.rest = []
  cases hfind : f.find? s.rest with
  | none =>
    have hend : (s.scanUntil f.find?).2.rest = [] := by simp [scanUntil, hfind, advance]
    have hsuffix := (reaches_scan (s.scanUntil f.find?).2 f.find?).suffix
    rw [hend] at hsuffix
    exact List.suffix_nil.mp hsuffix
  | some m =>
    obtain ⟨i, n⟩ := m
    obtain ⟨_, hmatch⟩ := Front.find?_eq_some hfind
    obtain ⟨hpos, hle⟩ := hf _ n hmatch
    have huntil : s.scanUntil f.find? = s.advance i := by simp [scanUntil, hfind]
    rw [huntil, scan_find?, advance, hmatch] at h
    have hlength := congrArg List.length h
    simp only [advance, List.length_take, List.length_nil] at hlength
    omega

namespace Tag

variable {d : Delimiters} {s : Scanner}

theorem scanBody_eq_scanPast (d : Delimiters) (mark : List Char) (s : Scanner) :
    ∃ x : Scanner, (scanBody d mark s).1.2 = (x.scanPast (closingFront d).find?).1.2 ∧
      (scanBody d mark s).2 = (x.scanPast (closingFront d).find?).2 := by
  by_cases heq : mark = ['=']
  · subst heq
    exact ⟨_, rfl, rfl⟩
  · by_cases hbrace : mark = ['\x7b']
    · subst hbrace
      exact ⟨_, rfl, rfl⟩
    · rw [scanBody, scanValue, if_neg heq, if_neg hbrace]
      exact ⟨s, rfl, rfl⟩

theorem length_closingFront (hd : d.Proper) {t : List Char} {n : Nat}
    (h : closingFront d t = some n) : 0 < n ∧ n ≤ t.length := by
  refine ⟨?_, length_of_spaced h⟩
  obtain ⟨x, u, _, rfl, _⟩ := Front.spaced_split h
  have hpos := List.length_pos_iff.mpr (toList_ne_nil hd.2.1)
  rw [List.length_append]
  omega

theorem rest_scanParts_eq_nil (hd : d.Proper) (h : (scanParts d s).1.2.2 = []) :
    (scanParts d s).2.rest = [] := by
  obtain ⟨x, hclosed, hafter⟩ := scanBody_eq_scanPast d
    (((s.scan (openingFront d).find?).2.scan sigil.find?).1)
    ((((s.scan (openingFront d).find?).2.scan sigil.find?).2.scan Front.blanks.find?).2)
  exact (congrArg Scanner.rest hafter).trans
    (rest_scanPast_eq_nil (fun _ _ => length_closingFront hd) (hclosed.symm.trans h))

/-- A tag that cannot be read is not closed before the end of the text, or sets no two
delimiters. -/
theorem scan_eq_error (hd : d.Proper) {e : TemplateError} (h : Tag.scan d s = .error e) :
    e = .unclosedTag (s.position + byteLength s.rest) ∨ ∃ spec, e = .invalidDelimiters spec := by
  rw [scan_eq] at h
  split at h
  · rename_i hclosed
    left
    obtain rfl := Except.error.inj h
    obtain ⟨x, hx, hp⟩ := (cuts_scanParts d).reaches s
    rw [rest_scanParts_eq_nil hd (List.isEmpty_iff.mp hclosed), List.append_nil] at hx
    rw [hp, hx]
  · right
    cases htag : ofSigil (scanParts d s).1.1 (String.ofList (scanParts d s).1.2.1) with
    | ok tag =>
      rw [htag] at h
      cases h
    | error e' =>
      rw [htag] at h
      obtain rfl := Except.error.inj h
      exact exists_spec_of_ofSigil htag

end Tag

end Scanning

theorem Piece.map_move_zero (ps : List Piece) : ps.map (move 0) = ps := by
  have hmove : move 0 = id := by
    funext p
    cases p <;> rfl
  rw [hmove, List.map_id]

/-- What comes before a tag is read by itself where the source is cut off at the tag. -/
theorem Reads.exists_cut {d d' : Delimiters} {source : List Char} {s : Scanner} {t : Tag}
    {span : Span} {qs rs : List Piece}
    (h : Reads d ⟨source, 0⟩ (qs ++ .tag t span :: rs) d' s) :
    ∃ a b d₁, source = a ++ b ∧ span.start = byteLength a ∧
      Reads d ⟨a, 0⟩ qs d₁ ⟨[], byteLength a⟩ := by
  obtain ⟨d₁, ⟨b, p⟩, hqs, hrest⟩ := h.split
  obtain ⟨hne, hstart, _⟩ := hrest.cons_tag
  obtain ⟨a, rfl, _⟩ := hqs.reaches
  obtain ⟨rfl, qs, rfl, hread⟩ := hqs.cut_end hne
  rw [Nat.zero_add] at hstart
  rw [Piece.map_move_zero]
  exact ⟨a, b, d₁, rfl, hstart, hread⟩

/-- Sections are at fault first at a closing tag that does not close the innermost open one. -/
theorem exists_closing_of_openSections {names : List String} {ps : List Piece} {e : TemplateError}
    (h : openSections names ps = .error e) :
    ∃ qs name span rs, ps = qs ++ .tag (.closing name) span :: rs ∧
      (openSections names qs = .ok [] ∧ e = .unopenedSection name span.start ∨
        ∃ last rest, openSections names qs = .ok (last :: rest) ∧ last ≠ name ∧
          e = .unclosedSection last span.start) := by
  fun_induction openSections names ps with
  | case1 => cases h
  | case2 names name inverted span ps ih =>
    obtain ⟨qs, name', span', rs, rfl, hopen⟩ := ih h
    exact ⟨.tag (.opening name inverted) span :: qs, name', span', rs, rfl, hopen⟩
  | case3 name span ps =>
    obtain rfl := Except.error.inj h
    exact ⟨[], name, span, ps, rfl, .inl ⟨rfl, rfl⟩⟩
  | case4 span ps last rest ih =>
    obtain ⟨qs, name', span', rs, rfl, hopen⟩ := ih h
    refine ⟨.tag (.closing last) span :: qs, name', span', rs, rfl, ?_⟩
    rw [openSections, if_pos rfl]
    exact hopen
  | case5 name span ps last rest hne =>
    obtain rfl := Except.error.inj h
    exact ⟨[], name, span, ps, rfl, .inr ⟨last, rest, rfl, hne, rfl⟩⟩
  | case6 names p ps hopening hclosing ih =>
    obtain ⟨qs, name', span', rs, rfl, hopen⟩ := ih h
    refine ⟨p :: qs, name', span', rs, rfl, ?_⟩
    rw [openSections]
    · exact hopen
    · exact hopening
    · exact hclosing

namespace Template

variable {source : String} {d : Delimiters}

/-- A tag of the source begins `p` bytes into it. -/
def HasTagAt (source : String) (d : Delimiters) (t : Tag) (p : Nat) : Prop :=
  ∃ span, .tag t span ∈ (Pieces.read d 0 0 source.toList).list ∧ span.start = p

/-- What an error says about the source and about the part of it before the fault. -/
def FaultAt (source : String) (d : Delimiters) : TemplateError → Prop
  | .unclosedTag p => p = byteLength source.toList
  | .unopenedSection name p => ∃ a b, source = a ++ b ∧ p = byteLength a.toList ∧
      (∃ t, compile a d = .ok t) ∧ HasTagAt source d (.closing name) p
  | .unclosedSection name p => ∃ a b, source = a ++ b ∧ p = byteLength a.toList ∧
      compile a d = .error (.unclosedSection name p) ∧
      (p = byteLength source.toList ∨ ∃ name', name' ≠ name ∧ HasTagAt source d (.closing name') p)
  | .invalidDelimiters _ => True
  | .missingSource | .nestedTooDeeply => False

theorem compile_eq_error_iff (hd : d.Proper) {e : TemplateError} :
    compile source d = .error e ↔ flatTokens source.toList d = .error e := by
  rw [compile_of_proper hd]
  cases hflat : flatTokens source.toList d with
  | error e' => simp [Except.bind, Except.map]
  | ok ts =>
    obtain ⟨us, hus⟩ := exists_nested_of_flatTokens hflat
    simp [Except.bind, hus.nest_eq, Except.map]

theorem exists_compile_of_reads (hd : d.Proper) {qs : List Piece} {d' : Delimiters} {p : Nat}
    (hread : Reads d ⟨source.toList, 0⟩ qs d' ⟨[], p⟩) (hopen : openSections [] qs = .ok []) :
    ∃ t, compile source d = .ok t := by
  obtain ⟨us, hus⟩ := openSections_eq_nil_iff.mp hopen
  exact ⟨⟨source, d, us⟩, compile_eq_ok_iff.mpr ⟨rfl, rfl, fun _ => hd, qs, d', p, hread, hus⟩⟩

theorem compile_of_reads_open (hd : d.Proper) {qs : List Piece} {d' : Delimiters} {p : Nat}
    (hread : Reads d ⟨source.toList, 0⟩ qs d' ⟨[], p⟩) {name : String} {names : List String}
    (hopen : openSections [] qs = .ok (name :: names)) :
    compile source d = .error (.unclosedSection name (byteLength source.toList)) := by
  have hpieces := Pieces.read_of_reads hread
  dsimp only at hpieces
  rw [compile_eq_error_iff hd, flatTokens_eq, hpieces, hopen]
  rfl

theorem faultAt_of_openSections (hd : d.Proper) {e : TemplateError}
    (h : openSections [] (Pieces.read d 0 0 source.toList).list = .error e) :
    FaultAt source d e := by
  obtain ⟨d', s', hread, _⟩ := Pieces.exists_reads_read d ⟨source.toList, 0⟩
  obtain ⟨qs, name, span, rs, hlist, hfault⟩ := exists_closing_of_openSections h
  have htag : HasTagAt source d (.closing name) span.start :=
    ⟨span, by rw [hlist]; exact List.mem_append_right _ List.mem_cons_self, rfl⟩
  dsimp only at hread
  rw [hlist] at hread
  obtain ⟨a, b, d₁, hsource, hstart, hcut⟩ := hread.exists_cut
  have hparts : source = String.ofList a ++ String.ofList b := by
    rw [← String.ofList_append, ← hsource, String.ofList_toList]
  rw [← String.toList_ofList (l := a)] at hstart hcut
  obtain ⟨hopen, rfl⟩ | ⟨last, rest, hopen, hne, rfl⟩ := hfault
  · exact ⟨_, _, hparts, hstart, exists_compile_of_reads hd hcut hopen, htag⟩
  · refine ⟨_, _, hparts, hstart, ?_, .inr ⟨name, hne.symm, htag⟩⟩
    rw [compile_of_reads_open hd hcut hopen, hstart]

/-- A fault is that of a section at a closing tag or at the end, of a tag that is not closed, or of
delimiters. -/
theorem cases_of_compile_error {e : TemplateError} (h : compile source d = .error e) :
    (d.Proper ∧ openSections [] (Pieces.read d 0 0 source.toList).list = .error e) ∨
      (∃ name, e = .unclosedSection name (byteLength source.toList)) ∨
      e = .unclosedTag (byteLength source.toList) ∨ ∃ spec, e = .invalidDelimiters spec := by
  by_cases hd : d.Proper
  · rw [compile_eq_error_iff hd, flatTokens_eq] at h
    cases hopen : openSections [] (Pieces.read d 0 0 source.toList).list with
    | error e' =>
      rw [hopen] at h
      exact .inl ⟨hd, congrArg Except.error (Except.error.inj h)⟩
    | ok names =>
      rw [hopen, Except.bind] at h
      obtain ⟨d', s, hread, ⟨hfail, _⟩ | ⟨e', hfail, hscan⟩⟩ :=
        Pieces.exists_reads_read d ⟨source.toList, 0⟩
      · rw [hfail] at h
        cases names with
        | nil => cases h
        | cons name names => exact .inr (.inl ⟨name, (Except.error.inj h).symm⟩)
      · rw [hfail] at h
        obtain rfl := Except.error.inj h
        obtain ⟨x, hx, hp⟩ := hread.reaches
        have hend : s.position + byteLength s.rest = byteLength source.toList := by
          dsimp only at hx hp
          rw [hx, hp, byteLength_append, Nat.zero_add]
        obtain htag | hspec := Tag.scan_eq_error (hread.proper hd) hscan
        · exact .inr (.inr (.inl (hend ▸ htag)))
        · exact .inr (.inr (.inr hspec))
  · by_cases hne : source = ""
    · subst hne
      cases h
    · rw [compile_of_not_proper hne hd] at h
      exact .inr (.inr (.inr ⟨_, (Except.error.inj h).symm⟩))

theorem compile_ne_missingSource : compile source d ≠ .error .missingSource := by
  intro h
  obtain ⟨_, hopen⟩ | ⟨_, he⟩ | he | ⟨_, he⟩ := cases_of_compile_error h
  · obtain ⟨_, _, _, _, _, ⟨_, he⟩ | ⟨_, _, _, _, he⟩⟩ := exists_closing_of_openSections hopen
    · cases he
    · cases he
  · cases he
  · cases he
  · cases he

/-- A tag that is not closed is found at the end of the source. Before any other fault the source
compiles, but for a section that is left open and that the fault should have closed. -/
theorem faultAt_of_compile {e : TemplateError} (h : compile source d = .error e) :
    FaultAt source d e := by
  obtain ⟨hd, hopen⟩ | ⟨name, rfl⟩ | rfl | ⟨spec, rfl⟩ := cases_of_compile_error h
  · exact faultAt_of_openSections hd hopen
  · exact ⟨source, "", String.append_empty.symm, rfl, h, .inl rfl⟩
  · exact rfl
  · trivial

/-- A tag that closes another section stands before a tag that is not closed. -/
theorem faultAt_of_closing_another :
    compile "\u00e9\x7b\x7b#x\x7d\x7d\x7b\x7b/y\x7d\x7d\x7b\x7bz" .braces =
        .error (.unclosedSection "x" 8) ∧
      FaultAt "\u00e9\x7b\x7b#x\x7d\x7d\x7b\x7b/y\x7d\x7d\x7b\x7bz" .braces
        (.unclosedSection "x" 8) :=
  ⟨rfl, faultAt_of_compile rfl⟩

end Template

end PostalAddress
