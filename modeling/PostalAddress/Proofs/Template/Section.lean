import PostalAddress.Proofs.Template.Compiling

/-!
# The source of a section

A lambda compiles the source between the tags of its section anew, while every other section is
rendered from the tokens compiled with the whole template. The two agree but for white space,
which may stand on a line of its own in one and not in the other.
-/

namespace PostalAddress

open Text

namespace Text

theorem exists_byteLength_cons (c : Char) (x : List Char) :
    ∃ n, byteLength (c :: x) = n + 1 ∧ c.utf8Size ≤ n + 1 ∧ n + 1 - c.utf8Size = byteLength x := by
  have hpos := c.utf8Size_pos
  refine ⟨byteLength (c :: x) - 1, ?_⟩
  rw [byteLength]
  omega

theorem dropBytes_append (x t : List Char) : dropBytes (byteLength x) (x ++ t) = some t := by
  induction x with
  | nil => simp [byteLength, dropBytes]
  | cons c x ih =>
    obtain ⟨n, hn, hle, hleft⟩ := exists_byteLength_cons c x
    rw [hn, List.cons_append, dropBytes, if_pos hle, hleft, ih]

theorem takeBytes_append (x t : List Char) : takeBytes (byteLength x) (x ++ t) = some x := by
  induction x with
  | nil => simp [byteLength, takeBytes]
  | cons c x ih =>
    obtain ⟨n, hn, hle, hleft⟩ := exists_byteLength_cons c x
    rw [hn, List.cons_append, takeBytes, if_pos hle, hleft, ih]
    rfl

theorem sliceBytes_append (x t u : List Char) :
    sliceBytes (byteLength x) (byteLength x + byteLength t) (x ++ (t ++ u)) = some t := by
  rw [sliceBytes, if_pos (Nat.le_add_right _ _), dropBytes_append, Option.bind_some,
    Nat.add_sub_cancel_left, takeBytes_append]

end Text

/-- Where a section stands in a source: its body is read by itself as it was read in the source. -/
theorem Reads.exists_body {d d' : Delimiters} {source : List Char} {ps : List Piece} {p' : Nat}
    {us : List Token} {x : Section} (h : Reads d ⟨source, 0⟩ ps d' ⟨[], p'⟩)
    (hnest : Nested (Piece.flat ps) us) (hx : x ∈ Token.sectionsIn d us) :
    ∃ body before qs after close d'',
      sliceBytes x.span.stop x.closeStart source = some body ∧ body.length < source.length ∧
      ps = before ++ .tag (.opening x.name x.inverted) x.span ::
        (qs.map (Piece.move x.span.stop) ++ .tag (.closing x.name) close :: after) ∧
      close.start = x.closeStart ∧ Reads x.delimiters ⟨body, 0⟩ qs d'' ⟨[], byteLength body⟩ ∧
      (∃ s, Reads d ⟨source, 0⟩ before x.delimiters s) ∧
      Nested (Piece.core (qs.map (Piece.move x.span.stop))) (Token.bares x.children) := by
  obtain ⟨before, body, after, close, hflat, hclose, hbody, hd⟩ := hnest.exists_of_section hx
  have hcore : Piece.core ps = before.filterMap FlatToken.bare ++
      .opening x.name x.inverted x.span :: (body.filterMap FlatToken.bare ++
        .closing x.name close :: after.filterMap FlatToken.bare) := by
    rw [← Piece.bare_flat, hflat, List.filterMap_append, List.filterMap_cons,
      List.filterMap_append, List.filterMap_cons]
    rfl
  obtain ⟨xs, p, rest, rfl, hxs, hp, hrest⟩ := Piece.core_eq_append_cons rfl hcore
  obtain rfl : p = .tag (.opening x.name x.inverted) x.span := Piece.eq_tag_of_bare_eq hp
  obtain ⟨ys, q, zs, rfl, hys, hq, _⟩ := Piece.core_eq_append_cons rfl hrest
  obtain rfl : q = .tag (.closing x.name) close := Piece.eq_tag_of_bare_eq hq
  obtain ⟨d₁, s₁, hbefore, h⟩ := h.split
  obtain ⟨_, _, s₁', htag, hstop, h⟩ := h.cons_tag
  obtain ⟨d₂, s₂, hread, h⟩ := h.split
  obtain ⟨hne, hstart, _⟩ := h.cons_tag
  -- The delimiters are told from the pieces before the section as from the tokens before it.
  have hdelims : x.delimiters = d₁ := by
    have hfold := FlatToken.blind_delimitersAfter.foldlM_bare before d
    rw [hd, hbefore.delimiters_eq, ← Piece.foldl_core, hxs]
    exact (Option.some.inj (List.foldlM_pure.symm.trans (hfold.trans List.foldlM_pure))).symm
  obtain ⟨start, hstart₁, hpos⟩ := hbefore.reaches.trans htag
  obtain ⟨text, htext, _⟩ := hread.reaches
  obtain ⟨rest₁, p₁⟩ := s₁'
  obtain ⟨rest₂, p₂⟩ := s₂
  simp only [Nat.zero_add] at hstart₁ hpos htext hstop hstart hne
  subst hstart₁ hpos htext
  obtain ⟨hend, qs, rfl, hqs⟩ := hread.cut_end hne
  refine ⟨text, xs, qs, zs, close, d₂, ?_, ?_, ?_, hclose, ?_, ?_, ?_⟩
  · rw [hstop, ← hclose, hstart, hend, sliceBytes_append]
  · have hlen := List.length_pos_iff.mpr hne
    simp only [List.length_append]
    omega
  · rw [hstop]
  · rw [hdelims]
    exact hqs
  · rw [hdelims]
    exact ⟨_, hbefore⟩
  · rw [hstop, hys]
    exact hbody.bare

theorem Nested.of_core_move {n : Nat} {qs : List Piece} {us : List Token}
    (h : Nested (Piece.core (qs.map (Piece.move n))) us) : ∃ us', Nested (Piece.flat qs) us' := by
  obtain ⟨us', h'⟩ := Piece.exists_nested_flat_iff.mpr (h.opened_eq [])
  have hopened := h'.opened_eq []
  rw [Piece.flat_move, List.foldlM_map] at hopened
  simp only [FlatToken.opened_move] at hopened
  exact Nested.exists_of_opened hopened

/-- The body of a section compiles with the delimiters in force there, and, but for white space and
the placement of partials, to what the section holds, as many bytes back as the body begins. -/
theorem Template.exists_compile_sectionSource {source : String} {d : Delimiters} {t : Template}
    (h : Template.compile source d = .ok t) {x : Section} (hx : x ∈ t.sections) :
    ∃ body t', Template.sectionSource source x.span x.closeStart = some body ∧
      Template.compile body x.delimiters = .ok t' ∧
      Token.bares (Token.moveAll x.span.stop t'.tokens) = Token.bares x.children := by
  obtain ⟨rfl, rfl, hproper, ps, d', p', hread, hnest⟩ := Template.compile_eq_ok_iff.mp h
  obtain ⟨body, before, qs, after, close, d'', hslice, hlen, rfl, _, hbody, ⟨s, hbefore⟩,
    hchildren⟩ :=
    hread.exists_body hnest hx
  obtain ⟨us, hus⟩ := Nested.of_core_move hchildren
  have hmoved := (hus.move x.span.stop).bare
  rw [← Piece.flat_move, Piece.bare_flat] at hmoved
  refine ⟨String.ofList body, ⟨String.ofList body, x.delimiters, us⟩, ?_, ?_, ?_⟩
  · rw [Template.sectionSource, hslice]
    rfl
  · refine Template.compile_eq_ok_iff.mpr ⟨rfl, rfl, fun _ => hbefore.proper (hproper ?_), qs, d'',
      _, by rwa [String.toList_ofList], hus⟩
    intro hsource
    rw [hsource] at hlen
    exact absurd hlen (Nat.not_lt_zero _)
  · exact hmoved.unique hchildren

/-- A tag that sets delimiters stands alone on its line, and a partial stands behind a letter. -/
theorem exists_compile_sectionSource_of_set_delimiters :
    ∃ t x, Template.compile "a\x7b\x7b#x\x7d\x7d\n\x7b\x7b=| |=\x7d\x7d\n b|>p||/x|" .braces = .ok t ∧
      x ∈ t.sections ∧
      ∃ body t', Template.sectionSource "a\x7b\x7b#x\x7d\x7d\n\x7b\x7b=| |=\x7d\x7d\n b|>p||/x|"
          x.span x.closeStart = some body ∧
        Template.compile body x.delimiters = .ok t' ∧
        Token.bares (Token.moveAll x.span.stop t'.tokens) = Token.bares x.children := by
  have hcompile :
      Template.compile "a\x7b\x7b#x\x7d\x7d\n\x7b\x7b=| |=\x7d\x7d\n b|>p||/x|" .braces =
        .ok ⟨"a\x7b\x7b#x\x7d\x7d\n\x7b\x7b=| |=\x7d\x7d\n b|>p||/x|", .braces,
          [.leaf (.text "a") ⟨0, 1⟩,
            .block "x" false ⟨1, 7⟩ 24
              [.leaf (.text "\n") ⟨7, 8⟩, .leaf (.delimiters ⟨"|", "|"⟩) ⟨8, 17⟩,
                .leaf (.text " b") ⟨18, 20⟩, .leaf (.inclusion "p" ⟨"  ", 0, true⟩) ⟨20, 24⟩]]⟩ := by
    rw [Template.compile_of_proper Delimiters.proper_braces, flatTokens_eq]
    rfl
  have hx := List.mem_cons_self (a := (⟨"x", false, ⟨1, 7⟩, 24,
    [.leaf (.text "\n") ⟨7, 8⟩, .leaf (.delimiters ⟨"|", "|"⟩) ⟨8, 17⟩,
      .leaf (.text " b") ⟨18, 20⟩, .leaf (.inclusion "p" ⟨"  ", 0, true⟩) ⟨20, 24⟩],
    .braces⟩ : Section)) (l := [])
  exact ⟨_, _, hcompile, hx, Template.exists_compile_sectionSource hcompile hx⟩

end PostalAddress
