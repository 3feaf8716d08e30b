import PostalAddress.Proofs.Template.Reaching
import PostalAddress.Proofs.Template.Standalone

/-!
# Where a partial's tag stands on its line

The tag of a partial keeps what stands before it since the last literal newline: the letters, with
those that are not white space made spaces, whether there are such letters, and how many tags there
are. What a standalone line loses makes no difference to it, and neither does a newline in a tag.
-/

namespace PostalAddress

open Text

namespace Placement

/-- The placement says what the pieces before a tag on its line are. -/
structure Describes (placement : Placement) (line : List Piece) : Prop where
  indentation : placement.indentation =
    String.ofList ((line.filterMap Piece.letter?).map fun c => if isBlank c then c else ' ')
  lineHasContent : placement.lineHasContent ↔
    ∃ c ∈ line.filterMap Piece.letter?, isBlank c = false
  tagIndex : placement.tagIndex = line.countP Piece.isTag

theorem describes_start : start.Describes [] where
  indentation := rfl
  lineHasContent := by simp [start]
  tagIndex := rfl

variable {placement : Placement} {line : List Piece}

theorem Describes.after (h : placement.Describes line) (p : Piece) :
    (placement.after p).Describes (line ++ [p]) := by
  cases p with
  | tag t a =>
    have hletters : (line ++ [Piece.tag t a]).filterMap Piece.letter? =
        line.filterMap Piece.letter? := by
      simp [Piece.letter?]
    constructor
    · rw [hletters]
      exact h.indentation
    · rw [hletters]
      exact h.lineHasContent
    · rw [List.countP_append, ← h.tagIndex]
      rfl
  | letter c a =>
    have hletters : (line ++ [Piece.letter c a]).filterMap Piece.letter? =
        line.filterMap Piece.letter? ++ [c] := by
      simp [Piece.letter?]
    have htags : (line ++ [Piece.letter c a]).countP Piece.isTag = line.countP Piece.isTag :=
      List.countP_append
    constructor
    · rw [hletters, List.map_append, String.ofList_append, ← h.indentation, ← String.toList_inj]
      cases hc : isBlank c <;> simp [Placement.after, hc]
    · rw [hletters]
      cases hc : isBlank c <;> simp [Placement.after, hc, h.lineHasContent]
    · rw [htags, ← h.tagIndex]
      cases hc : isBlank c <;> simp [Placement.after, hc]

theorem Describes.foldl_after (h : placement.Describes line) (ps : List Piece) :
    (ps.foldl Placement.after placement).Describes (line ++ ps) := by
  induction ps generalizing placement line with
  | nil => rwa [List.append_nil]
  | cons p ps ih =>
    have hrest := ih (h.after p)
    rwa [List.append_assoc] at hrest

end Placement

namespace Piece

/-- A piece is a line before the others, or it belongs to the first of them. -/
theorem lines_cons_cases (p : Piece) (ps : List Piece) :
    (p.endsLine = true ∨ lines ps = []) ∧ lines (p :: ps) = [p] :: lines ps ∨
      p.endsLine = false ∧ ∃ l ls, lines ps = l :: ls ∧ lines (p :: ps) = (p :: l) :: ls := by
  rw [lines]
  cases p.endsLine with
  | true => exact .inl ⟨.inl rfl, rfl⟩
  | false =>
    cases lines ps with
    | nil => exact .inl ⟨.inr rfl, rfl⟩
    | cons l ls => exact .inr ⟨rfl, l, ls, rfl, rfl⟩

/-- Nothing follows the end of a line on the line. -/
theorem endsLine_of_mem_dropLast {ps line : List Piece} (h : line ∈ lines ps) :
    ∀ p ∈ line.dropLast, p.endsLine = false := by
  induction ps generalizing line with
  | nil => cases h
  | cons p ps ih =>
    obtain ⟨_, hcons⟩ | ⟨hends, l, ls, hlines, hcons⟩ := lines_cons_cases p ps
    · rw [hcons] at h
      obtain rfl | h := List.mem_cons.mp h
      · intro q hq
        cases hq
      · exact ih h
    · rw [hlines] at ih
      rw [hcons] at h
      obtain rfl | h := List.mem_cons.mp h
      · intro q hq
        cases l with
        | nil => cases hq
        | cons p' l =>
          obtain rfl | hq := List.mem_cons.mp hq
          · exact hends
          · exact ih List.mem_cons_self q hq
      · exact ih (List.mem_cons_of_mem l h)

theorem exists_of_endsLine {p : Piece} (h : p.endsLine = true) : ∃ a, p = .letter '\n' a := by
  cases p with
  | letter c a => exact ⟨a, by rw [of_decide_eq_true h]⟩
  | tag t a => cases h

/-- Every line but the last ends with a newline. -/
theorem getLast?_of_mem_dropLast {ps line : List Piece} (h : line ∈ (lines ps).dropLast) :
    ∃ a, line.getLast? = some (.letter '\n' a) := by
  induction ps generalizing line with
  | nil => cases h
  | cons p ps ih =>
    obtain ⟨hends, hcons⟩ | ⟨_, l, ls, hlines, hcons⟩ := lines_cons_cases p ps
    · have hne : lines ps ≠ [] := by
        intro hnil
        rw [hcons, hnil] at h
        cases h
      rw [hcons, List.dropLast_cons_of_ne_nil hne] at h
      obtain rfl | h := List.mem_cons.mp h
      · obtain ⟨a, rfl⟩ := exists_of_endsLine (hends.resolve_right hne)
        exact ⟨a, rfl⟩
      · exact ih h
    · rw [hlines] at ih
      rw [hcons] at h
      cases ls with
      | nil => cases h
      | cons l' ls =>
        obtain rfl | h := List.mem_cons.mp h
        · obtain ⟨a, ha⟩ := ih List.mem_cons_self
          exact ⟨a, by rw [List.getLast?_cons, ha, Option.getD_some]⟩
        · exact ih (List.mem_cons_of_mem l h)

/-- The pieces come apart at a piece of a line into earlier lines, what precedes the piece on its
line, and what follows it. -/
theorem exists_of_mem_lines {ps xs ys : List Piece} {p : Piece} (h : xs ++ p :: ys ∈ lines ps) :
    ∃ earlier after, ps = earlier ++ xs ++ p :: after ∧
      (earlier = [] ∨ ∃ a, earlier.getLast? = some (.letter '\n' a)) ∧
      ∀ a, .letter '\n' a ∉ xs := by
  obtain ⟨before, after, hlines⟩ := List.append_of_mem h
  have hps := flatten_lines ps
  rw [hlines, List.flatten_append, List.flatten_cons] at hps
  refine ⟨before.flatten, ys ++ after.flatten, by simp [← hps], ?_, fun a ha => ?_⟩
  · obtain rfl | ⟨ls, l, rfl⟩ := List.eq_nil_or_concat before
    · exact .inl rfl
    · have hmem : l ∈ (lines ps).dropLast := by
        rw [hlines, List.dropLast_append_of_ne_nil (List.cons_ne_nil _ _), List.concat_eq_append]
        simp
      obtain ⟨a, ha⟩ := getLast?_of_mem_dropLast hmem
      refine .inr ⟨a, ?_⟩
      rw [List.concat_eq_append, List.flatten_append, List.flatten_singleton,
        List.getLast?_append, ha, Option.some_or]
  · have hmem : Piece.letter '\n' a ∈ (xs ++ p :: ys).dropLast := by
      rw [List.dropLast_append_of_ne_nil (List.cons_ne_nil p ys)]
      exact List.mem_append_left _ ha
    cases endsLine_of_mem_dropLast h _ hmem

end Piece

namespace FlatToken

theorem Squashed.mem {ts us : List FlatToken} {t : FlatToken} (h : Squashed ts us) (hmem : t ∈ us)
    (ht : t.isText = false) : t ∈ ts := by
  obtain ⟨before, after, rfl⟩ := List.append_of_mem hmem
  obtain ⟨xs, ys, rfl, _⟩ := h.exists_of_append_cons ht
  simp

theorem mem_ofPieces {ps : List Piece} {before : Placement} {t : FlatToken}
    (h : t ∈ ofPieces before ps) :
    ∃ xs p ys, ps = xs ++ p :: ys ∧ t = ofPiece (xs.foldl .after before) p := by
  induction ps generalizing before with
  | nil => cases h
  | cons p ps ih =>
    obtain rfl | h := List.mem_cons.mp h
    · exact ⟨[], p, ps, rfl, rfl⟩
    · obtain ⟨xs, q, ys, rfl, rfl⟩ := ih h
      exact ⟨p :: xs, q, ys, rfl, rfl⟩

/-- A partial's tag keeps the placement that the pieces before it on its line lead to. -/
theorem exists_of_inclusion_mem_flat {ps : List Piece} {name : String} {placement : Placement}
    {span : Span} (h : .leaf (.inclusion name placement) span ∈ Piece.flat ps) :
    ∃ xs ys, xs ++ .tag (.inclusion name) span :: ys ∈ Piece.lines ps ∧
      placement = xs.foldl .after .start := by
  obtain ⟨line, hline, hmem⟩ := List.mem_flatMap.mp ((squashed _).mem h rfl)
  have hpieces : .leaf (.inclusion name placement) span ∈ ofPieces .start line := by
    unfold ofLine at hmem
    dsimp only at hmem
    split at hmem
    · exact List.mem_of_mem_filter hmem
    · exact hmem
  obtain ⟨xs, p, ys, rfl, htoken⟩ := mem_ofPieces hpieces
  cases p with
  | letter c a => cases htoken
  | tag t a =>
    cases t <;> cases htoken
    exact ⟨xs, ys, hline, rfl⟩

end FlatToken

/-- The placement of every partial's tag says what stands before the tag since the last literal
newline, or since the start of the source. -/
theorem Template.placement_of_compile {source : String} {d : Delimiters} {t : Template}
    (h : compile source d = .ok t) {name : String} {placement : Placement} {span : Span}
    (hmem : .leaf (.inclusion name placement) span ∈ t.inOrder) :
    Piece.Filled source.toList 0 (Pieces.read d 0 0 source.toList).list
        (byteLength source.toList) ∧
      ∃ earlier line after,
        (Pieces.read d 0 0 source.toList).list =
          earlier ++ line ++ .tag (.inclusion name) span :: after ∧
        (earlier = [] ∨ ∃ a, earlier.getLast? = some (.letter '\n' a)) ∧
        (∀ a, .letter '\n' a ∉ line) ∧
        placement.Describes line := by
  refine ⟨(texts_of_compile h).1, ?_⟩
  obtain ⟨_, _, _, ps, d', p', hread, hnest⟩ := compile_eq_ok_iff.mp h
  have hpieces : Pieces.read d 0 0 source.toList = ⟨ps, none⟩ := Pieces.read_of_reads hread
  obtain ⟨line, rest, hline, rfl⟩ :=
    FlatToken.exists_of_inclusion_mem_flat (hnest.leaf_mem hmem)
  obtain ⟨earlier, after, hps, hearlier, hsame⟩ := Piece.exists_of_mem_lines hline
  rw [hpieces]
  exact ⟨earlier, line, after, hps, hearlier, hsame, Placement.describes_start.foldl_after line⟩

/-- A letter of two bytes, a comment that takes up a newline, a closing tag and one that sets
delimiters stand on the line of the tag. -/
theorem Template.placement_of_compile_of_comment :
    ∃ source d t, source = "a\n <#x>é\t<! b\n ></x><=| |=> |>p|\n" ∧ d = ⟨"<", ">"⟩ ∧
      compile source d = .ok t ∧
      .leaf (.inclusion "p" ⟨"  \t ", 4, true⟩) ⟨29, 33⟩ ∈ t.inOrder ∧
      Piece.Filled source.toList 0 (Pieces.read d 0 0 source.toList).list
        (byteLength source.toList) ∧
      ∃ earlier line after,
        (Pieces.read d 0 0 source.toList).list =
          earlier ++ line ++ .tag (.inclusion "p") ⟨29, 33⟩ :: after ∧
        (earlier = [] ∨ ∃ a, earlier.getLast? = some (.letter '\n' a)) ∧
        (∀ a, .letter '\n' a ∉ line) ∧
        Placement.Describes ⟨"  \t ", 4, true⟩ line := by
  obtain ⟨source, hsource⟩ : ∃ s, s = "a\n <#x>é\t<! b\n ></x><=| |=> |>p|\n" := ⟨_, rfl⟩
  let tokens : List Token :=
    [.leaf (.text "a\n ") ⟨0, 3⟩,
      .block "x" false ⟨3, 7⟩ 17 [.leaf (.text "é\t") ⟨7, 10⟩, .leaf .comment ⟨10, 17⟩],
      .leaf (.delimiters ⟨"|", "|"⟩) ⟨21, 28⟩, .leaf (.text " ") ⟨28, 29⟩,
      .leaf (.inclusion "p" ⟨"  \t ", 4, true⟩) ⟨29, 33⟩, .leaf (.text "\n") ⟨33, 34⟩]
  have hcompile : compile source ⟨"<", ">"⟩ = .ok ⟨source, ⟨"<", ">"⟩, tokens⟩ := by
    subst hsource
    have hproper : Delimiters.Proper ⟨"<", ">"⟩ :=
      ⟨by decide, by decide, Delimiters.fits_of_short (by decide) (by decide) (by decide) (by decide)⟩
    rw [compile_of_proper hproper, flatTokens_eq]
    rfl
  have hmem : .leaf (.inclusion "p" ⟨"  \t ", 4, true⟩) ⟨29, 33⟩ ∈ Token.inOrderAll tokens := by
    simp [tokens, Token.inOrderAll, Token.inOrder]
  exact ⟨source, _, _, hsource, rfl, hcompile, hmem, placement_of_compile hcompile hmem⟩

end PostalAddress
