import PostalAddress.Proofs.Template.Bare

/-!
# The flat tokens of pieces

`Piece.flat` gives the flat tokens that are nested when a source is compiled, and `Piece.core` what
is bare of them, which can be told from each piece alone. A source compiles when it is read to its
end and its flat tokens nest; `compile_eq_ok_iff` says so without the order of the checks.
-/

namespace PostalAddress

open Text

namespace Piece

def flat (ps : List Piece) : List FlatToken :=
  FlatToken.squash ((lines ps).flatMap FlatToken.ofLine)

def bare (p : Piece) : Option FlatToken := (FlatToken.ofPiece .start p).bare

def core (ps : List Piece) : List FlatToken := FlatToken.squash (ps.filterMap bare)

theorem bare_ofPiece (before : Placement) (p : Piece) :
    (FlatToken.ofPiece before p).bare = p.bare := by
  cases p with
  | letter c span => rfl
  | tag t span => cases t <;> rfl

theorem bare_ofPieces (before : Placement) (ps : List Piece) :
    (FlatToken.ofPieces before ps).filterMap FlatToken.bare = ps.filterMap bare := by
  induction ps generalizing before with
  | nil => rfl
  | cons p ps ih =>
    rw [FlatToken.ofPieces, List.filterMap_cons, List.filterMap_cons, bare_ofPiece, ih]

theorem bare_eq_none_of_isQuiet {p : Piece} {before : Placement} (h : p.isQuiet = true)
    (ht : (FlatToken.ofPiece before p).isText = true) : p.bare = none := by
  cases p with
  | letter c span =>
    have hblank : isBlank c = true := h
    exact FlatToken.bare_text_of_blank (by simp [hblank]) span
  | tag t span => cases t <;> cases ht

theorem bare_filter_ofPieces {ps : List Piece} (h : ps.all isQuiet = true) (before : Placement) :
    ((FlatToken.ofPieces before ps).filter (!·.isText)).filterMap FlatToken.bare =
      ps.filterMap bare := by
  induction ps generalizing before with
  | nil => rfl
  | cons p ps ih =>
    rw [List.all_cons, Bool.and_eq_true] at h
    rw [FlatToken.ofPieces, List.filter_cons]
    cases ht : (FlatToken.ofPiece before p).isText with
    | true =>
      rw [List.filterMap_cons_none (bare_eq_none_of_isQuiet h.1 ht)]
      exact ih h.2 _
    | false =>
      rw [Bool.not_false, if_pos rfl, List.filterMap_cons, List.filterMap_cons, bare_ofPiece,
        ih h.2]

theorem bare_ofLine (line : List Piece) :
    (FlatToken.ofLine line).filterMap FlatToken.bare = line.filterMap bare := by
  cases h : isStandalone line with
  | true =>
    rw [FlatToken.ofLine, if_pos h]
    rw [isStandalone, Bool.and_eq_true] at h
    exact bare_filter_ofPieces h.2 .start
  | false =>
    rw [FlatToken.ofLine, if_neg (by simp [h])]
    exact bare_ofPieces .start line

theorem bare_flatMap_ofLine (ls : List (List Piece)) :
    (ls.flatMap FlatToken.ofLine).filterMap FlatToken.bare = ls.flatten.filterMap bare := by
  induction ls with
  | nil => rfl
  | cons l ls ih =>
    rw [List.flatMap_cons, List.filterMap_append, bare_ofLine, ih, List.flatten_cons,
      List.filterMap_append]

theorem bare_flat (ps : List Piece) : (flat ps).filterMap FlatToken.bare = core ps := by
  rw [flat, ← FlatToken.squash_filterMap_bare, bare_flatMap_ofLine, flatten_lines, core]

section Move

variable (n : Nat)

theorem ofPiece_move (before : Placement) (p : Piece) :
    FlatToken.ofPiece before (p.move n) = (FlatToken.ofPiece before p).move n := by
  cases p with
  | letter c span => rfl
  | tag t span => cases t <;> rfl

theorem after_move (before : Placement) (p : Piece) :
    before.after (p.move n) = before.after p := by
  cases p <;> rfl

theorem isTag_move (p : Piece) : (p.move n).isTag = p.isTag := by
  cases p <;> rfl

theorem isQuiet_move (p : Piece) : (p.move n).isQuiet = p.isQuiet := by
  cases p with
  | letter c span => rfl
  | tag t span => cases t <;> rfl

theorem endsLine_move (p : Piece) : (p.move n).endsLine = p.endsLine := by
  cases p <;> rfl

theorem ofPieces_move (before : Placement) (ps : List Piece) :
    FlatToken.ofPieces before (ps.map (move n)) =
      (FlatToken.ofPieces before ps).map (FlatToken.move n) := by
  induction ps generalizing before with
  | nil => rfl
  | cons p ps ih =>
    rw [List.map_cons, FlatToken.ofPieces, FlatToken.ofPieces, ofPiece_move, after_move, ih]
    rfl

theorem isStandalone_move (line : List Piece) :
    isStandalone (line.map (move n)) = isStandalone line := by
  simp only [isStandalone, List.any_map, List.all_map, Function.comp_def, isTag_move, isQuiet_move]

theorem ofLine_move (line : List Piece) :
    FlatToken.ofLine (line.map (move n)) = (FlatToken.ofLine line).map (FlatToken.move n) := by
  rw [FlatToken.ofLine, FlatToken.ofLine, isStandalone_move, ofPieces_move]
  split
  · simp only [List.filter_map, Function.comp_def, FlatToken.isText_move]
  · rfl

theorem consHead_move (p : Piece) (ls : List (List Piece)) :
    consHead (p.move n) (ls.map (List.map (move n))) = (consHead p ls).map (List.map (move n)) := by
  cases ls <;> rfl

theorem lines_move (ps : List Piece) :
    lines (ps.map (move n)) = (lines ps).map (List.map (move n)) := by
  induction ps with
  | nil => rfl
  | cons p ps ih =>
    rw [List.map_cons, lines, lines, endsLine_move, ih]
    split
    · rfl
    · rw [consHead_move]

theorem flat_move (ps : List Piece) :
    flat (ps.map (move n)) = (flat ps).map (FlatToken.move n) := by
  rw [flat, flat, ← FlatToken.squash_map_move, lines_move, List.flatMap_map, List.map_flatMap]
  simp only [ofLine_move]

end Move

theorem foldlM_core {β : Type} {step : β → FlatToken → Option β} (h : FlatToken.Blind step)
    (ps : List Piece) (b : β) :
    (core ps).foldlM step b = (ps.map (FlatToken.ofPiece .start)).foldlM step b := by
  rw [core, h.foldlM_squashed (FlatToken.squashed _), ← h.foldlM_bare (ps.map _),
    List.filterMap_map]
  rfl

theorem delimitersAfter_ofPiece (before : Placement) (d : Delimiters) (p : Piece) :
    (FlatToken.ofPiece before p).delimitersAfter d = p.delimitersAfter d := by
  cases p with
  | letter c span => rfl
  | tag t span => cases t <;> rfl

theorem foldl_core (ps : List Piece) (d : Delimiters) :
    (core ps).foldl FlatToken.delimitersAfter d = ps.foldl delimitersAfter d := by
  have h := foldlM_core FlatToken.blind_delimitersAfter ps d
  rw [List.foldlM_map] at h
  simp only [delimitersAfter_ofPiece] at h
  exact Option.some.inj (List.foldlM_pure.symm.trans (h.trans List.foldlM_pure))

/-- What is bare of pieces comes apart at a tag as the pieces do. -/
theorem core_eq_append_cons {ps : List Piece} {before after : List FlatToken} {t : FlatToken}
    (ht : t.isText = false) (h : core ps = before ++ t :: after) :
    ∃ xs p ys, ps = xs ++ p :: ys ∧ core xs = before ∧ p.bare = some t ∧ core ys = after := by
  have hsquashed := FlatToken.squashed (ps.filterMap bare)
  rw [← core, h] at hsquashed
  obtain ⟨as, bs, hps, has, hbs⟩ := hsquashed.exists_of_append_cons ht
  obtain ⟨xs, rest, rfl, rfl, hrest⟩ := List.filterMap_eq_append_iff.mp hps
  obtain ⟨skipped, p, ys, rfl, hskipped, hp, rfl⟩ := List.filterMap_eq_cons_iff.mp hrest
  refine ⟨xs ++ skipped, p, ys, by rw [List.append_assoc], ?_, hp, hbs.eq⟩
  rw [core, List.filterMap_append, List.filterMap_eq_nil_iff.mpr hskipped, List.append_nil, has.eq]

/-- A tag can be told from what is bare of it. -/
theorem eq_tag_of_bare_eq {p : Piece} {t : Tag} {span : Span}
    (h : p.bare = (Piece.tag t span).bare) : p = .tag t span := by
  cases p with
  | letter c a =>
    obtain ⟨u, hu, hnot⟩ : ∃ u, (Piece.tag t span).bare = some u ∧ u.isText = false :=
      FlatToken.bare_eq_some_of_not_isText (by cases t <;> rfl)
    have htext : u.isText = true := FlatToken.isText_of_bare_text (h.trans hu)
    rw [hnot] at htext
    cases htext
  | tag t' a => cases t' <;> cases t <;> cases h <;> rfl

end Piece

theorem openSections_eq_ok_iff {names names' : List String} {ps : List Piece} :
    openSections names ps = .ok names' ↔
      (ps.map (FlatToken.ofPiece .start)).foldlM FlatToken.opened names = some names' := by
  induction ps generalizing names with
  | nil => simp [openSections]
  | cons p ps ih =>
    rw [List.map_cons, List.foldlM_cons]
    cases p with
    | letter c span => exact ih
    | tag t span =>
      cases t with
      | closing name =>
        cases names with
        | nil => simp [openSections, FlatToken.ofPiece, FlatToken.opened]
        | cons last rest =>
          rw [openSections, FlatToken.ofPiece, FlatToken.opened]
          split
          · exact ih
          · simp
      | opening => exact ih
      | var => exact ih
      | inclusion => exact ih
      | delimiters => exact ih
      | comment => exact ih

/-- Whether the flat tokens of pieces nest can be told from what is bare of them. -/
theorem Piece.exists_nested_flat_iff {ps : List Piece} :
    (∃ us, Nested (flat ps) us) ↔ (core ps).foldlM FlatToken.opened [] = some [] := by
  rw [← bare_flat, FlatToken.blind_opened.foldlM_bare]
  constructor
  · rintro ⟨us, h⟩
    exact h.opened_eq []
  · exact Nested.exists_of_opened

theorem openSections_eq_nil_iff {ps : List Piece} :
    openSections [] ps = .ok [] ↔ ∃ us, Nested (Piece.flat ps) us := by
  rw [openSections_eq_ok_iff, ← Piece.foldlM_core FlatToken.blind_opened,
    Piece.exists_nested_flat_iff]

end PostalAddress
