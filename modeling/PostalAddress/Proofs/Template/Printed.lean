import PostalAddress.Proofs.Template.Printing
import PostalAddress.Proofs.Template.Spans

/-!
# The tokens of printed marks

On a line that shows something every printed mark is one flat token, the characters of a text being
joined again. So such a line compiles to the tokens that its marks nest to.
-/

namespace PostalAddress

open Text

section Flat

open FlatToken

namespace Mark

def isText : Mark → Bool
  | .text _ => true
  | .tag _ _ => false

/-- No text stands directly before another. -/
def Apart : List Mark → Prop
  | [] => True
  | m :: ms => (m.isText → ∀ m' ∈ ms.head?, m'.isText = false) ∧ Apart ms

instance decidableApart : ∀ ms, Decidable (Apart ms)
  | [] => .isTrue trivial
  | _ :: ms =>
    have := decidableApart ms
    inferInstanceAs (Decidable (_ ∧ _))

def flat (before : Placement) (p : Nat) : Mark → FlatToken
  | .text s => .leaf (.text s) ⟨p, p + byteLength s.toList⟩
  | .tag sigil name =>
    ofPiece before (.tag (tagOf sigil name) ⟨p, p + byteLength (Mark.tag sigil name).print⟩)

/-- The flat tokens of marks, from `p` bytes on. -/
def flats (before : Placement) (p : Nat) : List Mark → List FlatToken
  | [] => []
  | m :: ms =>
    m.flat before p :: flats ((m.pieces p).foldl .after before) (p + byteLength m.print) ms

theorem isText_flat (before : Placement) (p : Nat) (m : Mark) :
    (m.flat before p).isText = m.isText := by
  cases m with
  | text s => rfl
  | tag sigil name => exact isText_ofPiece before (.tag _ _)

theorem textFirst_flats (before : Placement) (p : Nat) {ms : List Mark}
    (h : ∀ m ∈ ms.head?, m.isText = false) : textFirst (flats before p ms) = false := by
  cases ms with
  | nil => rfl
  | cons m ms => exact (isText_flat before p m).trans (h m rfl)

theorem squashed_letters {t : List Char} (hne : t ≠ []) {ts us : List FlatToken}
    (no : textFirst us = false) (h : Squashed ts us) (before : Placement) (p : Nat) :
    Squashed (ofPieces before (letters p t) ++ ts)
      (.leaf (.text (String.ofList t)) ⟨p, p + byteLength t⟩ :: us) := by
  induction t generalizing before p with
  | nil => exact absurd rfl hne
  | cons c r ih =>
    cases r with
    | nil => exact .alone _ _ no h
    | cons c' r =>
      have hrest := ih (List.cons_ne_nil c' r) (before.after (.letter c ⟨p, p + c.utf8Size⟩))
        (p + c.utf8Size)
      rw [Nat.add_assoc] at hrest
      have hjoined := Squashed.joined (String.singleton c) _ ⟨p, p + c.utf8Size⟩ _ hrest
      have htext : String.singleton c ++ String.ofList (c' :: r) = String.ofList (c :: c' :: r) := by
        rw [String.singleton_eq_ofList, ← String.ofList_append, List.cons_append, List.nil_append]
      rwa [htext] at hjoined

theorem squashed_flats {ms : List Mark} (hms : ∀ m ∈ ms, m.IsPlain) (hapart : Apart ms)
    (before : Placement) (p : Nat) :
    Squashed (ofPieces before (piecesAll p ms)) (flats before p ms) := by
  induction ms generalizing before p with
  | nil => exact .nil
  | cons m ms ih =>
    obtain ⟨hm, hms⟩ := List.forall_mem_cons.mp hms
    obtain ⟨hhead, hapart⟩ := hapart
    have hrest := ih hms hapart ((m.pieces p).foldl .after before) (p + byteLength m.print)
    rw [piecesAll, ofPieces_append, flats]
    cases m with
    | text s =>
      have hletters := squashed_letters (t := s.toList) (by simpa using hm.1)
        (textFirst_flats _ _ (hhead rfl)) hrest before p
      rwa [String.ofList_toList] at hletters
    | tag sigil name => exact .other (isText_ofPiece before (.tag _ _)) hrest

theorem piecesAll_append (p : Nat) (ms ns : List Mark) :
    piecesAll p (ms ++ ns) =
      piecesAll p ms ++ piecesAll (p + byteLength (printAll ms)) ns := by
  induction ms generalizing p with
  | nil => rfl
  | cons m ms ih =>
    rw [List.cons_append, piecesAll, piecesAll, ih, List.append_assoc, printAll_cons,
      byteLength_append, ← Nat.add_assoc]

theorem exists_flats_append (before : Placement) (p : Nat) (ms ns : List Mark) :
    ∃ after, flats before p (ms ++ ns) =
      flats before p ms ++ flats after (p + byteLength (printAll ms)) ns := by
  induction ms generalizing before p with
  | nil => exact ⟨before, rfl⟩
  | cons m ms ih =>
    obtain ⟨after, h⟩ := ih ((m.pieces p).foldl .after before) (p + byteLength m.print)
    refine ⟨after, ?_⟩
    rw [List.cons_append, flats, flats, h, printAll_cons, byteLength_append, ← Nat.add_assoc,
      List.cons_append]

/-- A tag, or a text that stays on its line. -/
def StaysOnLine : Mark → Prop
  | .text s => '\n' ∉ s.toList
  | .tag _ _ => True

instance : DecidablePred StaysOnLine
  | .text s => inferInstanceAs (Decidable ('\n' ∉ s.toList))
  | .tag _ _ => .isTrue trivial

theorem endsLine_piecesAll {ms : List Mark} (h : ∀ m ∈ ms, m.StaysOnLine) (p : Nat) :
    ∀ q ∈ piecesAll p ms, q.endsLine = false := by
  have hletters : ∀ (t : List Char) (p : Nat), '\n' ∉ t → ∀ q ∈ letters p t, q.endsLine = false := by
    intro t
    induction t with
    | nil => exact fun _ _ => nofun
    | cons c r ih =>
      intro p ht
      rw [List.mem_cons, not_or] at ht
      rw [letters, List.forall_mem_cons]
      exact ⟨decide_eq_false (Ne.symm ht.1), ih _ ht.2⟩
  induction ms generalizing p with
  | nil => exact nofun
  | cons m ms ih =>
    obtain ⟨hm, hms⟩ := List.forall_mem_cons.mp h
    intro q hq
    obtain hq | hq := List.mem_append.mp hq
    · cases m with
      | text s => exact hletters _ p hm q hq
      | tag sigil name =>
        obtain rfl := List.mem_singleton.mp hq
        rfl
    · exact ih hms _ q hq

/-- A tag that inserts text. -/
def IsVar : Mark → Prop
  | .text _ => False
  | .tag sigil _ => sigil ∈ [none, some '\x7b', some '&']

instance : DecidablePred IsVar
  | .text _ => .isFalse id
  | .tag sigil _ => inferInstanceAs (Decidable (sigil ∈ [none, some '\x7b', some '&']))

/-- A tag that inserts text, or a text that is not all white space. -/
def IsLoud : Mark → Prop
  | .text s => ∃ c ∈ s.toList, isBlank c = false
  | .tag sigil _ => sigil ∈ [none, some '\x7b', some '&']

theorem exists_isLoud {ms : List Mark} (h : ∃ m ∈ ms, m.IsVar) : ∃ m ∈ ms, m.IsLoud := by
  obtain ⟨m, hm, hvar⟩ := h
  refine ⟨m, hm, ?_⟩
  cases m with
  | text s => cases hvar
  | tag sigil name => exact hvar

/-- Such a mark has a piece that no standalone line may hold. -/
theorem IsLoud.exists_piece {m : Mark} (h : m.IsLoud) (p : Nat) :
    ∃ q ∈ m.pieces p, q.isQuiet = false := by
  have hletters : ∀ (t : List Char) (p : Nat), (∃ c ∈ t, isBlank c = false) →
      ∃ q ∈ letters p t, q.isQuiet = false := by
    intro t
    induction t with
    | nil => simp
    | cons c r ih =>
      rintro p ⟨c', hc', hblank⟩
      obtain rfl | hc' := List.mem_cons.mp hc'
      · exact ⟨_, List.mem_cons_self, hblank⟩
      · obtain ⟨q, hq, hquiet⟩ := ih (p + c.utf8Size) ⟨c', hc', hblank⟩
        exact ⟨q, List.mem_cons_of_mem _ hq, hquiet⟩
  cases m with
  | text s => exact hletters s.toList p h
  | tag sigil name =>
    refine ⟨_, List.mem_singleton.mpr rfl, ?_⟩
    simp only [IsLoud, List.mem_cons, List.not_mem_nil, or_false] at h
    rcases h with rfl | rfl | rfl <;> rfl

theorem exists_not_isQuiet {ms : List Mark} (h : ∃ m ∈ ms, m.IsLoud) (p : Nat) :
    ∃ q ∈ piecesAll p ms, q.isQuiet = false := by
  induction ms generalizing p with
  | nil => simp at h
  | cons m ms ih =>
    obtain ⟨m', hm', hloud⟩ := h
    obtain rfl | hm' := List.mem_cons.mp hm'
    · obtain ⟨q, hq, hquiet⟩ := hloud.exists_piece p
      exact ⟨q, List.mem_append_left _ hq, hquiet⟩
    · obtain ⟨q, hq, hquiet⟩ := ih ⟨m', hm', hloud⟩ (p + byteLength m.print)
      exact ⟨q, List.mem_append_right _ hq, hquiet⟩

/-- A newline may follow marks that stay on their line. -/
theorem lines_piecesAll {ms ns : List Mark} (h : ∀ m ∈ ms, m.StaysOnLine)
    (hloud : ∃ m ∈ ms, m.IsLoud) (hns : ns = [] ∨ ns = [.text "\n"]) :
    Piece.lines (piecesAll 0 (ms ++ ns)) = [piecesAll 0 (ms ++ ns)] := by
  have hends := endsLine_piecesAll h 0
  obtain rfl | rfl := hns
  · obtain ⟨q, hq, _⟩ := exists_not_isQuiet hloud 0
    obtain hnil | ⟨ps, q, hps⟩ := List.eq_nil_or_concat (piecesAll 0 ms)
    · rw [hnil] at hq
      cases hq
    · rw [List.append_nil]
      rw [hps, List.concat_eq_append] at hends ⊢
      exact Piece.lines_concat (fun p hp => hends p (List.mem_append_left _ hp)) q
  · rw [piecesAll_append]
    exact Piece.lines_concat hends _

/-- Marks on one line that show something keep all of their white space. -/
theorem flat_piecesAll {ms : List Mark} (hms : ∀ m ∈ ms, m.IsPlain) (hapart : Apart ms)
    (hline : Piece.lines (piecesAll 0 ms) = [piecesAll 0 ms]) (hloud : ∃ m ∈ ms, m.IsLoud) :
    Piece.flat (piecesAll 0 ms) = flats .start 0 ms := by
  have hstays : Piece.isStandalone (piecesAll 0 ms) = false := by
    obtain ⟨q, hq, hquiet⟩ := exists_not_isQuiet hloud 0
    rw [Piece.isStandalone, Bool.and_eq_false_iff]
    right
    rw [List.all_eq_false]
    exact ⟨q, hq, by simp [hquiet]⟩
  rw [Piece.flat, hline, List.flatMap_singleton, ofLine, hstays, if_neg Bool.false_ne_true]
  exact (squashed_flats hms hapart .start 0).eq

end Mark

/-- Printed marks on one line compile to the tokens that they nest to. -/
theorem Template.compile_printAll {ms : List Mark} (hms : ∀ m ∈ ms, m.IsPlain)
    (hapart : Mark.Apart ms)
    (hline : Piece.lines (Mark.piecesAll 0 ms) = [Mark.piecesAll 0 ms])
    (hloud : ∃ m ∈ ms, m.IsLoud) {us : List Token} (hnest : Nested (Mark.flats .start 0 ms) us) :
    compile (String.ofList (Mark.printAll ms)) .braces =
      .ok ⟨String.ofList (Mark.printAll ms), .braces, us⟩ := by
  have hread := Mark.reads_printAll hms [] 0
  rw [List.append_nil] at hread
  rw [← Mark.flat_piecesAll hms hapart hline hloud] at hnest
  rw [← String.toList_ofList (l := Mark.printAll ms)] at hread
  exact compile_eq_ok_iff.mpr ⟨rfl, rfl, fun _ => Delimiters.proper_braces, _, _, _, hread, hnest⟩

end Flat

end PostalAddress
