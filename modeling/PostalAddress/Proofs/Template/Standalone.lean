import Mathlib.Data.List.Basic
import PostalAddress.Proofs.Template.Placing

/-!
# What standalone lines lose

The lines of a source are told apart by how many literal newlines stand before each piece. A line
with tags, none of which is a variable, and with nothing but white space between them loses that
white space. Everything else outside of tags is in the texts of the template, in order.
-/

namespace PostalAddress

open Text

namespace Piece

def letter? : Piece → Option Char
  | .letter c _ => some c
  | .tag _ _ => none

/-- Pieces with the number of literal newlines before each, counted on from `n`. -/
def numbered (n : Nat) : List Piece → List (Piece × Nat)
  | [] => []
  | p :: ps => (p, n) :: numbered (if p.letter? = some '\n' then n + 1 else n) ps

/-- The line with the number `n`: the pieces with `n` newlines before them. -/
def lineAt (ps : List Piece) (n : Nat) : List Piece :=
  ((numbered 0 ps).filter (·.2 = n)).map Prod.fst

/-- A line with a tag, no variable, and white space only. -/
structure Standalone (line : List Piece) : Prop where
  tagged : ∃ t a, .tag t a ∈ line
  silent : ∀ name escaped a, .tag (.var name escaped) a ∉ line
  blank : ∀ c a, .letter c a ∈ line → isBlank c

theorem standalone_iff {line : List Piece} : Standalone line ↔ isStandalone line = true := by
  rw [isStandalone, Bool.and_eq_true, List.any_eq_true, List.all_eq_true]
  constructor
  · rintro ⟨⟨t, a, hmem⟩, hsilent, hblank⟩
    refine ⟨⟨_, hmem, rfl⟩, fun p hp => ?_⟩
    cases p with
    | letter c a => exact hblank c a hp
    | tag t a =>
      cases t with
      | var name escaped => exact absurd hp (hsilent name escaped a)
      | _ => rfl
  · rintro ⟨⟨p, hp, htag⟩, hquiet⟩
    refine ⟨?_, fun name escaped a hmem => ?_, fun c a hmem => hquiet _ hmem⟩
    · cases p with
      | letter c a => cases htag
      | tag t a => exact ⟨t, a, hp⟩
    · cases hquiet _ hmem

instance (line : List Piece) : Decidable (Standalone line) := decidable_of_iff _ standalone_iff.symm

/-- The literal characters without the white space of standalone lines. -/
def kept (ps : List Piece) : List Char :=
  (numbered 0 ps).filterMap fun (p, n) =>
    p.letter?.filter fun c => ¬ (isBlank c ∧ Standalone (lineAt ps n))

section Lines

theorem endsLine_iff {p : Piece} : p.endsLine = true ↔ p.letter? = some '\n' := by
  cases p <;> simp [endsLine, letter?]

/-- The pieces of a line with the number of the line. -/
def withNumber (x : List Piece × Nat) : List (Piece × Nat) := x.1.map (·, x.2)

theorem numbered_eq (n : Nat) (ps : List Piece) :
    numbered n ps = ((lines ps).zipIdx n).flatMap withNumber := by
  induction ps generalizing n with
  | nil => rfl
  | cons p ps ih =>
    rw [numbered, lines]
    by_cases hends : p.endsLine = true
    · rw [if_pos (endsLine_iff.mp hends), if_pos hends, ih]
      rfl
    · rw [if_neg (hends ∘ endsLine_iff.mpr), if_neg hends, ih]
      cases lines ps <;> rfl

theorem filter_withNumber (x : List Piece × Nat) (n : Nat) :
    (withNumber x).filter (·.2 = n) = if x.2 = n then withNumber x else [] := by
  rw [withNumber, List.filter_map, Function.comp_def]
  split
  · rename_i heq
    rw [List.filter_eq_self.mpr fun _ _ => decide_eq_true heq]
  · rename_i hne
    rw [List.filter_eq_nil_iff.mpr fun _ _ => by simpa using hne]
    rfl

/-- Every line has a number of its own. -/
theorem filter_flatMap_withNumber {ls : List (List Piece)} {x : List Piece × Nat} {m : Nat}
    (h : x ∈ ls.zipIdx m) :
    ((ls.zipIdx m).flatMap withNumber).filter (·.2 = x.2) = withNumber x := by
  induction ls generalizing m with
  | nil => cases h
  | cons l ls ih =>
    rw [List.zipIdx_cons, List.flatMap_cons, List.filter_append, filter_withNumber]
    rw [List.zipIdx_cons] at h
    obtain rfl | h := List.mem_cons.mp h
    · have hrest : ((ls.zipIdx (m + 1)).flatMap withNumber).filter (·.2 = m) = [] := by
        rw [List.filter_flatMap, List.flatMap_eq_nil_iff]
        intro y hy
        have hlt : m + 1 ≤ y.2 := List.le_snd_of_mem_zipIdx hy
        rw [filter_withNumber, if_neg (by omega)]
      rw [if_pos rfl, hrest, List.append_nil]
    · have hlt : m + 1 ≤ x.2 := List.le_snd_of_mem_zipIdx h
      rw [if_neg (by dsimp only; omega), ih h, List.nil_append]

/-- The pieces with as many newlines before them make the line in that place. -/
theorem lineAt_eq {ps : List Piece} {x : List Piece × Nat} (h : x ∈ (lines ps).zipIdx) :
    lineAt ps x.2 = x.1 := by
  rw [lineAt, numbered_eq, filter_flatMap_withNumber h, withNumber, List.map_map,
    Function.comp_def, List.map_id']

/-- In a standalone line there is nothing but white space to lose. -/
theorem filterMap_kept (line : List Piece) :
    (line.filterMap fun p => p.letter?.filter fun c => ¬ (isBlank c ∧ Standalone line)) =
      if isStandalone line then [] else line.filterMap letter? := by
  by_cases h : Standalone line
  · rw [if_pos (standalone_iff.mp h), List.filterMap_eq_nil_iff]
    intro p hp
    cases p with
    | letter c a => simp [letter?, h, h.blank c a hp]
    | tag t a => rfl
  · rw [if_neg (h ∘ standalone_iff.mpr)]
    congr
    funext p
    cases p with
    | letter c a => simp [letter?, h]
    | tag t a => rfl

theorem kept_eq (ps : List Piece) :
    kept ps = (lines ps).flatMap fun line =>
      if isStandalone line then [] else line.filterMap letter? := by
  have hline : ∀ x ∈ (lines ps).zipIdx, (withNumber x).filterMap (fun (p, n) =>
      p.letter?.filter fun c => ¬ (isBlank c ∧ Standalone (lineAt ps n))) =
        if isStandalone x.1 then [] else x.1.filterMap letter? := by
    intro x hx
    rw [withNumber, List.filterMap_map, Function.comp_def, ← filterMap_kept]
    dsimp only
    rw [lineAt_eq hx]
  rw [kept, numbered_eq, List.filterMap_flatMap, List.flatMap_congr hline,
    ← List.flatMap_map Prod.fst (fun line =>
      if isStandalone line then [] else line.filterMap letter?), List.zipIdx_map_fst]

end Lines

end Piece

section Texts

/-- The texts among flat tokens, joined. -/
def FlatToken.texts (ts : List FlatToken) : List Char :=
  (ts.filterMap FlatToken.text?).flatMap String.toList

/-- The texts of tokens and of the tokens within them, joined. -/
def Token.texts (ts : List Token) : List Char :=
  ((inOrderAll ts).filterMap Token.text?).flatMap String.toList

namespace FlatToken

theorem texts_append (ts us : List FlatToken) : texts (ts ++ us) = texts ts ++ texts us := by
  rw [texts, List.filterMap_append, List.flatMap_append, texts, texts]

theorem texts_cons_of_not_isText {t : FlatToken} (h : t.isText = false) (ts : List FlatToken) :
    texts (t :: ts) = texts ts := by
  rw [texts, List.filterMap_cons_none (text?_eq_none h), texts]

theorem texts_cons_text (s : String) (a : Span) (ts : List FlatToken) :
    texts (.leaf (.text s) a :: ts) = s.toList ++ texts ts := rfl

end FlatToken

namespace Token

theorem texts_append (ts us : List Token) : texts (ts ++ us) = texts ts ++ texts us := by
  rw [texts, inOrderAll_append, List.filterMap_append, List.flatMap_append, texts, texts]

theorem texts_leaf (l : Leaf) (a : Span) : texts [.leaf l a] = FlatToken.texts [.leaf l a] := by
  cases l <;> rfl

theorem texts_block (name : String) (inverted : Bool) (a : Span) (closeStart : Nat)
    (children : List Token) : texts [.block name inverted a closeStart children] = texts children := by
  rw [texts, inOrderAll, inOrderAll, List.append_nil, inOrder, List.filterMap_cons_none rfl, texts]

end Token

/-- Nesting takes no text away and keeps the order. -/
theorem Nested.texts_eq {ts : List FlatToken} {us : List Token} (h : Nested ts us) :
    Token.texts us = FlatToken.texts ts := by
  induction h with
  | nil => rfl
  | @leaf l a ts us rest ih =>
    rw [← List.singleton_append, Token.texts_append, Token.texts_leaf, ih,
      ← FlatToken.texts_append, List.singleton_append]
  | @block name inverted a close body ts children us inner rest ihb iht =>
    rw [← List.singleton_append, Token.texts_append, Token.texts_block, ihb, iht,
      FlatToken.texts_cons_of_not_isText rfl, FlatToken.texts_append,
      FlatToken.texts_cons_of_not_isText rfl]

namespace FlatToken

theorem Squashed.texts_eq {ts us : List FlatToken} (h : Squashed ts us) : texts us = texts ts := by
  induction h with
  | nil => rfl
  | other no rest ih => rw [texts_cons_of_not_isText no, texts_cons_of_not_isText no, ih]
  | alone s a no rest ih => rw [texts_cons_text, texts_cons_text, ih]
  | joined s s' a b rest ih =>
    rw [texts_cons_text, texts_cons_text, ← ih, texts_cons_text, String.toList_append,
      List.append_assoc]

theorem texts_ofPieces (before : Placement) (ps : List Piece) :
    texts (ofPieces before ps) = ps.filterMap Piece.letter? := by
  induction ps generalizing before with
  | nil => rfl
  | cons p ps ih =>
    rw [ofPieces]
    cases p with
    | letter c a =>
      rw [ofPiece, texts_cons_text, ih, String.toList_singleton]
      rfl
    | tag t a =>
      rw [texts_cons_of_not_isText (isText_ofPiece before (.tag t a)), ih]
      rfl

theorem texts_filter_not_isText (ts : List FlatToken) : texts (ts.filter (!·.isText)) = [] := by
  induction ts with
  | nil => rfl
  | cons t ts ih =>
    cases h : t.isText with
    | true => rwa [List.filter_cons_of_neg (by simp [h])]
    | false => rwa [List.filter_cons_of_pos (by simp [h]), texts_cons_of_not_isText h]

theorem texts_ofLine (line : List Piece) :
    texts (ofLine line) = if Piece.isStandalone line then [] else line.filterMap Piece.letter? := by
  rw [ofLine]
  split
  · exact texts_filter_not_isText _
  · exact texts_ofPieces .start line

theorem texts_flat (ps : List Piece) : texts (Piece.flat ps) = Piece.kept ps := by
  rw [Piece.flat, (squashed _).texts_eq, Piece.kept_eq]
  induction Piece.lines ps with
  | nil => rfl
  | cons line ls ih => rw [List.flatMap_cons, texts_append, ih, texts_ofLine, List.flatMap_cons]

end FlatToken

end Texts

/-- The pieces lie end to end from the beginning of the source to its end, and the texts of the
template are what its standalone lines keep of the letters. -/
theorem Template.texts_of_compile {source : String} {d : Delimiters} {t : Template}
    (h : compile source d = .ok t) :
    Piece.Filled source.toList 0 (Pieces.read d 0 0 source.toList).list
        (byteLength source.toList) ∧
      String.join (t.inOrder.filterMap Token.text?) =
        String.ofList (Piece.kept (Pieces.read d 0 0 source.toList).list) := by
  obtain ⟨_, _, _, ps, d', p', hread, hnest⟩ := compile_eq_ok_iff.mp h
  have hpieces : Pieces.read d 0 0 source.toList = ⟨ps, none⟩ := Pieces.read_of_reads hread
  obtain ⟨x, hx, hp⟩ := hread.reaches
  have hend : p' = byteLength source.toList := by
    dsimp only at hx hp
    rw [hx, List.append_nil, hp, Nat.zero_add]
  have hfilled := Piece.Filled.of_reads [] hread rfl
  rw [hpieces, ← hend]
  refine ⟨hfilled, ?_⟩
  rw [← FlatToken.texts_flat, ← hnest.texts_eq, ← String.toList_inj, String.toList_join,
    String.toList_ofList, Token.texts]
  rfl

/-- A comment that takes up a newline, sections around a line with a variable, and a last line
without a newline. -/
theorem Template.texts_of_standalone :
    ∃ t, compile "a \n  \x7b\x7b#x\x7d\x7d \x7b\x7b! b\n c\x7d\x7d\t\n d \x7b\x7by\x7d\x7d \n\x7b\x7b/x\x7d\x7d " .braces = .ok t ∧
      String.join (t.inOrder.filterMap Token.text?) = "a \n d  \n" := by
  have hcompile : compile
      "a \n  \x7b\x7b#x\x7d\x7d \x7b\x7b! b\n c\x7d\x7d\t\n d \x7b\x7by\x7d\x7d \n\x7b\x7b/x\x7d\x7d " .braces =
        .ok ⟨"a \n  \x7b\x7b#x\x7d\x7d \x7b\x7b! b\n c\x7d\x7d\t\n d \x7b\x7by\x7d\x7d \n\x7b\x7b/x\x7d\x7d ", .braces,
          [.leaf (.text "a \n") ⟨0, 3⟩,
            .block "x" false ⟨5, 11⟩ 34
              [.leaf .comment ⟨12, 22⟩, .leaf (.text " d ") ⟨24, 27⟩,
                .leaf (.var "y" true) ⟨27, 32⟩, .leaf (.text " \n") ⟨32, 34⟩]]⟩ := by
    rw [Template.compile_of_proper Delimiters.proper_braces, flatTokens_eq]
    rfl
  exact ⟨_, hcompile, (texts_of_compile hcompile).2.trans (by decide)⟩

end PostalAddress
