import PostalAddress.Proofs.Template.Continuing
import PostalAddress.Proofs.Template.Moving
import PostalAddress.Proofs.Text.Parts

/-!
# Sources joined at a line end

Where a source ends with a newline outside its tags, and with the delimiters it began with, nothing
of it reaches into what follows: no tag, no line and no section is open. So a source that follows it
compiles as it does alone, and only a text that ends the first and a text that begins the second
become one.
-/

namespace PostalAddress

open Text

/-- The last piece of the source is a newline, and the delimiters after it are those it began
with. -/
structure Template.EndsLine (d : Delimiters) (source : String) : Prop where
  newline : ∃ span, (Pieces.read d 0 0 source.toList).list.getLast? = some (.letter '\n' span)
  delimiters : (Pieces.read d 0 0 source.toList).list.foldl Piece.delimitersAfter d = d

theorem Template.EndsLine.eq_of_reads {d d' : Delimiters} {source : String} {ps : List Piece}
    {p : Nat} (h : EndsLine d source) (hread : Reads d ⟨source.toList, 0⟩ ps d' ⟨[], p⟩) :
    d' = d ∧ p = byteLength source.toList ∧ ∃ qs span, ps = qs ++ [.letter '\n' span] := by
  have hpieces := Pieces.read_of_reads hread
  dsimp only at hpieces
  obtain ⟨span, hlast⟩ := h.newline
  have hdelims := h.delimiters
  rw [hpieces] at hlast hdelims
  obtain ⟨x, hx, hp⟩ := hread.reaches
  simp only [List.append_nil] at hx
  simp only [Nat.zero_add, ← hx] at hp
  obtain ⟨qs, hqs⟩ := List.getLast?_eq_some_iff.mp hlast
  exact ⟨hread.delimiters_eq.trans hdelims, hp, qs, span, hqs⟩

/-- A source that ends a line is read in the same way in front of any other. -/
theorem Reads.append_of_newline {d : Delimiters} {a : List Char} {ps : List Piece} {span : Span}
    {p : Nat} (h : Reads d ⟨a, 0⟩ (ps ++ [.letter '\n' span]) d ⟨[], p⟩) (hp : d.Proper)
    (hd : d.Blankless) (b : List Char) :
    Reads d ⟨a ++ b, 0⟩ (ps ++ [.letter '\n' span]) d ⟨b, p⟩ := by
  obtain ⟨d₁, ⟨t, q⟩, hps, hlast⟩ := h.split
  cases hlast with
  | letter no rest =>
    cases rest
    obtain ⟨x, hx, _⟩ := hps.reaches
    have hblank : EndsBlank a := ⟨'\n', by simp [show a = x ++ ['\n'] from hx], by decide⟩
    have hnewline : ¬ d.opening.toList <+: ['\n'] ++ b := by
      rwa [prefix_append_iff ⟨'\n', rfl, by decide⟩ hd.1]
    exact (hps.extend hp hd hblank (by simp) b).append (.letter hnewline (.done d _))

namespace FlatToken

/-- Puts a token in front of others, two texts becoming one. -/
def joinTo : FlatToken → List FlatToken → List FlatToken
  | .leaf (.text s) a, .leaf (.text s') b :: us => .leaf (.text (s ++ s')) ⟨a.start, b.stop⟩ :: us
  | t, us => t :: us

def join : List FlatToken → List FlatToken → List FlatToken
  | [], us => us
  | [t], us => joinTo t us
  | t :: t' :: ts, us => t :: join (t' :: ts) us

variable {t : FlatToken} {ts us : List FlatToken}

theorem joinTo_of_isText (h : t.isText = false) (us : List FlatToken) : joinTo t us = t :: us := by
  unfold joinTo
  split
  · cases h
  · rfl

theorem joinTo_of_textFirst (t : FlatToken) (h : textFirst us = false) : joinTo t us = t :: us := by
  unfold joinTo
  split
  · cases h
  · rfl

theorem join_cons_of_ne (t : FlatToken) (h : ts ≠ []) (us : List FlatToken) :
    join (t :: ts) us = t :: join ts us := by
  obtain ⟨t', ts, rfl⟩ := List.exists_cons_of_ne_nil h
  rfl

theorem join_cons_of_isText (h : t.isText = false) (ts us : List FlatToken) :
    join (t :: ts) us = t :: join ts us := by
  cases ts with
  | nil => exact joinTo_of_isText h us
  | cons t' ts => rfl

theorem join_append (xs : List FlatToken) (h : ts ≠ []) (us : List FlatToken) :
    join (xs ++ ts) us = xs ++ join ts us := by
  induction xs with
  | nil => rfl
  | cons x xs ih => rw [List.cons_append, join_cons_of_ne x (by simp [h]), ih, List.cons_append]

theorem squash_cons (t : FlatToken) (ts : List FlatToken) :
    squash (t :: ts) = joinTo t (squash ts) := by
  cases ht : t.isText with
  | false =>
    rw [joinTo_of_isText ht, squash]
    rintro s a rfl
    cases ht
  | true =>
    obtain ⟨s, a, rfl⟩ := isText_iff.mp ht
    rw [squash]
    split
    · rename_i h
      rw [h]
      rfl
    · rename_i hno
      cases hfirst : textFirst (squash ts) with
      | false => rw [joinTo_of_textFirst _ hfirst]
      | true =>
        obtain ⟨s', b, us, hus⟩ := textFirst_iff.mp hfirst
        exact absurd hus (hno s' b us)

theorem joinTo_joinTo_text (s s' : String) (a b : Span) (us : List FlatToken) :
    joinTo (.leaf (.text s) a) (joinTo (.leaf (.text s') b) us) =
      joinTo (.leaf (.text (s ++ s')) ⟨a.start, b.stop⟩) us := by
  cases hfirst : textFirst us with
  | false =>
    rw [joinTo_of_textFirst _ hfirst, joinTo_of_textFirst _ hfirst]
    rfl
  | true =>
    obtain ⟨s'', c, vs, rfl⟩ := textFirst_iff.mp hfirst
    simp only [joinTo, String.append_assoc]

theorem joinTo_join (t : FlatToken) (ts us : List FlatToken) :
    joinTo t (join ts us) = join (joinTo t ts) us := by
  cases ts with
  | nil =>
    have hnil : joinTo t [] = [t] := joinTo_of_textFirst t rfl
    rw [hnil]
    rfl
  | cons v vs =>
    cases ht : t.isText with
    | false =>
      rw [joinTo_of_isText ht, joinTo_of_isText ht]
      rfl
    | true =>
      obtain ⟨s, a, rfl⟩ := isText_iff.mp ht
      cases hv : v.isText with
      | false =>
        have hfirst : ∀ ws, textFirst (v :: ws) = false := fun _ => hv
        rw [join_cons_of_isText hv, joinTo_of_textFirst _ (hfirst _),
          joinTo_of_textFirst _ (hfirst _), join, join_cons_of_isText hv]
      | true =>
        obtain ⟨s', b, rfl⟩ := isText_iff.mp hv
        cases vs with
        | cons w ws => rfl
        | nil => exact joinTo_joinTo_text s s' a b us

theorem squash_append (ts us : List FlatToken) :
    squash (ts ++ us) = join (squash ts) (squash us) := by
  induction ts with
  | nil => rfl
  | cons t ts ih => rw [List.cons_append, squash_cons, ih, squash_cons, joinTo_join]

end FlatToken

namespace Token

/-- Puts a token in front of others, two texts becoming one. -/
def joinTo : Token → List Token → List Token
  | .leaf (.text s) a, .leaf (.text s') b :: us => .leaf (.text (s ++ s')) ⟨a.start, b.stop⟩ :: us
  | t, us => t :: us

/-- Tokens after others, where a text that ends the first and one that begins the second become
one. -/
def join : List Token → List Token → List Token
  | [], us => us
  | [t], us => joinTo t us
  | t :: t' :: ts, us => t :: join (t' :: ts) us

end Token

namespace Nested

variable {ts ts' : List FlatToken} {us us' : List Token}

theorem joinTo_leaf (l : Leaf) (a : Span) (h : Nested ts us) :
    Nested (FlatToken.joinTo (.leaf l a) ts) (Token.joinTo (.leaf l a) us) := by
  cases l with
  | text s =>
    cases h with
    | nil => exact .leaf _ a .nil
    | leaf l' b rest => cases l' <;> first | exact .leaf _ _ rest | exact .leaf _ a (.leaf _ b rest)
    | block name inverted span close inner rest =>
      exact .leaf _ a (.block name inverted span close inner rest)
  | _ => exact .leaf _ a h

theorem join (h : Nested ts us) (h' : Nested ts' us') :
    Nested (FlatToken.join ts ts') (Token.join us us') := by
  induction h with
  | nil => exact h'
  | @leaf l a ts us rest ih =>
    cases rest with
    | nil => exact joinTo_leaf l a h'
    | leaf => exact .leaf l a ih
    | block => exact .leaf l a ih
  | @block name inverted span close body ts children us inner rest _ ih =>
    have hflat :
        FlatToken.join (.opening name inverted span :: (body ++ .closing name close :: ts)) ts' =
          .opening name inverted span ::
            (body ++ .closing name close :: FlatToken.join ts ts') := by
      rw [FlatToken.join_cons_of_isText rfl, FlatToken.join_append body (by simp),
        FlatToken.join_cons_of_isText rfl]
    have hblock : Token.join (.block name inverted span close.start children :: us) us' =
        .block name inverted span close.start children :: Token.join us us' := by
      cases us <;> rfl
    rw [hflat, hblock]
    exact .block name inverted span close inner ih

end Nested

theorem openSections_append (names : List String) (ps qs : List Piece) :
    openSections names (ps ++ qs) =
      (openSections names ps).bind fun names => openSections names qs := by
  fun_induction openSections names ps with
  | case1 => rfl
  | case2 names name inverted span ps ih => exact ih
  | case3 name span ps => rfl
  | case4 span ps last rest ih =>
    rw [List.cons_append, openSections, if_pos rfl]
    exact ih
  | case5 name span ps last rest hne =>
    rw [List.cons_append, openSections, if_neg hne]
    rfl
  | case6 names p ps hopen hclose ih =>
    rw [List.cons_append, openSections]
    · exact ih
    · exact hopen
    · exact hclose

theorem openSections_move (n : Nat) (names : List String) (ps : List Piece) :
    openSections names (ps.map (Piece.move n)) =
      (openSections names ps).mapError (TemplateError.move n) := by
  fun_induction openSections names ps with
  | case1 => rfl
  | case2 names name inverted span ps ih => exact ih
  | case3 name span ps => rfl
  | case4 span ps last rest ih =>
    rw [List.map_cons, Piece.move, openSections, if_pos rfl]
    exact ih
  | case5 name span ps last rest hne =>
    rw [List.map_cons, Piece.move, openSections, if_neg hne]
    rfl
  | case6 names p ps hopen hclose ih =>
    cases p with
    | letter c span => exact ih
    | tag t span =>
      cases t with
      | opening name inverted => exact absurd rfl (hopen name inverted span)
      | closing name => exact absurd rfl (hclose name span)
      | _ => exact ih

section Compile

variable {a b : List Char} {d d' : Delimiters} {ps : List Piece} {span : Span} {n : Nat}

/-- What follows the pieces that were read is read as it is read alone, moved. -/
theorem Pieces.read_append (h : Reads d ⟨a ++ b, 0⟩ ps d' ⟨b, n⟩) :
    read d 0 0 (a ++ b) =
      ⟨ps ++ (read d' 0 0 b).list.map (Piece.move n),
        (read d' 0 0 b).failure.map (TemplateError.move n)⟩ := by
  have hread := read_of_reads_append h
  have hmove := read_move d' n 0 0 b
  rw [Nat.zero_add] at hmove
  dsimp only at hread
  rw [hread, hmove]
  rfl

theorem Piece.flat_append_of_newline (ps qs : List Piece) (span : Span) :
    flat (ps ++ [.letter '\n' span] ++ qs) =
      FlatToken.join (flat (ps ++ [.letter '\n' span])) (flat qs) := by
  rw [flat, lines_append rfl, List.flatMap_append, FlatToken.squash_append]
  rfl

theorem flatTokens_append
    (h : Reads d ⟨a ++ b, 0⟩ (ps ++ [.letter '\n' span]) d' ⟨b, byteLength a⟩)
    (hopen : openSections [] (ps ++ [.letter '\n' span]) = .ok []) :
    flatTokens (a ++ b) d =
      ((flatTokens b d').mapError (TemplateError.move (byteLength a))).map fun ts =>
        FlatToken.join (Piece.flat (ps ++ [.letter '\n' span]))
          (ts.map (FlatToken.move (byteLength a))) := by
  rw [flatTokens_eq, flatTokens_eq, Pieces.read_append h]
  dsimp only
  rw [openSections_append, hopen, Except.bind, openSections_move, Piece.flat_append_of_newline,
    Piece.flat_move]
  cases openSections [] (Pieces.read d' 0 0 b).list with
  | error e => rfl
  | ok names =>
    cases (Pieces.read d' 0 0 b).failure with
    | some e => rfl
    | none =>
      cases names with
      | nil => rfl
      | cons name names =>
        rw [byteLength_append, Nat.add_comm]
        rfl

end Compile

namespace Template

variable {d d' : Delimiters}

/-- The flat tokens of a source nest. -/
theorem exists_nested_of_flatTokens {source : List Char} {ts : List FlatToken}
    (h : flatTokens source d = .ok ts) : ∃ us, Nested ts us := by
  obtain ⟨ps, _, _, _, hopen, rfl⟩ := flatTokens_eq_ok_iff.mp h
  exact openSections_eq_nil_iff.mp hopen

theorem mapError_ok {ε ε' α : Type} (f : ε → ε') (a : α) :
    (Except.ok a : Except ε α).mapError f = .ok a := rfl

/-- Behind a newline outside its tags a source compiles as it does alone with the delimiters that
hold there, moved. -/
theorem compile_of_reads_append {a b : String} {ps : List Piece} {span : Span} {us : List Token}
    (hread : Reads d ⟨a.toList ++ b.toList, 0⟩ (ps ++ [.letter '\n' span]) d'
      ⟨b.toList, byteLength a.toList⟩) (hp : d.Proper)
    (hnest : Nested (Piece.flat (ps ++ [.letter '\n' span])) us) :
    compile (a ++ b) d =
      ((compile b d').mapError (TemplateError.move (byteLength a.toList))).map fun tb =>
        ⟨a ++ b, d, Token.join us (Token.moveAll (byteLength a.toList) tb.tokens)⟩ := by
  have hopen := openSections_eq_nil_iff.mpr ⟨_, hnest⟩
  rw [compile_of_proper hp, compile_of_proper (hread.proper hp), String.toList_append,
    flatTokens_append hread hopen]
  cases hflat : flatTokens b.toList d' with
  | error e => rfl
  | ok ts =>
    obtain ⟨us', hus⟩ := exists_nested_of_flatTokens hflat
    have hjoin := hnest.join (hus.move (byteLength a.toList))
    simp only [mapError_ok, Except.map, Except.bind, hus.nest_eq, hjoin.nest_eq]

theorem compile_append {a : String} {ta : Template} (ha : compile a d = .ok ta)
    (hend : EndsLine d a) (hd : d.Blankless) (b : String) :
    compile (a ++ b) d =
      ((compile b d).mapError (TemplateError.move (byteLength a.toList))).map fun tb =>
        ⟨a ++ b, d, Token.join ta.tokens (Token.moveAll (byteLength a.toList) tb.tokens)⟩ := by
  obtain ⟨rfl, rfl, hproper, ps, d', p', hread, hnest⟩ := compile_eq_ok_iff.mp ha
  obtain ⟨rfl, rfl, ps, span, rfl⟩ := hend.eq_of_reads hread
  have hne : ta.source ≠ "" := by
    intro hempty
    rw [hempty] at hread
    exact absurd (hread.eq_nil rfl) (by simp)
  have hp := hproper hne
  exact compile_of_reads_append (hread.append_of_newline hp hd b.toList) hp hnest

end Template

end PostalAddress
