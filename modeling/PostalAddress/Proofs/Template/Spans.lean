import PostalAddress.Proofs.Template.Section

/-!
# Where flat tokens stand in their source

The pieces of a source lie end to end. A standalone line leaves gaps, but only next to its tags, so
texts that come to stand side by side touch, and what they are joined to is again a part of the
source.
-/

namespace PostalAddress

open Text

namespace Text

theorem eq_nil_of_byteLength_eq_zero {x : List Char} (h : byteLength x = 0) : x = [] := by
  cases x with
  | nil => rfl
  | cons c x =>
    have hpos := c.utf8Size_pos
    rw [byteLength] at h
    omega

/-- Of two texts at the beginning of a third, the one with no more bytes begins the other. -/
theorem exists_append_of_byteLength_le {x y u v : List Char} (h : x ++ u = y ++ v)
    (hle : byteLength x ≤ byteLength y) : ∃ z, y = x ++ z ∧ u = z ++ v := by
  obtain ⟨z, hy, hu⟩ | ⟨z, rfl, rfl⟩ := List.append_eq_append_iff.mp h
  · exact ⟨z, hy, hu⟩
  · rw [byteLength_append] at hle
    obtain rfl : z = [] := eq_nil_of_byteLength_eq_zero (by omega)
    exact ⟨[], by simp, rfl⟩

end Text

namespace Span

/-- The text `x` stands in the source at a span. -/
def Holds (source : List Char) (a : Span) (x : List Char) : Prop :=
  ∃ u v, source = u ++ (x ++ v) ∧ byteLength u = a.start ∧ a.stop = a.start + byteLength x

/-- Some text stands in the source at a span, the given one if there is one. -/
def Stands (source : List Char) (text? : Option String) (a : Span) : Prop :=
  ∃ x, x ≠ [] ∧ a.Holds source x ∧ ∀ s ∈ text?, s.toList = x

variable {source x y : List Char} {a b : Span}

theorem Holds.sliceBytes_eq (h : a.Holds source x) : sliceBytes a.start a.stop source = some x := by
  obtain ⟨u, v, rfl, hu, hstop⟩ := h
  rw [hstop, ← hu]
  exact sliceBytes_append u x v

/-- What stands at a span is separated by some text from what stands further on. -/
theorem Holds.exists_between (ha : a.Holds source x) (hb : b.Holds source y)
    (hle : a.stop ≤ b.start) : ∃ u z v, source = u ++ (x ++ (z ++ (y ++ v))) ∧
      byteLength u = a.start ∧ byteLength z = b.start - a.stop := by
  obtain ⟨u, v, rfl, hu, hstop⟩ := ha
  obtain ⟨u', v', hsource, hu', _⟩ := hb
  rw [← List.append_assoc] at hsource
  have hbytes : byteLength (u ++ x) ≤ byteLength u' := by
    rw [byteLength_append]
    omega
  obtain ⟨z, rfl, rfl⟩ := exists_append_of_byteLength_le hsource hbytes
  simp only [byteLength_append] at hu' hbytes
  exact ⟨u, z, v', rfl, hu, by omega⟩

theorem Holds.append (ha : a.Holds source x) (hb : b.Holds source y) (h : a.stop = b.start) :
    Holds source ⟨a.start, b.stop⟩ (x ++ y) := by
  obtain ⟨u, z, v, hsource, hu, hz⟩ := ha.exists_between hb (Nat.le_of_eq h)
  obtain rfl : z = [] := eq_nil_of_byteLength_eq_zero (by omega)
  obtain ⟨_, _, _, _, hstop⟩ := ha
  obtain ⟨_, _, _, _, hstop'⟩ := hb
  refine ⟨u, v, by simpa using hsource, hu, ?_⟩
  simp only [byteLength_append]
  omega

theorem Holds.between (ha : a.Holds source x) (hb : b.Holds source y) (hle : a.stop ≤ b.start) :
    ∃ z, Holds source ⟨a.stop, b.start⟩ z := by
  obtain ⟨u, z, v, hsource, hu, hz⟩ := ha.exists_between hb hle
  obtain ⟨_, _, _, _, hstop⟩ := ha
  refine ⟨z, u ++ x, y ++ v, by simpa using hsource, ?_, ?_⟩
  · simp only [byteLength_append]
    omega
  · dsimp only
    omega

theorem Stands.start_lt_stop {text? : Option String} (h : a.Stands source text?) :
    a.start < a.stop := by
  obtain ⟨x, hx, ⟨_, _, _, _, hstop⟩, _⟩ := h
  have hpos : byteLength x ≠ 0 := fun hzero => hx (eq_nil_of_byteLength_eq_zero hzero)
  omega

theorem Stands.append {s s' : String} (ha : a.Stands source (some s))
    (hb : b.Stands source (some s')) (h : a.stop = b.start) :
    Stands source (some (s ++ s')) ⟨a.start, b.stop⟩ := by
  obtain ⟨x, hx, hax, hs⟩ := ha
  obtain ⟨y, _, hby, hs'⟩ := hb
  refine ⟨x ++ y, by simp [hx], hax.append hby h, fun t ht => ?_⟩
  obtain rfl := Option.some.inj ht
  rw [String.toList_append, hs s rfl, hs' s' rfl]

end Span

namespace Piece

def span : Piece → Span
  | .letter _ a => a
  | .tag _ a => a

def text? : Piece → Option String
  | .letter c _ => some (String.singleton c)
  | .tag _ _ => none

/-- Pieces that lie end to end in the source. -/
inductive Filled (source : List Char) : Nat → List Piece → Nat → Prop
  | nil (n : Nat) : Filled source n [] n
  | cons {p : Piece} {ps : List Piece} {stop : Nat} (stands : p.span.Stands source p.text?)
      (rest : Filled source p.span.stop ps stop) : Filled source p.span.start (p :: ps) stop

namespace Filled

variable {source : List Char} {start stop : Nat} {ps qs : List Piece}

theorem le (h : Filled source start ps stop) : start ≤ stop := by
  induction h with
  | nil => exact Nat.le_refl _
  | cons stands rest ih => exact Nat.le_of_lt (Nat.lt_of_lt_of_le stands.start_lt_stop ih)

theorem split (h : Filled source start (ps ++ qs) stop) :
    ∃ mid, Filled source start ps mid ∧ Filled source mid qs stop := by
  induction ps generalizing start with
  | nil => exact ⟨start, .nil start, h⟩
  | cons p ps ih =>
    cases h with
    | cons stands rest =>
      obtain ⟨mid, hps, hqs⟩ := ih rest
      exact ⟨mid, .cons stands hps, hqs⟩

theorem of_reads {d d' : Delimiters} {s s' : Scanner} (before : List Char)
    (h : Reads d s ps d' s') (hbefore : byteLength before = s.position) :
    Filled (before ++ s.rest) s.position ps s'.position := by
  induction h generalizing before with
  | done d s => exact .nil _
  | @letter d d' c r p ps s' no rest ih =>
    have hrest := ih (before ++ [c]) (by simp [byteLength, hbefore])
    rw [List.append_assoc] at hrest
    refine Filled.cons (p := .letter c ⟨p, p + c.utf8Size⟩)
      ⟨[c], by simp, ?_, fun t ht => ?_⟩ hrest
    · exact ⟨before, r, rfl, hbefore, by simp [Piece.span, byteLength]⟩
    · obtain rfl := Option.some.inj ht
      exact String.toList_singleton c
  | @tag d d' s after s' tag ps nonempty yes scan rest ih =>
    obtain ⟨x, hx, hposition⟩ := Tag.reaches_scanTag scan
    have hrest := ih (before ++ x) (by rw [byteLength_append, hbefore, hposition])
    rw [List.append_assoc, ← hx] at hrest
    refine Filled.cons (p := .tag tag ⟨s.position, after.position⟩)
      ⟨x, ?_, ?_, by simp [text?]⟩ hrest
    · rintro rfl
      have hlen := Tag.length_scanTag scan yes
      rw [hx, List.nil_append] at hlen
      omega
    · exact ⟨before, after.rest, by rw [hx], hbefore, hposition⟩

end Filled

end Piece

namespace FlatToken

def span : FlatToken → Span
  | .leaf _ a => a
  | .opening _ _ a => a
  | .closing _ a => a

def text? : FlatToken → Option String
  | .leaf (.text s) _ => some s
  | _ => none

theorem text?_eq_none {t : FlatToken} (h : t.isText = false) : t.text? = none := by
  unfold text?
  split
  · cases h
  · rfl

theorem span_ofPiece (before : Placement) (p : Piece) : (ofPiece before p).span = p.span := by
  cases p with
  | letter c a => rfl
  | tag t a => cases t <;> rfl

/-- Flat tokens that stand in the source one after the other, with gaps next to tags only. -/
inductive Laid (source : List Char) : Nat → List FlatToken → Nat → Prop
  | nil (n : Nat) : Laid source n [] n
  | text {s : String} {a : Span} {ts : List FlatToken} {stop : Nat}
      (stands : a.Stands source (some s)) (rest : Laid source a.stop ts stop) :
      Laid source a.start (.leaf (.text s) a :: ts) stop
  | other {t : FlatToken} {ts : List FlatToken} {start n stop : Nat} (no : t.isText = false)
      (lower : start ≤ t.span.start) (stands : t.span.Stands source none) (upper : t.span.stop ≤ n)
      (rest : Laid source n ts stop) : Laid source start (t :: ts) stop

namespace Laid

variable {source : List Char} {start mid stop : Nat} {t : FlatToken} {ts us : List FlatToken}

theorem append (h : Laid source start ts mid) (h' : Laid source mid us stop) :
    Laid source start (ts ++ us) stop := by
  induction h with
  | nil => exact h'
  | text stands rest ih => exact .text stands (ih h')
  | other no lower stands upper rest ih => exact .other no lower stands upper (ih h')

theorem text_inv {s : String} {a : Span} (h : Laid source start (.leaf (.text s) a :: ts) stop) :
    start = a.start ∧ a.Stands source (some s) ∧ Laid source a.stop ts stop := by
  cases h with
  | text stands rest => exact ⟨rfl, stands, rest⟩
  | other no => cases no

theorem cons_inv (h : Laid source start (t :: ts) stop) :
    start ≤ t.span.start ∧ t.span.Stands source t.text? ∧
      ∃ n, t.span.stop ≤ n ∧ Laid source n ts stop := by
  cases h with
  | text stands rest => exact ⟨Nat.le_refl _, stands, _, Nat.le_refl _, rest⟩
  | other no lower stands upper rest =>
    rw [text?_eq_none no]
    exact ⟨lower, stands, _, upper, rest⟩

theorem le (h : Laid source start ts stop) : start ≤ stop := by
  induction h with
  | nil => exact Nat.le_refl _
  | text stands rest ih => exact Nat.le_of_lt (Nat.lt_of_lt_of_le stands.start_lt_stop ih)
  | other no lower stands upper rest ih =>
    have hlt := stands.start_lt_stop
    omega

theorem split (h : Laid source start (ts ++ us) stop) :
    ∃ n, Laid source start ts n ∧ Laid source n us stop := by
  induction ts generalizing start with
  | nil => exact ⟨start, .nil start, h⟩
  | cons t ts ih =>
    cases h with
    | text stands rest =>
      obtain ⟨n, hts, hus⟩ := ih rest
      exact ⟨n, .text stands hts, hus⟩
    | other no lower stands upper rest =>
      obtain ⟨n, hts, hus⟩ := ih rest
      exact ⟨n, .other no lower stands upper hts, hus⟩

theorem squashed (h : Laid source start ts stop) (hsquashed : Squashed ts us) :
    Laid source start us stop := by
  induction hsquashed generalizing start with
  | nil => exact h
  | other no rest ih =>
    cases h with
    | text => cases no
    | other no lower stands upper rest => exact .other no lower stands upper (ih rest)
  | alone s a no rest ih =>
    obtain ⟨rfl, stands, hrest⟩ := h.text_inv
    exact .text stands (ih hrest)
  | joined s s' a b rest ih =>
    obtain ⟨rfl, stands, hrest⟩ := h.text_inv
    obtain ⟨htouch, stands', hrest⟩ := (ih hrest).text_inv
    exact .text (a := ⟨a.start, b.stop⟩) (stands.append stands' htouch) hrest

theorem tag {a : Span} {n : Nat} (before : Placement) (t : Tag) (lower : start ≤ a.start)
    (stands : a.Stands source none) (upper : a.stop ≤ n) (rest : Laid source n ts stop) :
    Laid source start (ofPiece before (.tag t a) :: ts) stop := by
  have hspan : (ofPiece before (.tag t a)).span = a := span_ofPiece before (.tag t a)
  rw [← hspan] at lower stands upper
  exact .other (isText_ofPiece before (.tag t a)) lower stands upper rest

theorem ofPieces {ps : List Piece} (h : Piece.Filled source start ps stop) (before : Placement) :
    Laid source start (FlatToken.ofPieces before ps) stop := by
  induction h generalizing before with
  | nil n => exact .nil n
  | @cons p ps stop stands rest ih =>
    cases p with
    | letter c a => exact .text stands (ih _)
    | tag t a => exact tag before t (Nat.le_refl _) stands (Nat.le_refl _) (ih _)

/-- The tags of a line, which has one. -/
theorem filter_ofPieces {ps : List Piece} (h : Piece.Filled source start ps stop)
    (before : Placement) :
    (ps.any Piece.isTag = true → ∀ n ≤ start,
      Laid source n ((FlatToken.ofPieces before ps).filter (!·.isText)) stop) ∧
    (ps.any Piece.isTag = false → (FlatToken.ofPieces before ps).filter (!·.isText) = []) := by
  induction h generalizing before with
  | nil n => exact ⟨fun h => by simp at h, fun _ => rfl⟩
  | @cons p ps stop stands rest ih =>
    cases p with
    | letter c a =>
      have hskip : (FlatToken.ofPieces before (.letter c a :: ps)).filter (!·.isText) =
          (FlatToken.ofPieces (before.after (.letter c a)) ps).filter (!·.isText) := rfl
      rw [hskip]
      have hle : a.start ≤ a.stop := Nat.le_of_lt stands.start_lt_stop
      exact ⟨fun htag n hn => (ih _).1 htag n (Nat.le_trans hn hle), (ih _).2⟩
    | tag t a =>
      refine ⟨fun _ n hn => ?_, fun hnone => by simp [Piece.isTag] at hnone⟩
      rw [FlatToken.ofPieces, List.filter_cons_of_pos (by simp [isText_ofPiece, Piece.isTag])]
      cases htag : ps.any Piece.isTag with
      | true => exact tag before t hn stands (Nat.le_refl _) ((ih _).1 htag a.stop (Nat.le_refl _))
      | false =>
        rw [(ih _).2 htag]
        exact tag before t hn stands rest.le (.nil stop)

theorem ofLine {line : List Piece} (h : Piece.Filled source start line stop) :
    Laid source start (FlatToken.ofLine line) stop := by
  rw [FlatToken.ofLine]
  split
  · rename_i hstandalone
    rw [Piece.isStandalone, Bool.and_eq_true] at hstandalone
    exact (filter_ofPieces h .start).1 hstandalone.1 start (Nat.le_refl _)
  · exact ofPieces h .start

theorem flatMap_ofLine {lines : List (List Piece)}
    (h : Piece.Filled source start lines.flatten stop) :
    Laid source start (lines.flatMap FlatToken.ofLine) stop := by
  induction lines generalizing start with
  | nil =>
    cases h
    exact .nil _
  | cons line lines ih =>
    rw [List.flatten_cons] at h
    obtain ⟨mid, hline, hlines⟩ := h.split
    exact (ofLine hline).append (ih hlines)

theorem flat {ps : List Piece} (h : Piece.Filled source start ps stop) :
    Laid source start (Piece.flat ps) stop := by
  rw [← Piece.flatten_lines ps] at h
  exact (flatMap_ofLine h).squashed (FlatToken.squashed _)

end Laid

end FlatToken

end PostalAddress
