import PostalAddress.Proofs.Text.Widening
import PostalAddress.Proofs.Template.Compiling
import PostalAddress.Proofs.Template.Continuing
import PostalAddress.Template.Renderer

/-!
# The tags of an indented partial

White space is read over before and after the value of a tag, so indenting the lines of a partial
changes no tag of it, unless a line ends within a name. Tags that set delimiters are left out: the
pieces behind them would have to be read with others.
-/

namespace PostalAddress

open Text

namespace Piece

def tag? : Piece → Option Tag
  | .letter _ _ => none
  | .tag t _ => some t

end Piece

/-- The tags of the pieces that could be read. -/
def Pieces.tags (ps : Pieces) : List Tag := ps.list.filterMap Piece.tag?

/-- The tags of a source, as far as it can be read. -/
def Template.tags (source : String) (d : Delimiters) : List Tag :=
  (Pieces.read d 0 0 source.toList).tags

/-- The tag sets no delimiters, and its name stands on one line. -/
def Tag.IsSteady : Tag → Prop
  | .var name _ => '\n' ∉ name.toList
  | .opening name _ => '\n' ∉ name.toList
  | .closing name => '\n' ∉ name.toList
  | .inclusion name => '\n' ∉ name.toList
  | .delimiters _ => False
  | .comment => True

instance : DecidablePred Tag.IsSteady
  | .var name _ => inferInstanceAs (Decidable ('\n' ∉ name.toList))
  | .opening name _ => inferInstanceAs (Decidable ('\n' ∉ name.toList))
  | .closing name => inferInstanceAs (Decidable ('\n' ∉ name.toList))
  | .inclusion name => inferInstanceAs (Decidable ('\n' ∉ name.toList))
  | .delimiters _ => .isFalse id
  | .comment => .isTrue trivial

theorem Tag.IsSteady.delimitersAfter_eq {t : Tag} (h : t.IsSteady) (d : Delimiters) :
    t.delimitersAfter d = d := by
  cases t with
  | delimiters d' => exact h.elim
  | _ => rfl

namespace Scanner

variable {s s' : Scanner} (h : Widened s.rest s'.rest)

include h

theorem widened_scan {f : Front} (hf : f.Tolerant) :
    Widened (s.scan f.find?).1 (s'.scan f.find?).1 ∧
      Widened (s.scan f.find?).2.rest (s'.scan f.find?).2.rest := by
  rw [scan_find?, scan_find?]
  obtain ⟨hn, hm⟩ | ⟨n, m, hn, hm, hcut⟩ := hf _ _ h
  · rw [hn, hm]
    exact ⟨.nil, h⟩
  · rw [hn, hm]
    exact hcut

theorem widened_scanUntil {x : List Char} (hx : Blankless x) (hne : x ≠ []) :
    Widened (s.scanUntil (Front.spaced x).find?).1 (s'.scanUntil (Front.spaced x).find?).1 ∧
      Widened (s.scanUntil (Front.spaced x).find?).2.rest
        (s'.scanUntil (Front.spaced x).find?).2.rest := by
  unfold scanUntil
  obtain ⟨hi, hj⟩ | ⟨i, n, j, m, hi, hj, hcut⟩ := Front.find?_spaced_widened hx hne h
  · rw [hi, hj]
    exact h.cutAt_length
  · rw [hi, hj]
    exact hcut

end Scanner

namespace Tag

open Scanner

/-- The sigil is no white space, so it is the same in a widened text. -/
theorem tolerant_sigil : sigil.Tolerant := by
  intro t t' h
  cases h with
  | nil => exact .inl ⟨rfl, rfl⟩
  | @keep c r r' rest =>
    rw [sigil, sigil]
    split
    · exact .inr ⟨1, 1, rfl, rfl, .keep c .nil, rest⟩
    · exact .inl ⟨rfl, rfl⟩
  | line => exact .inl ⟨rfl, rfl⟩

theorem not_mem_sigil (s : Scanner) : '\n' ∉ (s.scan sigil.find?).1 := by
  rw [scan_find?]
  split
  · rename_i n hn
    obtain ⟨t, p⟩ := s
    cases t with
    | nil => cases hn
    | cons c r =>
      dsimp only at hn
      rw [sigil] at hn
      split at hn
      · rename_i hc
        obtain rfl := Option.some.inj hn
        rintro hmem
        obtain rfl := List.mem_singleton.mp hmem
        exact absurd hc (by decide)
      · cases hn
  · exact List.not_mem_nil

variable {d : Delimiters} (hd : d.Blankless) (hne : d.Proper)

include hd hne

theorem tolerant_closingFront : (closingFront d).Tolerant :=
  Front.tolerant_spaced hd.2 fun hnil => hne.2.1 (String.toList_eq_nil_iff.mp hnil)

theorem widened_scanUntil_closingFront {s s' : Scanner} (h : Widened s.rest s'.rest) :
    Widened (s.scanUntil (closingFront d).find?).1 (s'.scanUntil (closingFront d).find?).1 ∧
      Widened (s.scanUntil (closingFront d).find?).2.rest
        (s'.scanUntil (closingFront d).find?).2.rest :=
  widened_scanUntil h hd.2 fun hnil => hne.2.1 (String.toList_eq_nil_iff.mp hnil)

theorem widened_scanValue {mark mark' : List Char} (hmark : mark' = mark) {s s' : Scanner}
    (h : Widened s.rest s'.rest) :
    Widened (scanValue d mark s).1 (scanValue d mark' s').1 ∧
      Widened (scanValue d mark s).2.rest (scanValue d mark' s').2.rest := by
  subst hmark
  have hskip : ∀ {c : Char}, isBlank c = false → ∀ {s s' : Scanner}, Widened s.rest s'.rest →
      Widened (skipTo d (.spaced [c]) s).rest (skipTo d (.spaced [c]) s').rest := by
    intro c hc s s' h
    have htolerant := Front.tolerant_spaced (x := [c]) (List.forall_mem_singleton.mpr hc)
      (List.cons_ne_nil c [])
    exact (widened_scanUntil_closingFront hd hne (widened_scan h htolerant).2).2
  unfold scanValue
  split
  · obtain ⟨hvalue, hrest⟩ := widened_scanUntil h (x := ['=']) (by decide) (by decide)
    exact ⟨hvalue, hskip (by decide) hrest⟩
  · split
    · have hbrace : Blankless ('\x7d' :: d.closing.toList) :=
        List.forall_mem_cons.mpr ⟨by decide, hd.2⟩
      obtain ⟨hvalue, hrest⟩ := widened_scanUntil h hbrace (List.cons_ne_nil _ _)
      exact ⟨hvalue, hskip (by decide) hrest⟩
    · exact widened_scanUntil_closingFront hd hne h

/-- The parts of a tag in a text and in the widened text. -/
theorem widened_scanParts {s s' : Scanner} (h : Widened s.rest s'.rest) :
    (scanParts d s').1.1 = (scanParts d s).1.1 ∧
      Widened (scanParts d s).1.2.1 (scanParts d s').1.2.1 ∧
      Widened (scanParts d s).1.2.2 (scanParts d s').1.2.2 ∧
      Widened (scanParts d s).2.rest (scanParts d s').2.rest := by
  have hopening : (openingFront d).Tolerant :=
    (Front.tolerant_exactly hd.1).andThen Front.tolerant_blanks
  obtain ⟨_, hrest⟩ := widened_scan h hopening
  obtain ⟨hmark, hrest⟩ := widened_scan hrest tolerant_sigil
  obtain ⟨_, hrest⟩ := widened_scan hrest Front.tolerant_blanks
  have hsame := hmark.eq_of_not_mem (not_mem_sigil _)
  obtain ⟨hvalue, hrest⟩ := widened_scanValue hd hne hsame hrest
  obtain ⟨hclosed, hrest⟩ := widened_scan hrest (tolerant_closingFront hd hne)
  exact ⟨hsame, hvalue, hclosed, hrest⟩

omit hd hne

theorem parse_widened {value value' : List Char} (h : Widened value value') :
    Delimiters.parse (String.ofList value') =
      (Delimiters.parse (String.ofList value)).mapError
        fun _ => .invalidDelimiters (String.ofList value') := by
  unfold Delimiters.parse
  rw [String.toList_ofList, String.toList_ofList, h.words_eq]
  split <;> rfl

/-- A name on one line stays, and what a comment says makes no difference. -/
theorem ofSigil_widened {mark value value' : List Char} (h : Widened value value') {tag : Tag}
    (hsteady : tag.IsSteady) (htag : ofSigil mark (String.ofList value) = .ok tag) :
    ofSigil mark (String.ofList value') = .ok tag := by
  by_cases hline : '\n' ∈ value
  · have hname : '\n' ∈ (String.ofList value).toList := by rwa [String.toList_ofList]
    by_cases hmark : mark = ['=']
    · subst hmark
      obtain ⟨d, rfl, _⟩ := ofSigil_set_eq_ok_iff.mp htag
      exact hsteady.elim
    · unfold ofSigil at htag ⊢
      split at htag
      case h_5 => exact absurd rfl hmark
      case h_6 => exact htag
      all_goals
        obtain rfl := Except.ok.inj htag
        exact absurd hname hsteady
  · rw [h.eq_of_not_mem hline, htag]

theorem ofSigil_widened_error {mark value value' : List Char} (h : Widened value value')
    {e : TemplateError} (he : ofSigil mark (String.ofList value) = .error e) :
    ∃ e', ofSigil mark (String.ofList value') = .error e' := by
  by_cases hmark : mark = ['=']
  · subst hmark
    rw [ofSigil_set] at he ⊢
    rw [parse_widened h]
    cases hparse : Delimiters.parse (String.ofList value) with
    | error e' => exact ⟨_, rfl⟩
    | ok d =>
      rw [hparse] at he
      exact ⟨e, he⟩
  · unfold ofSigil at he
    split at he
    all_goals first | exact absurd rfl hmark | cases he

/-- A tag is read from a widened text where it is read from the text. -/
theorem scan_widened {d : Delimiters} (hd : d.Blankless) (hne : d.Proper) {t t' : List Char}
    (h : Widened t t') (p p' : Nat) :
    (∃ e e', Tag.scan d ⟨t, p⟩ = .error e ∧ Tag.scan d ⟨t', p'⟩ = .error e') ∨
      ∃ tag after, Tag.scan d ⟨t, p⟩ = .ok (tag, after) ∧ (tag.IsSteady →
        ∃ after', Tag.scan d ⟨t', p'⟩ = .ok (tag, after') ∧ Widened after.rest after'.rest) := by
  have hwidened : Widened (Scanner.mk t p).rest (Scanner.mk t' p').rest := h
  obtain ⟨hmark, hvalue, hclosed, hrest⟩ := widened_scanParts hd hne hwidened
  rw [scan_eq, scan_eq, hmark]
  by_cases hempty : (scanParts d ⟨t, p⟩).1.2.2 = []
  · have hempty' := hclosed.eq_nil_iff.mpr hempty
    rw [hempty, hempty']
    exact .inl ⟨_, _, rfl, rfl⟩
  · have hempty' : (scanParts d ⟨t', p'⟩).1.2.2 ≠ [] := fun hnil =>
      hempty (hclosed.eq_nil_iff.mp hnil)
    rw [if_neg (by simpa using hempty), if_neg (by simpa using hempty')]
    cases htag : ofSigil (scanParts d ⟨t, p⟩).1.1 (String.ofList (scanParts d ⟨t, p⟩).1.2.1) with
    | error e =>
      obtain ⟨e', he'⟩ := ofSigil_widened_error hvalue htag
      rw [he']
      exact .inl ⟨e, e', rfl, rfl⟩
    | ok tag =>
      refine .inr ⟨tag, _, rfl, fun hsteady => ⟨_, ?_, hrest⟩⟩
      rw [ofSigil_widened hvalue hsteady htag]
      rfl

end Tag

namespace Pieces

variable {d : Delimiters} (hd : d.Blankless) (hne : d.Proper)

@[simp] theorem tags_cons_letter (c : Char) (a : Span) (ps : Pieces) :
    (cons (.letter c a) ps).tags = ps.tags := rfl

@[simp] theorem tags_cons_tag (t : Tag) (a : Span) (ps : Pieces) :
    (cons (.tag t a) ps).tags = t :: ps.tags := rfl

include hd hne

/-- White space holds no tag. -/
theorem tags_read_blanks {gap : List Char} (hgap : ∀ g ∈ gap, isBlank g) (p : Nat)
    (t : List Char) :
    (read d p 0 (gap ++ t)).tags = (read d (p + byteLength gap) 0 t).tags := by
  induction gap generalizing p with
  | nil => rfl
  | cons g gap ih =>
    obtain ⟨hg, hgap⟩ := List.forall_mem_cons.mp hgap
    have hno : ¬ d.opening.toList <+: g :: (gap ++ t) := by
      intro hstarts
      obtain ⟨c, x, hx⟩ := List.exists_cons_of_ne_nil
        fun hnil => hne.1 (String.toList_eq_nil_iff.mp hnil)
      rw [hx] at hstarts
      obtain ⟨rfl, _⟩ := List.cons_prefix_cons.mp hstarts
      have hc := hd.1 c (hx ▸ List.mem_cons_self)
      rw [hg] at hc
      cases hc
    rw [List.cons_append, read_letter p hno, tags_cons_letter, ih hgap, byteLength, Nat.add_assoc]

/-- A widened text has the tags of the text. -/
theorem tags_read_widened {t t' : List Char} (h : Widened t t') (p p' : Nat)
    (hsteady : ∀ tag ∈ (read d p 0 t).tags, tag.IsSteady) :
    (read d p' 0 t').tags = (read d p 0 t).tags := by
  -- A tag may take any number of characters, so the induction is on how many are left.
  generalize hn : t.length = n
  induction n using Nat.strongRecOn generalizing t t' p p' with
  | ind n ih =>
    obtain ⟨rfl, rfl⟩ | ⟨c, gap, r, r', rfl, rfl, hgap, hrest⟩ :
        (t = [] ∧ t' = []) ∨ ∃ c gap r r', t = c :: r ∧ t' = c :: (gap ++ r') ∧
          (∀ g ∈ gap, isBlank g) ∧ Widened r r' := by
      cases h with
      | nil => exact .inl ⟨rfl, rfl⟩
      | keep c rest => exact .inr ⟨c, [], _, _, rfl, rfl, nofun, rest⟩
      | line blank rest => exact .inr ⟨_, _, _, _, rfl, rfl, blank, rest⟩
    · rfl
    · rw [List.length_cons] at hn
      by_cases hopen : d.opening.toList <+: c :: r
      · have hopen' := (h.prefix_iff hd.1).mpr hopen
        obtain ⟨e, e', he, he'⟩ | ⟨tag, after, hscan, hscan'⟩ := Tag.scan_widened hd hne h p p'
        · rw [read_error hopen he, read_error hopen' he']
          rfl
        · have hread := read_tag (s := ⟨c :: r, p⟩) hopen hscan
          dsimp only at hread
          rw [hread, tags_cons_tag, List.forall_mem_cons] at hsteady
          obtain ⟨htag, hsteady⟩ := hsteady
          obtain ⟨after', hscan', hafter⟩ := hscan' htag
          have hread' := read_tag (s := ⟨c :: (gap ++ r'), p'⟩) hopen' hscan'
          dsimp only at hread'
          have hlen := Tag.length_scanTag hscan hopen
          rw [List.length_cons] at hlen
          rw [htag.delimitersAfter_eq] at hread hread' hsteady
          rw [hread, hread', tags_cons_tag, tags_cons_tag,
            ih after.rest.length (by omega) hafter after.position after'.position hsteady rfl]
      · have hopen' : ¬ d.opening.toList <+: c :: (gap ++ r') := fun hstarts =>
          hopen ((h.prefix_iff hd.1).mp hstarts)
        rw [read_letter p hopen, tags_cons_letter] at hsteady ⊢
        rw [read_letter p' hopen', tags_cons_letter, tags_read_blanks hd hne hgap]
        exact ih r.length (by omega) hrest _ _ hsteady rfl

end Pieces

/-- A partial has the tags it has wherever it is included. -/
theorem Template.tags_partialText {d : Delimiters} (hd : d.Blankless) (hne : d.Proper) (text : String)
    (hsteady : ∀ tag ∈ tags text d, tag.IsSteady) (placement : Placement) :
    tags (Renderer.partialText text placement) d = tags text d := by
  unfold Renderer.partialText
  split
  · obtain ⟨gap, t, htext, hgap, hwidened⟩ := exists_widened_indentPartial text
      placement.indentation placement.lineHasContent
    rw [tags, htext, Pieces.tags_read_blanks hd hne hgap]
    exact Pieces.tags_read_widened hd hne hwidened 0 _ hsteady
  · rfl

end PostalAddress
