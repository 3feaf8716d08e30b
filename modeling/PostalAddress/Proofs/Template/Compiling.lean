import PostalAddress.Proofs.Template.Delimiters
import PostalAddress.Proofs.Template.Flat

/-!
# Sources that compile

A source compiles when it is read to its end and its flat tokens nest; of the checks on the way
none is left out, and their order makes no difference to it. Delimiters that a tag sets are
accepted.
-/

namespace PostalAddress

open Text

theorem Tag.proper_delimitersAfter {d : Delimiters} {s s' : Scanner} {tag : Tag}
    (h : Tag.scan d s = .ok (tag, s')) (hd : d.Proper) : (tag.delimitersAfter d).Proper := by
  obtain ⟨mark, value, closed, _, _, htag⟩ := Tag.scan_eq_ok_iff.mp h
  cases tag with
  | delimiters d' => exact (Tag.accepted_of_ofSigil htag).2
  | _ => exact hd

theorem Reads.proper {d d' : Delimiters} {s s' : Scanner} {ps : List Piece}
    (h : Reads d s ps d' s') (hd : d.Proper) : d'.Proper := by
  induction h with
  | done d s => exact hd
  | letter no rest ih => exact ih hd
  | tag nonempty yes scan rest ih => exact ih (Tag.proper_delimitersAfter scan hd)

theorem Reads.eq_nil {d d' : Delimiters} {s s' : Scanner} {ps : List Piece}
    (h : Reads d s ps d' s') (hs : s.rest = []) : ps = [] := by
  cases h with
  | done => rfl
  | letter no rest => cases hs
  | tag nonempty yes scan rest => exact absurd hs nonempty

theorem flatTokens_eq (source : List Char) (d : Delimiters) :
    flatTokens source d = (openSections [] (Pieces.read d 0 0 source).list).bind fun names =>
      match (Pieces.read d 0 0 source).failure, names with
      | some e, _ => .error e
      | none, name :: _ => .error (.unclosedSection name (byteLength source))
      | none, [] => .ok (Piece.flat (Pieces.read d 0 0 source).list) := by
  unfold flatTokens
  dsimp only
  cases openSections [] (Pieces.read d 0 0 source).list with
  | error e => rfl
  | ok names =>
    cases (Pieces.read d 0 0 source).failure with
    | some e => rfl
    | none =>
      cases names with
      | nil =>
        rw [Piece.flat, ← LineReader.read_eq]
        rfl
      | cons name names => rfl

theorem flatTokens_eq_ok_iff {source : List Char} {d : Delimiters} {ts : List FlatToken} :
    flatTokens source d = .ok ts ↔ ∃ ps d' p', Reads d ⟨source, 0⟩ ps d' ⟨[], p'⟩ ∧
      openSections [] ps = .ok [] ∧ ts = Piece.flat ps := by
  rw [flatTokens_eq]
  constructor
  · intro h
    cases hopen : openSections [] (Pieces.read d 0 0 source).list with
    | error e =>
      rw [hopen] at h
      cases h
    | ok names =>
      cases hfail : (Pieces.read d 0 0 source).failure with
      | some e =>
        rw [hopen, hfail] at h
        cases h
      | none =>
        rw [hopen, hfail] at h
        cases names with
        | cons name names => cases h
        | nil =>
          have hread : Pieces.read d 0 0 source = ⟨(Pieces.read d 0 0 source).list, none⟩ := by
            rw [← hfail]
          obtain ⟨d', p', hread⟩ := Pieces.read_eq_iff.mp hread
          exact ⟨_, d', p', hread, hopen, (Except.ok.inj h).symm⟩
  · rintro ⟨ps, d', p', hread, hopen, rfl⟩
    rw [Pieces.read_eq_iff.mpr ⟨d', p', hread⟩]
    dsimp only
    rw [hopen]
    rfl

theorem nest_flatTokens_eq_ok_iff {source : List Char} {d : Delimiters} {us : List Token} :
    (flatTokens source d).bind Token.nest = .ok us ↔
      ∃ ps d' p', Reads d ⟨source, 0⟩ ps d' ⟨[], p'⟩ ∧ Nested (Piece.flat ps) us := by
  constructor
  · intro h
    cases hflat : flatTokens source d with
    | error e =>
      rw [hflat] at h
      cases h
    | ok ts =>
      obtain ⟨ps, d', p', hread, hopen, rfl⟩ := flatTokens_eq_ok_iff.mp hflat
      obtain ⟨us', hnest⟩ := openSections_eq_nil_iff.mp hopen
      rw [hflat, Except.bind, hnest.nest_eq] at h
      obtain rfl := Except.ok.inj h
      exact ⟨ps, d', p', hread, hnest⟩
  · rintro ⟨ps, d', p', hread, hnest⟩
    have hopen := openSections_eq_nil_iff.mpr ⟨us, hnest⟩
    rw [flatTokens_eq_ok_iff.mpr ⟨ps, d', p', hread, hopen, rfl⟩, Except.bind, hnest.nest_eq]

namespace Template

variable {source : String} {d : Delimiters}

theorem compile_of_proper (hd : d.Proper) :
    compile source d =
      ((flatTokens source.toList d).bind Token.nest).map fun us => ⟨source, d, us⟩ := by
  by_cases hne : source = ""
  · subst hne
    rfl
  · have hempty : ¬ source.isEmpty = true := fun h => hne (String.isEmpty_iff.mp h)
    unfold compile
    rw [if_neg hempty, Delimiters.check_of_proper hd]
    cases flatTokens source.toList d with
    | error e => rfl
    | ok ts =>
      change (Token.nest ts).bind (fun us => .ok (Template.mk source d us)) = (Token.nest ts).map _
      cases Token.nest ts <;> rfl

theorem compile_of_not_proper (hne : source ≠ "") (hd : ¬ d.Proper) :
    compile source d = .error (.invalidDelimiters (d.opening ++ " " ++ d.closing)) := by
  have hempty : ¬ source.isEmpty = true := fun h => hne (String.isEmpty_iff.mp h)
  unfold compile
  rw [if_neg hempty, Delimiters.check_of_not_proper hd]
  rfl

theorem compile_eq_ok_iff {t : Template} :
    compile source d = .ok t ↔
      t.source = source ∧ t.delimiters = d ∧ (source ≠ "" → d.Proper) ∧
        ∃ ps d' p', Reads d ⟨source.toList, 0⟩ ps d' ⟨[], p'⟩ ∧ Nested (Piece.flat ps) t.tokens := by
  by_cases hne : source = ""
  · subst hne
    constructor
    · intro h
      obtain rfl := Except.ok.inj h
      exact ⟨rfl, rfl, fun hne => absurd rfl hne, [], d, 0, .done d _, .nil⟩
    · rintro ⟨hsource, rfl, _, ps, d', p', hread, hnest⟩
      obtain rfl := hread.eq_nil rfl
      cases t
      cases hsource
      cases hnest
      rfl
  · by_cases hd : d.Proper
    · rw [compile_of_proper hd]
      constructor
      · intro h
        cases hnest : (flatTokens source.toList d).bind Token.nest with
        | error e =>
          rw [hnest] at h
          cases h
        | ok us =>
          rw [hnest] at h
          obtain rfl := Except.ok.inj h
          exact ⟨rfl, rfl, fun _ => hd, nest_flatTokens_eq_ok_iff.mp hnest⟩
      · rintro ⟨hsource, rfl, _, hread⟩
        rw [nest_flatTokens_eq_ok_iff.mpr hread]
        cases t
        cases hsource
        rfl
    · rw [compile_of_not_proper hne hd]
      constructor
      · intro h
        cases h
      · rintro ⟨_, _, h, _⟩
        exact absurd (h hne) hd

end Template

end PostalAddress
