import PostalAddress.Proofs.Template.Compiling
import PostalAddress.Proofs.Text.Continuing

/-!
# Reading a source that goes on

An operation `Extends` when what it does in a text that ends with white space it also does where the
text goes on, as long as it stops before the end. With delimiters that hold no white space the
reading of a tag is of this kind, so a source that ends with a newline outside its tags is read in
the same way whatever follows it.
-/

namespace PostalAddress

open Text

namespace Scanner

variable {α β : Type}

/-- The scanner at the same place of a text that goes on with `u`. -/
def extend (u : List Char) (s : Scanner) : Scanner := ⟨s.rest ++ u, s.position⟩

structure Extends (op : Scanner → α × Scanner) : Prop where
  reaches : ∀ s : Scanner, s.Reaches (op s).2
  extend : ∀ s u, EndsBlank s.rest → (op s).2.rest ≠ [] →
    op (s.extend u) = ((op s).1, (op s).2.extend u)

theorem Reaches.rest_ne_nil {s s' : Scanner} (h : s.Reaches s') (hne : s'.rest ≠ []) :
    s.rest ≠ [] := by
  intro hnil
  have hsuf := h.suffix
  rw [hnil] at hsuf
  exact hne (List.suffix_nil.mp hsuf)

theorem Reaches.endsBlank {s s' : Scanner} (h : s.Reaches s') (hs : EndsBlank s.rest)
    (hne : s'.rest ≠ []) : EndsBlank s'.rest := hs.of_suffix h.suffix hne

theorem Extends.pure (a : α) : Extends fun s => (a, s) where
  reaches s := Reaches.refl s
  extend _ _ _ _ := rfl

theorem Extends.bind {op : Scanner → α × Scanner} {next : α → Scanner → β × Scanner}
    (h : Extends op) (hn : ∀ a, Extends (next a)) : Extends fun s => next (op s).1 (op s).2 where
  reaches s := (h.reaches s).trans ((hn _).reaches _)
  extend s u hs hne := by
    have hmid : (op s).2.rest ≠ [] := ((hn _).reaches _).rest_ne_nil hne
    rw [h.extend s u hs hmid]
    exact (hn _).extend _ u ((h.reaches s).endsBlank hs hmid) hne

theorem advance_extend {s : Scanner} {n : Nat} (hn : n ≤ s.rest.length) (u : List Char) :
    (s.extend u).advance n = ((s.advance n).1, (s.advance n).2.extend u) :=
  advance_append hn s.position

theorem extends_scan {f : Front} (hf : f.Firm) : Extends fun s => s.scan f.find? where
  reaches s := reaches_scan s _
  extend s u hs hne := by
    simp only [scan_find?] at hne ⊢
    cases hfs : f s.rest with
    | none =>
      have hnone : f (s.extend u).rest = none := hf.none_append s.rest u hs hfs
      rw [hnone]
    | some n =>
      rw [hfs] at hne
      have hn : n < s.rest.length := by
        have hlen := List.length_pos_iff.mpr hne
        simp only [advance, List.length_drop] at hlen
        omega
      have hsome : f (s.extend u).rest = some n := hf.keeps s.rest u n hfs hn
      rw [hsome]
      exact advance_extend (Nat.le_of_lt hn) u

/-- Scanning up to a match, and then over it in a way that extends where the match is next. -/
theorem extends_scanUntil_then {x : List Char} (hx : Blankless x) (hne : x ≠ [])
    {g : List Char → Scanner → β × Scanner}
    (hreaches : ∀ y (s : Scanner), s.Reaches (g y s).2)
    (hnext : ∀ y (s : Scanner) u n, Front.spaced x s.rest = some n → EndsBlank s.rest →
      (g y s).2.rest ≠ [] → g y (s.extend u) = ((g y s).1, (g y s).2.extend u)) :
    Extends fun s => g (s.scanUntil (Front.spaced x).find?).1
      (s.scanUntil (Front.spaced x).find?).2 where
  reaches s := (reaches_scanUntil s _).trans (hreaches _ _)
  extend s u hs hrest := by
    have hmid := (hreaches _ _).rest_ne_nil hrest
    cases hfind : (Front.spaced x).find? s.rest with
    | none =>
      have hend : (s.scanUntil (Front.spaced x).find?).2.rest = [] := by
        simp [scanUntil, hfind, advance]
      exact absurd hend hmid
    | some m =>
      obtain ⟨i, n⟩ := m
      obtain ⟨hi, hmatch⟩ := Front.find?_eq_some hfind
      have hscan : s.scanUntil (Front.spaced x).find? = s.advance i := by
        simp [scanUntil, hfind]
      have hfind' : (Front.spaced x).find? (s.extend u).rest = some (i, n) :=
        Front.find?_spaced_append hx hne hs hfind u
      have hscan' : (s.extend u).scanUntil (Front.spaced x).find? =
          ((s.advance i).1, (s.advance i).2.extend u) := by
        rw [← advance_extend hi u]
        simp [scanUntil, hfind']
      rw [hscan] at hrest hmid ⊢
      rw [hscan']
      exact hnext _ _ u n hmatch ((takes_advance s i).reaches.endsBlank hs hmid) hrest

theorem scan_spaced_extend {x : List Char} (hx : Blankless x) (hne : x ≠ []) {s : Scanner} {n : Nat}
    (h : Front.spaced x s.rest = some n) (u : List Char) :
    (s.extend u).scan (Front.spaced x).find? =
      ((s.scan (Front.spaced x).find?).1, (s.scan (Front.spaced x).find?).2.extend u) := by
  have h' : Front.spaced x (s.extend u).rest = some n := Front.spaced_append hx hne h u
  rw [scan_find?, scan_find?, h, h']
  exact advance_extend (Tag.length_of_spaced h) u

theorem extends_scanPast {x : List Char} (hx : Blankless x) (hne : x ≠ []) :
    Extends (scanPast (Front.spaced x).find?) := by
  refine extends_scanUntil_then hx hne
    (g := fun y s => ((y, (s.scan (Front.spaced x).find?).1),
      (s.scan (Front.spaced x).find?).2)) (fun _ s => reaches_scan s _) ?_
  intro y s u n hmatch _ _
  dsimp only
  rw [scan_spaced_extend hx hne hmatch]

end Scanner

namespace Delimiters

/-- No delimiter holds white space. -/
def Blankless (d : Delimiters) : Prop :=
  Text.Blankless d.opening.toList ∧ Text.Blankless d.closing.toList

instance (d : Delimiters) : Decidable d.Blankless := inferInstanceAs (Decidable (_ ∧ _))

theorem blankless_of_parse {spec : String} {d : Delimiters} (h : parse spec = .ok d) :
    d.Blankless := by
  unfold parse at h
  split at h
  · rename_i a b hwords
    obtain rfl := Except.ok.inj h
    have hmem : ∀ w ∈ [a, b], Text.Blankless w := fun w hw => blankless_of_mem_words (hwords ▸ hw)
    constructor
    · rw [String.toList_ofList]
      exact hmem a (by simp)
    · rw [String.toList_ofList]
      exact hmem b (by simp)
  · cases h

end Delimiters

namespace Tag

open Scanner

variable {d : Delimiters}

theorem toList_ne_nil {s : String} (h : s ≠ "") : s.toList ≠ [] := by
  simpa using h

theorem extends_scanBody (hp : d.Proper) (hd : d.Blankless) (mark : List Char) :
    Extends (scanBody d mark) := by
  have hclosing : Extends (scanPast (closingFront d).find?) :=
    extends_scanPast hd.2 (toList_ne_nil hp.2.1)
  by_cases heq : mark = ['=']
  · subst heq
    exact (extends_scanPast (x := ['=']) (by decide) (by simp)).bind
      fun a => hclosing.bind fun b => Extends.pure (a.1, b.2)
  · by_cases hbrace : mark = ['\x7b']
    · subst hbrace
      have hboth : Blankless ('\x7d' :: d.closing.toList) :=
        List.forall_mem_cons.mpr ⟨by decide, hd.2⟩
      refine extends_scanUntil_then hboth (by simp)
        (g := fun y s =>
          ((y, (scanPast (closingFront d).find? (s.scan (Front.spaced ['\x7d']).find?).2).1.2),
            (scanPast (closingFront d).find? (s.scan (Front.spaced ['\x7d']).find?).2).2))
        (fun _ s => (reaches_scan s _).trans (hclosing.reaches _)) ?_
      intro y s u n hmatch hs hne
      obtain ⟨_, _, _, _, hspaced⟩ := spaced_brace hmatch
      have hmid := (hclosing.reaches _).rest_ne_nil hne
      dsimp only
      rw [scan_spaced_extend (by decide) (by simp) hspaced,
        hclosing.extend _ u ((reaches_scan s _).endsBlank hs hmid) hne]
    · have hbody : scanBody d mark = scanPast (closingFront d).find? := by
        funext s
        rw [scanBody, scanValue, if_neg heq, if_neg hbrace]
        rfl
      rw [hbody]
      exact hclosing

theorem firm_openingFront (hd : d.Blankless) : (openingFront d).Firm :=
  (Front.firm_exactly hd.1).andThen_run isBlank

theorem firm_sigil : sigil.Firm where
  keeps t u n h hn := by
    cases t with
    | nil => cases hn
    | cons c r => exact h
  none_append t u ht h := by
    cases t with
    | nil =>
      obtain ⟨c, hc, _⟩ := ht
      cases hc
    | cons c r => exact h

theorem extends_scanParts (hp : d.Proper) (hd : d.Blankless) : Extends (scanParts d) :=
  (extends_scan (firm_openingFront hd)).bind fun _ =>
    (extends_scan firm_sigil).bind fun mark =>
      (extends_scan (Front.firm_run isBlank)).bind fun _ =>
        (extends_scanBody hp hd mark).bind fun a => Extends.pure (mark, a.1, a.2)

theorem scan_extend {s s' : Scanner} {tag : Tag} (hp : d.Proper) (hd : d.Blankless)
    (h : Tag.scan d s = .ok (tag, s')) (hs : EndsBlank s.rest) (hne : s'.rest ≠ [])
    (u : List Char) : Tag.scan d (s.extend u) = .ok (tag, s'.extend u) := by
  obtain ⟨mark, value, closed, hparts, hclosed, htag⟩ := scan_eq_ok_iff.mp h
  have hextend := (extends_scanParts hp hd).extend s u hs (by rwa [hparts])
  rw [hparts] at hextend
  exact scan_eq_ok_iff.mpr ⟨mark, value, closed, hextend, hclosed, htag⟩

theorem blankless_delimitersAfter {s s' : Scanner} {tag : Tag}
    (h : Tag.scan d s = .ok (tag, s')) (hd : d.Blankless) : (tag.delimitersAfter d).Blankless := by
  obtain ⟨mark, value, closed, _, _, htag⟩ := scan_eq_ok_iff.mp h
  cases tag with
  | delimiters d' => exact Delimiters.blankless_of_parse (accepted_of_ofSigil htag).1
  | _ => exact hd

end Tag

namespace Reads

variable {d d' : Delimiters} {s s' : Scanner} {ps : List Piece}

theorem extend (h : Reads d s ps d' s') (hp : d.Proper) (hd : d.Blankless)
    (hs : EndsBlank s.rest) (hne : s'.rest ≠ []) (u : List Char) :
    Reads d (s.extend u) ps d' (s'.extend u) := by
  induction h with
  | done d s => exact .done d _
  | @letter d d' c r p ps s' no rest ih =>
    have hr : EndsBlank r := hs.of_suffix (List.suffix_cons c r) (rest.reaches.rest_ne_nil hne)
    have hno : ¬ d.opening.toList <+: (c :: r) ++ u := by rwa [prefix_append_iff hs hd.1]
    exact .letter hno (ih hp hd hr hne)
  | @tag d d' s after s' tag ps nonempty yes scan rest ih =>
    have hmid := rest.reaches.rest_ne_nil hne
    have hafter : EndsBlank after.rest := (Tag.reaches_scanTag scan).endsBlank hs hmid
    have hrest := ih (Tag.proper_delimitersAfter scan hp) (Tag.blankless_delimitersAfter scan hd)
      hafter hne
    refine @Reads.tag _ _ _ (after.extend u) _ _ _ ?_ (yes.trans (List.prefix_append _ u))
      (Tag.scan_extend hp hd scan hs hmid u) hrest
    exact fun hnil => nonempty (List.append_eq_nil_iff.mp hnil).1

end Reads

end PostalAddress
