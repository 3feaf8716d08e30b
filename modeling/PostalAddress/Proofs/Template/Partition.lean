import PostalAddress.Proofs.Pattern.Leftmost
import PostalAddress.Proofs.Template.Spans

/-!
# Scanning cuts a source in two

Every call of a scanner gives the text that it passes over. However often and with whatever
patterns a scanner is called, the texts given are the first bytes of its source, as many as its
position says, and what is left is the rest. A scan passes over a match at the place of the scanner
or stays there; a scan up to a match stops where the leftmost match in what is left begins, or at
the end.
-/

namespace PostalAddress

open Text

/-- A text in the form of patterns and the pattern it stands for. -/
structure ParsedPattern where
  text : String
  pattern : Pattern
  parse_eq : Pattern.parse? text = some pattern

namespace ParsedPattern

/-- What the node that the text stands for matches. -/
def Matches (p : ParsedPattern) : Reading := fun before x after =>
  ∃ n, Node.ofText? p.text = some n ∧ n.Matches before x after

theorem finds (p : ParsedPattern) : p.pattern.finder.Finds p.Matches := by
  obtain ⟨n, htext, hprogram⟩ := Pattern.exists_program_of_parse? p.parse_eq
  have hmatches : p.Matches = n.Matches := by
    funext before x after
    simp [Matches, htext]
  rw [hmatches]
  exact Pattern.finds_of_program hprogram

end ParsedPattern

/-- Where `x` ends the leftmost match begins, or there is no match and nothing follows. -/
def Reading.LeftmostAfter (M : Reading) (x rest : List Char) : Prop :=
  (M.StartsAt x rest ∧ ∀ b r, b ++ r = x ++ rest → M.StartsAt b r → x.length ≤ b.length) ∨
    (rest = [] ∧ ∀ b r, b ++ r = x ++ rest → ¬ M.StartsAt b r)

namespace Scanner

theorem Takes.eq_of_nil {s s' : Scanner} (h : s.Takes [] s') : s' = s := by
  have hrest : s'.rest = s.rest := h.rest_eq.symm
  have hposition : s'.position = s.position := h.position_eq
  cases s
  cases s'
  simp_all

section Finds

variable {find : Finder} {M : Reading}

theorem advance_of_append {s : Scanner} {x rest : List Char} (h : s.rest = x ++ rest) :
    s.advance x.length = (x, ⟨rest, s.position + byteLength x⟩) := by
  rw [advance, h, List.take_left, List.drop_left]

/-- Scanning passes over a match that begins at the place, and stays where none does. -/
theorem scan_of_finds (h : find.Finds M) (s : Scanner) :
    M [] (s.scan find).1 (s.scan find).2.rest ∨
      (¬ M.StartsAt [] s.rest ∧ s.scan find = ([], s)) := by
  cases hfind : find s.rest with
  | none => exact .inr ⟨h.none hfind [] s.rest rfl, by simp only [scan, hfind]⟩
  | some m =>
    obtain ⟨i, n⟩ := m
    obtain ⟨before, x, after, htext, rfl, rfl, hx, hfirst⟩ := h.some hfind
    cases before with
    | nil =>
      have hscan : s.scan find = s.advance x.length := by
        simp only [scan, hfind, List.length_nil]
      have hadvance : s.advance x.length = (x, ⟨after, s.position + byteLength x⟩) :=
        advance_of_append htext.symm
      rw [hscan, hadvance]
      exact .inl hx
    | cons c before =>
      refine .inr ⟨fun hstarts => ?_, by simp only [scan, hfind, List.length_cons]⟩
      exact absurd (hfirst [] s.rest rfl hstarts) (Nat.not_succ_le_zero _)

theorem scanUntil_of_finds (h : find.Finds M) (s : Scanner) :
    M.LeftmostAfter (s.scanUntil find).1 (s.scanUntil find).2.rest := by
  cases hfind : find s.rest with
  | none =>
    have hscan : s.scanUntil find = s.advance s.rest.length := by simp only [scanUntil, hfind]
    rw [hscan, advance_of_append (List.append_nil s.rest).symm]
    refine .inr ⟨rfl, fun b r hbr => ?_⟩
    exact h.none hfind b r (hbr.trans (List.append_nil s.rest))
  | some m =>
    obtain ⟨i, n⟩ := m
    obtain ⟨before, x, after, htext, rfl, -, hx, hfirst⟩ := h.some hfind
    have hscan : s.scanUntil find = s.advance before.length := by simp only [scanUntil, hfind]
    rw [hscan, advance_of_append htext.symm]
    refine .inl ⟨⟨x, after, rfl, hx⟩, fun b r hbr hstarts => ?_⟩
    exact hfirst b r (hbr.trans htext) hstarts

end Finds

inductive Call
  | scan (p : ParsedPattern)
  | scanUntil (p : ParsedPattern)

def answer (s : Scanner) : Call → List Char × Scanner
  | .scan p => s.scan p.pattern.finder
  | .scanUntil p => s.scanUntil p.pattern.finder

/-- The texts that the calls give one after the other, and the scanner after them. -/
def run (s : Scanner) : List Call → List (List Char) × Scanner
  | [] => ([], s)
  | c :: cs =>
    let (x, s) := s.answer c
    let (xs, s) := s.run cs
    (x :: xs, s)

theorem takes_answer (s : Scanner) (c : Call) : s.Takes (s.answer c).1 (s.answer c).2 := by
  cases c with
  | scan p => exact takes_scan s _
  | scanUntil p => exact takes_scanUntil s _

theorem takes_run (s : Scanner) (cs : List Call) :
    s.Takes (s.run cs).1.flatten (s.run cs).2 := by
  induction cs generalizing s with
  | nil => exact Takes.nil s
  | cons c cs ih => exact (takes_answer s c).append (ih (s.answer c).2)

/-- The source is the text given so far and the rest, with the position between them. -/
structure Partitions (source given : List Char) (s : Scanner) : Prop where
  takeBytes_eq : takeBytes s.position source = some given
  dropBytes_eq : dropBytes s.position source = some s.rest
  position_le : s.position ≤ byteLength source
  atEnd_iff : s.atEnd = true ↔ s.rest = []
  atEnd_iff_position : s.atEnd = true ↔ s.position = byteLength source

theorem Takes.partitions {source given : List Char} {s : Scanner}
    (h : (ofText source).Takes given s) : Partitions source given s := by
  have hsource : source = given ++ s.rest := h.rest_eq
  have hposition : s.position = byteLength given := by rw [h.position_eq, ofText, Nat.zero_add]
  have hlength : byteLength source = s.position + byteLength s.rest := by
    rw [hsource, byteLength_append, hposition]
  have hend : s.atEnd = true ↔ s.rest = [] := List.isEmpty_iff
  refine ⟨?_, ?_, ?_, hend, hend.trans ⟨fun hrest => ?_, fun heq => ?_⟩⟩
  · rw [hposition, hsource, takeBytes_append]
  · rw [hposition, hsource, dropBytes_append]
  · rw [hlength]
    exact Nat.le_add_right _ _
  · rw [hlength, hrest, byteLength, Nat.add_zero]
  · exact eq_nil_of_byteLength_eq_zero (by omega)

/-- After any calls the source is what they gave and the rest. The next call goes on from there: a
scan passes over a match or stays, and a scan up to a match stops at the leftmost or at the end. -/
theorem run_partitions (source : List Char) (calls : List Call) (call : Call) :
    let s := ((ofText source).run calls).2
    let x := (s.answer call).1
    let s' := (s.answer call).2
    Partitions source ((ofText source).run calls).1.flatten s ∧
      s.rest = x ++ s'.rest ∧ s.position ≤ s'.position ∧
      match call with
      | .scan p =>
        (p.Matches [] x s'.rest ∨ ¬ p.Matches.StartsAt [] s.rest ∧ x = []) ∧ (x = [] → s' = s)
      | .scanUntil p => p.Matches.LeftmostAfter x s'.rest := by
  intro s x s'
  have hrun : (ofText source).Takes ((ofText source).run calls).1.flatten s := takes_run _ calls
  have htakes : s.Takes x s' := takes_answer s call
  have hle : s.position ≤ s'.position := by
    rw [htakes.position_eq]
    exact Nat.le_add_right _ _
  refine ⟨hrun.partitions, htakes.rest_eq, hle, ?_⟩
  cases call with
  | scan p =>
    have hscan := (scan_of_finds p.finds s).imp_right (And.imp_right (congrArg Prod.fst))
    refine ⟨hscan, fun hx => ?_⟩
    rw [hx] at htakes
    exact htakes.eq_of_nil
  | scanUntil p => exact scanUntil_of_finds p.finds s

example : (Pattern.parse? "\\\x7b+ *$").map (fun p =>
    let s := ((ofText "Curaçao \x7b\x7b".toList).scanUntil p.finder).2
    (s.position, s.rest, (s.scan p.finder).2.atEnd)) = some (9, ['\x7b', '\x7b'], true) := by
  decide +kernel

end Scanner

end PostalAddress
