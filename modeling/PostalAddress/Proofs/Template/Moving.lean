import PostalAddress.Proofs.Template.Compiling

/-!
# Reading a source from another position

Positions are counted, never looked at: an operation `Floats` when it does the same from a position
further on and ends as much further on. So the pieces of a source that follows another are the
source's own pieces, moved.
-/

namespace PostalAddress

open Text

namespace TemplateError

/-- The error `n` bytes further on. -/
def move (n : Nat) : TemplateError → TemplateError
  | .unclosedTag p => .unclosedTag (p + n)
  | .unopenedSection name p => .unopenedSection name (p + n)
  | .unclosedSection name p => .unclosedSection name (p + n)
  | e => e

end TemplateError

namespace Scanner

variable {α β : Type}

def move (n : Nat) (s : Scanner) : Scanner := ⟨s.rest, s.position + n⟩

def Floats (op : Scanner → α × Scanner) : Prop :=
  ∀ s n, op (s.move n) = ((op s).1, (op s).2.move n)

theorem Floats.pure (a : α) : Floats fun s => (a, s) := fun _ _ => rfl

theorem Floats.bind {op : Scanner → α × Scanner} {next : α → Scanner → β × Scanner}
    (h : Floats op) (hn : ∀ a, Floats (next a)) :
    Floats fun s => next (op s).1 (op s).2 := by
  intro s n
  dsimp only
  rw [h s n, hn]

theorem advance_move (s : Scanner) (n k : Nat) :
    (s.move n).advance k = ((s.advance k).1, (s.advance k).2.move n) := by
  simp only [advance, move, Nat.add_right_comm]

theorem floats_scan (find : Finder) : Floats fun s => s.scan find := by
  intro s n
  have hrest : (s.move n).rest = s.rest := rfl
  simp only [scan, hrest]
  split
  · exact advance_move s n _
  · rfl

theorem floats_scanUntil (find : Finder) : Floats fun s => s.scanUntil find := by
  intro s n
  have hrest : (s.move n).rest = s.rest := rfl
  simp only [scanUntil, hrest]
  split
  · exact advance_move s n _
  · exact advance_move s n _

theorem floats_scanPast (find : Finder) : Floats (scanPast find) :=
  (floats_scanUntil find).bind fun x => (floats_scan find).bind fun m => Floats.pure (x, m)

end Scanner

namespace Tag

open Scanner

theorem floats_scanBody (d : Delimiters) (mark : List Char) : Floats (scanBody d mark) := by
  have hclosing : Floats (scanPast (closingFront d).find?) := floats_scanPast _
  by_cases heq : mark = ['=']
  · subst heq
    exact (floats_scanPast _).bind fun a => hclosing.bind fun b => Floats.pure (a.1, b.2)
  · by_cases hbrace : mark = ['\x7b']
    · subst hbrace
      exact (floats_scanUntil _).bind fun x => (floats_scan _).bind fun _ =>
        hclosing.bind fun b => Floats.pure (x, b.2)
    · have hbody : scanBody d mark = scanPast (closingFront d).find? := by
        funext s
        rw [scanBody, scanValue, if_neg heq, if_neg hbrace]
        rfl
      rw [hbody]
      exact hclosing

theorem floats_scanParts (d : Delimiters) : Floats (scanParts d) :=
  (floats_scan _).bind fun _ => (floats_scan _).bind fun mark => (floats_scan _).bind fun _ =>
    (floats_scanBody d mark).bind fun a => Floats.pure (mark, a.1, a.2)

theorem scan_move_of_ok {d : Delimiters} {s s' : Scanner} {tag : Tag}
    (h : Tag.scan d s = .ok (tag, s')) (n : Nat) :
    Tag.scan d (s.move n) = .ok (tag, s'.move n) := by
  obtain ⟨mark, value, closed, hparts, hclosed, htag⟩ := scan_eq_ok_iff.mp h
  have hmoved := floats_scanParts d s n
  rw [hparts] at hmoved
  exact scan_eq_ok_iff.mpr ⟨mark, value, closed, hmoved, hclosed, htag⟩

theorem scan_move_of_error {d : Delimiters} {s : Scanner} {e : TemplateError}
    (h : Tag.scan d s = .error e) (n : Nat) : Tag.scan d (s.move n) = .error (e.move n) := by
  rw [scan_eq, floats_scanParts d s n]
  rw [scan_eq] at h
  dsimp only
  split at h
  · rename_i hclosed
    rw [if_pos hclosed]
    obtain rfl := Except.error.inj h
    rfl
  · rename_i hclosed
    rw [if_neg hclosed]
    cases htag : ofSigil (scanParts d s).1.1 (String.ofList (scanParts d s).1.2.1) with
    | ok tag =>
      rw [htag] at h
      cases h
    | error e' =>
      rw [htag] at h
      obtain rfl := Except.error.inj h
      obtain ⟨spec, rfl⟩ := exists_spec_of_ofSigil htag
      rfl

end Tag

namespace Pieces

/-- The pieces `n` bytes further on. -/
def move (n : Nat) (ps : Pieces) : Pieces :=
  ⟨ps.list.map (Piece.move n), ps.failure.map (TemplateError.move n)⟩

theorem read_move (d : Delimiters) (n p k : Nat) (t : List Char) :
    read d (p + n) k t = (read d p k t).move n := by
  fun_induction read d p k t with
  | case1 => rfl
  | case2 d p k c r ih => rw [read, Nat.add_right_comm, ih]
  | case3 d p c r hopen e hscan =>
    have hmoved := Tag.scan_move_of_error hscan n
    exact read_error (List.isPrefixOf_iff_prefix.mp hopen) hmoved
  | case4 d p c r hopen tag after hscan ih =>
    have hmoved : Tag.scan d ⟨c :: r, p + n⟩ = .ok (tag, after.move n) :=
      Tag.scan_move_of_ok hscan n
    rw [read, if_pos hopen, hmoved]
    dsimp only
    rw [Nat.add_right_comm, show (after.move n).rest = after.rest from rfl, ih]
    rfl
  | case5 d p c r hopen ih =>
    rw [read, if_neg hopen, Nat.add_right_comm, ih]
    rfl

/-- What follows the pieces that were read is read where they end. -/
theorem read_of_reads_append {d d' : Delimiters} {s s' : Scanner} {ps : List Piece}
    (h : Reads d s ps d' s') :
    read d s.position 0 s.rest =
      ⟨ps ++ (read d' s'.position 0 s'.rest).list, (read d' s'.position 0 s'.rest).failure⟩ := by
  induction h with
  | done d s => rfl
  | letter no rest ih =>
    dsimp only
    rw [read_letter _ no, ih]
    rfl
  | tag nonempty yes scan rest ih =>
    rw [read_tag yes scan, ih]
    rfl

end Pieces

end PostalAddress
