import PostalAddress.Proofs.Text.Parts
import PostalAddress.Template.Line

/-!
# The lines of a source and their tokens

`Piece.lines` cuts pieces at their newlines, and `FlatToken.ofLine` gives the tokens of one line on
its own. The reader comes to the tokens of the lines one after the other (`read_eq`): between two
pieces its state says of the line that is open what can be told from the pieces of that line
(`Holds`).
-/

namespace PostalAddress

open Text

namespace Piece

def isTag : Piece → Bool
  | .tag _ _ => true
  | .letter _ _ => false

def isSpace : Piece → Bool
  | .letter c _ => isBlank c
  | .tag _ _ => false

/-- Pieces that a standalone line may hold. -/
def isQuiet : Piece → Bool
  | .letter c _ => isBlank c
  | .tag (.var _ _) _ => false
  | .tag _ _ => true

def lines : List Piece → List (List Piece)
  | [] => []
  | p :: ps => if p.endsLine then [p] :: lines ps else consHead p (lines ps)

def isStandalone (line : List Piece) : Bool := line.any isTag && line.all isQuiet

theorem flatten_consHead (p : Piece) (ls : List (List Piece)) :
    (consHead p ls).flatten = p :: ls.flatten := by
  cases ls <;> rfl

theorem flatten_lines (ps : List Piece) : (lines ps).flatten = ps := by
  induction ps with
  | nil => rfl
  | cons p ps ih =>
    rw [lines]
    split
    · rw [List.flatten_cons, ih]
      rfl
    · rw [flatten_consHead, ih]

theorem lines_ne_nil {ps : List Piece} (h : ps ≠ []) : lines ps ≠ [] := by
  intro hnil
  have hflatten := flatten_lines ps
  rw [hnil] at hflatten
  exact h hflatten.symm

theorem lines_concat {ps : List Piece} (h : ∀ p ∈ ps, p.endsLine = false) (q : Piece) :
    lines (ps ++ [q]) = [ps ++ [q]] := by
  induction ps with
  | nil =>
    rw [List.nil_append, lines]
    split <;> rfl
  | cons p ps ih =>
    obtain ⟨hp, hps⟩ := List.forall_mem_cons.mp h
    rw [List.cons_append, lines, hp, ih hps]
    rfl

/-- A line ends where a piece ends it, whatever follows. -/
theorem lines_append {p : Piece} {ps qs : List Piece} (hp : p.endsLine = true) :
    lines (ps ++ [p] ++ qs) = lines (ps ++ [p]) ++ lines qs := by
  induction ps with
  | nil => simp [lines, hp]
  | cons q ps ih =>
    rw [List.cons_append, List.cons_append, lines, lines, ih]
    split
    · rfl
    · exact consHead_append q (lines_ne_nil (by simp)) _

end Piece

namespace FlatToken

def isText : FlatToken → Bool
  | .leaf (.text _) _ => true
  | _ => false

def ofPieces (before : Placement) : List Piece → List FlatToken
  | [] => []
  | p :: ps => ofPiece before p :: ofPieces (before.after p) ps

def ofLine (line : List Piece) : List FlatToken :=
  let ts := ofPieces .start line
  if Piece.isStandalone line then ts.filter (!·.isText) else ts

theorem isText_ofPiece (before : Placement) (p : Piece) :
    (ofPiece before p).isText = !p.isTag := by
  cases p with
  | letter c span => rfl
  | tag t span => cases t <;> rfl

theorem ofPieces_append (before : Placement) (ps qs : List Piece) :
    ofPieces before (ps ++ qs) = ofPieces before ps ++ ofPieces (ps.foldl .after before) qs := by
  induction ps generalizing before with
  | nil => rfl
  | cons p ps ih => rw [List.cons_append, ofPieces, ofPieces, ih, List.cons_append, List.foldl_cons]

theorem length_ofPieces (before : Placement) (ps : List Piece) :
    (ofPieces before ps).length = ps.length := by
  induction ps generalizing before with
  | nil => rfl
  | cons p ps ih => rw [ofPieces, List.length_cons, ih, List.length_cons]

theorem flatMap_ofLine_lines {line : List Piece} (h : ∀ p ∈ line, p.endsLine = false) :
    (Piece.lines line).flatMap ofLine = ofLine line := by
  obtain rfl | ⟨ps, q, rfl⟩ := List.eq_nil_or_concat line
  · rfl
  · rw [List.concat_eq_append] at h ⊢
    rw [Piece.lines_concat fun p hp => h p (List.mem_append_left _ hp), List.flatMap_singleton]

end FlatToken

/-- The places of the white space among pieces, counted on from `n`. -/
def Piece.spaces (n : Nat) : List Piece → List Nat
  | [] => []
  | p :: ps => if p.isSpace then n :: spaces (n + 1) ps else spaces (n + 1) ps

theorem Piece.spaces_concat (n : Nat) (ps : List Piece) (p : Piece) :
    spaces n (ps ++ [p]) = spaces n ps ++ if p.isSpace then [n + ps.length] else [] := by
  induction ps generalizing n with
  | nil => rfl
  | cons q ps ih =>
    rw [List.cons_append, spaces, spaces, ih, List.length_cons, Nat.add_assoc, Nat.add_comm 1]
    split <;> rfl

/-- Of a quiet line the texts are its white space, so emptying the places of the one drops the
others. -/
theorem FlatToken.filterMap_emptied {line : List Piece} (h : line.all Piece.isQuiet = true)
    (kept : List (Option FlatToken)) (before : Placement) :
    ((Piece.spaces kept.length line).foldl (fun ts i => ts.set i none)
        (kept ++ (ofPieces before line).map some)).filterMap id =
      kept.filterMap id ++ (ofPieces before line).filter (!·.isText) := by
  induction line generalizing kept before with
  | nil => simp [Piece.spaces, ofPieces]
  | cons p line ih =>
    rw [List.all_cons, Bool.and_eq_true] at h
    have ih := fun t => ih h.2 (kept ++ [t]) (before.after p)
    simp only [List.length_append, List.length_singleton, List.append_assoc,
      List.singleton_append] at ih
    rw [ofPieces, List.map_cons, List.filter_cons, isText_ofPiece, Bool.not_not]
    cases p with
    | letter c span =>
      have hspace : (Piece.letter c span).isSpace = true := h.1
      have hset : (kept ++ some (ofPiece before (.letter c span)) ::
          (ofPieces (before.after (.letter c span)) line).map some).set kept.length none =
          kept ++ none :: (ofPieces (before.after (.letter c span)) line).map some := by simp
      rw [Piece.spaces, if_pos hspace, List.foldl_cons, hset, ih]
      simp [Piece.isTag]
    | tag t span =>
      rw [Piece.spaces, if_neg (by simp [Piece.isSpace]), ih]
      simp [Piece.isTag]

/-- What a piece changes in the state of its line. -/
theorem LineState.after_eq (line : LineState) (index : Nat) (p : Piece) :
    line.after index p =
      { spaces := if p.isSpace then line.spaces.push index else line.spaces
        hasTag := line.hasTag || p.isTag
        nonSpace := line.nonSpace || !p.isQuiet
        placement := line.placement.after p } := by
  cases p with
  | letter c span =>
    cases hc : isBlank c <;> simp [after, Piece.isSpace, Piece.isTag, Piece.isQuiet, hc]
  | tag t span => cases t <;> simp [after, Piece.isSpace, Piece.isTag, Piece.isQuiet]

namespace LineReader

theorem toList_foldl_setIfInBounds (tokens : Array (Option FlatToken)) (spaces : Array Nat) :
    (spaces.foldl (fun ts i => ts.setIfInBounds i none) tokens).toList =
      spaces.toList.foldl (fun ts i => ts.set i none) tokens.toList := by
  rw [← Array.foldl_toList]
  exact (List.foldl_hom Array.toList fun ts i => (Array.toList_setIfInBounds ..).symm).symm

/-- The reader has left the tokens `kept` for the lines before, and reads the line that begins with
`line`. -/
structure Holds (kept : List (Option FlatToken)) (line : List Piece) (r : LineReader) : Prop where
  tokens : r.tokens.toList = kept ++ (FlatToken.ofPieces .start line).map some
  spaces : r.line.spaces.toList = Piece.spaces kept.length line
  hasTag : r.line.hasTag = line.any Piece.isTag
  nonSpace : r.line.nonSpace = !line.all Piece.isQuiet
  placement : r.line.placement = line.foldl .after .start

namespace Holds

variable {kept : List (Option FlatToken)} {line : List Piece} {r : LineReader}

theorem start : Holds [] [] .start := ⟨rfl, rfl, rfl, rfl, rfl⟩

theorem push (h : Holds kept line r) (p : Piece) : Holds kept (line ++ [p]) (r.push p) := by
  have hsize : r.tokens.size = kept.length + line.length := by
    rw [← Array.length_toList, h.tokens, List.length_append, List.length_map,
      FlatToken.length_ofPieces]
  have hafter : (r.push p).line = _ := LineState.after_eq r.line r.tokens.size p
  refine ⟨?_, ?_, ?_, ?_, ?_⟩
  · rw [LineReader.push, Array.toList_push, h.tokens, h.placement, FlatToken.ofPieces_append,
      List.map_append, List.append_assoc]
    rfl
  · rw [hafter, Piece.spaces_concat, ← h.spaces, ← hsize]
    split <;> simp
  · rw [hafter, List.any_append, ← h.hasTag]
    simp
  · rw [hafter, List.all_append, Bool.not_and, ← h.nonSpace]
    simp
  · rw [hafter, List.foldl_append, ← h.placement]
    rfl

/-- At the end of a line the reader has its tokens. -/
theorem stripSpace (h : Holds kept line r) :
    r.stripSpace.tokens.toList.filterMap id = kept.filterMap id ++ FlatToken.ofLine line := by
  have hstandalone : (r.line.hasTag && !r.line.nonSpace) = Piece.isStandalone line := by
    rw [h.hasTag, h.nonSpace, Bool.not_not, Piece.isStandalone]
  rw [LineReader.stripSpace, hstandalone, FlatToken.ofLine]
  split
  · rename_i hline
    rw [Piece.isStandalone, Bool.and_eq_true] at hline
    rw [toList_foldl_setIfInBounds, h.tokens, h.spaces, FlatToken.filterMap_emptied hline.2]
  · simp [h.tokens]

/-- A piece that ends a line leaves the reader at the beginning of the next. -/
theorem step_of_endsLine (r : LineReader) {p : Piece} (hp : p.endsLine = true) :
    Holds (r.push p).stripSpace.tokens.toList [] (r.step p) := by
  rw [LineReader.step, if_pos hp]
  exact ⟨(List.append_nil _).symm, rfl, rfl, rfl, rfl⟩

theorem foldl_step (h : Holds kept line r) (hline : ∀ p ∈ line, p.endsLine = false)
    (ps : List Piece) :
    (ps.foldl step r).stripSpace.tokens.toList.filterMap id =
      kept.filterMap id ++ (Piece.lines (line ++ ps)).flatMap FlatToken.ofLine := by
  induction ps generalizing kept line r with
  | nil => rw [List.append_nil, FlatToken.flatMap_ofLine_lines hline, List.foldl_nil, h.stripSpace]
  | cons p ps ih =>
    rw [List.foldl_cons]
    cases hp : p.endsLine with
    | true =>
      rw [ih (step_of_endsLine r hp) (by simp), (h.push p).stripSpace, List.append_cons line p ps,
        Piece.lines_append hp, Piece.lines_concat hline, List.nil_append, List.append_assoc]
      rfl
    | false =>
      have hstep : r.step p = r.push p := by rw [LineReader.step, if_neg (by simp [hp])]
      have hline' : ∀ q ∈ line ++ [p], q.endsLine = false := by
        simpa [or_imp, forall_and] using ⟨hline, hp⟩
      rw [hstep, ih (h.push p) hline', List.append_assoc, List.singleton_append]

end Holds

/-- The reader gives the tokens of the lines, one line after the other. -/
theorem read_eq (ps : List Piece) : read ps = (Piece.lines ps).flatMap FlatToken.ofLine :=
  Holds.start.foldl_step (by simp) ps

end LineReader

end PostalAddress
