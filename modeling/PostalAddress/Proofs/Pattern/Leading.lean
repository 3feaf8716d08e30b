import PostalAddress.Proofs.Pattern.Leftmost

/-!
# Patterns that begin with a character

A pattern may have to read one certain character first, perhaps at a certain place only. A match of
it begins with that character, so it replaces nothing before the character comes.
-/

namespace PostalAddress

namespace Program

/-- The character that has to be read first, if the program begins with one or with a condition
before one. -/
def leading? (p : Program) : Option Char :=
  match p.getD 0 .done, p.getD 1 .done with
  | .char c, _ => some c
  | .look _, .char c => some c
  | _, _ => none

variable {p : Program} {c : Char}

theorem head?_of_endsIn_char {k n : Nat} {q stop : Place} (hstep : p.getD k .done = .char c)
    (hend : p.EndsIn n (k, q) stop) : q.rest.head? = some c := by
  have hne : p.getD k .done ≠ .done := by rw [hstep]; exact Step.noConfusion
  obtain ⟨m, rfl, b, hb, -⟩ := (endsIn_iff_of_ne_done hne).mp hend
  simp only [next, hstep, Step.next] at hb
  obtain ⟨r, hr, -⟩ := List.mem_map.mp hb
  have hread := Option.mem_toList.mp hr
  unfold Place.read? at hread
  split at hread
  · cases hread
  · rename_i d rest hrest
    split at hread
    · rename_i hd
      rw [hrest, List.head?_cons, of_decide_eq_true hd]
    · cases hread

/-- No path to the end begins where another character stands. -/
theorem head?_of_endsIn {n : Nat} {q stop : Place} (h : p.leading? = some c)
    (hend : p.EndsIn n (0, q) stop) : q.rest.head? = some c := by
  unfold leading? at h
  split at h
  · obtain rfl := Option.some.inj h
    exact head?_of_endsIn_char ‹_› hend
  · rename_i l d hlook hchar
    obtain rfl := Option.some.inj h
    have hne : p.getD 0 .done ≠ .done := by rw [hlook]; exact Step.noConfusion
    obtain ⟨m, rfl, b, hb, hend⟩ := (endsIn_iff_of_ne_done hne).mp hend
    simp only [next, hlook, Step.next] at hb
    split at hb
    · obtain rfl := List.mem_singleton.mp hb
      exact head?_of_endsIn_char hchar hend
    · cases hb
  · cases h

/-- A match begins with the leading character. -/
theorem head?_of_find? (h : p.leading? = some c) {t : List Char} {m : Nat × Nat × Slots}
    (hm : p.find? t = some m) : (t.drop m.1).head? = some c := by
  obtain ⟨before, rest, n, stop, rfl, hstart, -, hend⟩ := exists_endsIn_of_find? hm
  rw [← hstart, List.drop_left]
  exact head?_of_endsIn h hend

/-- The program begins with the condition that the text starts. -/
def IsAnchored (p : Program) : Prop := p.getD 0 .done = .look .textStart

instance (p : Program) : Decidable p.IsAnchored := inferInstanceAs (Decidable (_ = _))

theorem eq_nil_of_endsIn (h : p.IsAnchored) {n : Nat} {before rest : List Char} {stop : Place}
    (hend : p.EndsIn n (0, placeBetween before rest) stop) : before = [] := by
  have hlook : p.getD 0 .done = .look .textStart := h
  have hne : p.getD 0 .done ≠ .done := by rw [hlook]; exact Step.noConfusion
  obtain ⟨m, rfl, b, hb, -⟩ := (endsIn_iff_of_ne_done hne).mp hend
  simp only [next, hlook, Step.next] at hb
  split at hb
  · rename_i hstart
    exact List.getLast?_eq_none_iff.mp (Option.isNone_iff_eq_none.mp hstart)
  · cases hb

/-- A match that has to start the text does. -/
theorem start_eq_zero_of_find? (h : p.IsAnchored) {t : List Char} {m : Nat × Nat × Slots}
    (hm : p.find? t = some m) : m.1 = 0 := by
  obtain ⟨before, rest, n, stop, rfl, hstart, -, hend⟩ := exists_endsIn_of_find? hm
  rw [← hstart, eq_nil_of_endsIn h hend, List.length_nil]

end Program

namespace Pattern

/-- What stands before the leading character stays. -/
theorem isPrefix_replaceFirst {p : Pattern} {c : Char} (h : p.program.leading? = some c)
    (r : Replacement) {start rest : List Char} (hstart : c ∉ start) :
    start <+: p.replaceFirst r (start ++ rest) := by
  unfold replaceFirst
  split
  · exact List.prefix_append start rest
  · rename_i m hm
    have hhead : ((start ++ rest).drop m.start).head? = some c := by
      obtain ⟨found, hfound, rfl⟩ := Option.map_eq_some_iff.mp hm
      exact Program.head?_of_find? h hfound
    have hle : start.length ≤ m.start := by
      by_contra hlt
      rw [List.drop_append_of_le_length (by omega), List.head?_append,
        List.head?_drop] at hhead
      have hinside : start[m.start]? = some start[m.start] := List.getElem?_eq_getElem (by omega)
      rw [hinside] at hhead
      obtain rfl := Option.some.inj hhead
      exact hstart (List.getElem_mem _)
    rw [List.take_append, List.take_of_length_le hle, List.append_assoc, List.append_assoc]
    exact List.prefix_append start _

/-- A pattern that has to start the text leaves one alone that begins with another character. -/
theorem replaceFirst_eq_self {p : Pattern} {c : Char} (hanchored : p.program.IsAnchored)
    (h : p.program.leading? = some c) (r : Replacement) {t : List Char} (ht : t.head? ≠ some c) :
    p.replaceFirst r t = t := by
  unfold replaceFirst
  split
  · rfl
  · rename_i m hm
    obtain ⟨found, hfound, rfl⟩ := Option.map_eq_some_iff.mp hm
    have hhead := Program.head?_of_find? h hfound
    rw [Program.start_eq_zero_of_find? hanchored hfound] at hhead
    exact absurd hhead ht

end Pattern

end PostalAddress
