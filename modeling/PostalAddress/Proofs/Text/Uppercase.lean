import PostalAddress.Text.LetterCase

/-!
# Upper case

What a text is in upper case is in upper case. No character that a table of upper case leads to is
itself in one of them. The tables are finite, so this is checked of their rows, with the codes that
they start from kept as the bits of one number, where the kernel looks a code up in one step.
-/

namespace PostalAddress

namespace Text

def codeBits : List Nat → Nat
  | [] => 0
  | n :: ns => 1 <<< n ||| codeBits ns

theorem testBit_codeBits (codes : List Nat) (n : Nat) :
    (codeBits codes).testBit n = decide (n ∈ codes) := by
  induction codes with
  | nil => simp [codeBits]
  | cons m codes ih =>
    rw [codeBits, Nat.testBit_or, ih, Nat.one_shiftLeft, Nat.testBit_two_pow]
    simp [eq_comm]

/-- The characters whose upper case is a longer text. -/
def expandedCodes : List Nat := upperExpansions.map Prod.fst

/-- The characters that are not their own upper case. -/
def lowercaseCodes : List Nat :=
  (List.range 26).map (0x61 + ·) ++ expandedCodes ++ upperRows.flatMap rowCodes

theorem not_mem_lowercaseCodes {n : Nat} (h : (codeBits lowercaseCodes).testBit n = false) :
    n ∉ lowercaseCodes :=
  of_decide_eq_false ((testBit_codeBits _ n).symm.trans h)

theorem mem_rowCodes {row : CaseRow} {n : Nat} (hfirst : row.1 ≤ n) (hlast : n ≤ row.2.1)
    (hstep : (n - row.1) % row.2.2.1 = 0) : n ∈ rowCodes row := by
  obtain ⟨first, last, step, image⟩ := row
  have hmul := Nat.div_add_mod (n - first) step
  refine List.mem_map.mpr ⟨(n - first) / step, List.mem_range.mpr ?_, ?_⟩
  · exact Nat.lt_succ_of_le (Nat.div_le_div_right (Nat.sub_le_sub_right hlast first))
  · dsimp only at hfirst hstep ⊢
    omega

/-- The upper case of a character is found in one of the tables, or else the character is its own
upper case. -/
theorem upperExpansion_cases (c : Char) :
    c.toNat < 0x80 ∧ upperExpansion c = [c.toUpper] ∨
      (∃ ns, (c.toNat, ns) ∈ upperExpansions ∧ upperExpansion c = ns.map Char.ofNat) ∨
      c.toNat ∉ expandedCodes ∧ (∃ row ∈ upperRows, c.toNat ∈ rowCodes row ∧
        upperExpansion c = [Char.ofNat (row.2.2.2 + (c.toNat - row.1))]) ∨
      upperExpansion c = [c] := by
  by_cases hascii : c.toNat < 0x80
  · exact .inl ⟨hascii, if_pos (decide_eq_true hascii)⟩
  have hbeyond : ¬ isAscii c = true := fun h => hascii (of_decide_eq_true h)
  right
  rw [upperExpansion, if_neg hbeyond]
  cases hlookup : upperExpansions.lookup c.toNat with
  | some ns =>
    obtain ⟨before, after, hsplit, _⟩ := List.lookup_eq_some_iff.mp hlookup
    exact .inl ⟨ns, hsplit ▸ by simp, rfl⟩
  | none =>
    have hexpanded : c.toNat ∉ expandedCodes := by
      intro hmem
      obtain ⟨p, hp, hcode⟩ := List.mem_map.mp hmem
      exact absurd hcode.symm (by simpa using List.lookup_eq_none_iff.mp hlookup p hp)
    right
    dsimp only
    unfold mapRow
    split
    · rename_i row hfind
      have hrow := List.find?_some hfind
      simp only [Bool.and_eq_true, decide_eq_true_eq, beq_iff_eq] at hrow
      exact .inl ⟨hexpanded, _, List.mem_of_find?_eq_some hfind,
        mem_rowCodes hrow.1.1 hrow.1.2 hrow.2, rfl⟩
    · exact .inr rfl

theorem upperExpansion_of_not_mem {c : Char} (h : c.toNat ∉ lowercaseCodes) :
    upperExpansion c = [c] := by
  simp only [lowercaseCodes, List.mem_append, not_or] at h
  obtain ⟨⟨hascii, hexpanded⟩, hrows⟩ := h
  obtain ⟨hlt, hupper⟩ | ⟨ns, hns, _⟩ | ⟨_, row, hrow, hcode, _⟩ | hself := upperExpansion_cases c
  · have hletters : ∀ n < 0x80, n ∉ (List.range 26).map (0x61 + ·) →
        (Char.ofNat n).toUpper = Char.ofNat n := by
      decide +kernel
    rw [hupper, ← c.ofNat_toNat, hletters c.toNat hlt hascii]
  · exact absurd (List.mem_map.mpr ⟨_, hns, rfl⟩) hexpanded
  · exact absurd (List.mem_flatMap.mpr ⟨row, hrow, hcode⟩) hrows
  · exact hself

theorem upperExpansion_of_mem {c x : Char} (h : x ∈ upperExpansion c) : upperExpansion x = [x] := by
  obtain ⟨hlt, hupper⟩ | ⟨ns, hns, hupper⟩ | ⟨hexpanded, row, hrow, hcode, hupper⟩ | hself :=
    upperExpansion_cases c
  · have hletters : ∀ n < 0x80,
        (codeBits lowercaseCodes).testBit (Char.ofNat n).toUpper.toNat = false := by
      decide +kernel
    obtain rfl := List.mem_singleton.mp (hupper ▸ h)
    have hbit := hletters c.toNat hlt
    rw [c.ofNat_toNat] at hbit
    exact upperExpansion_of_not_mem (not_mem_lowercaseCodes hbit)
  · have hexpansions : ∀ p ∈ upperExpansions, ∀ n ∈ p.2,
        (codeBits lowercaseCodes).testBit (Char.ofNat n).toNat = false := by
      decide +kernel
    obtain ⟨n, hn, rfl⟩ := List.mem_map.mp (hupper ▸ h)
    exact upperExpansion_of_not_mem (not_mem_lowercaseCodes (hexpansions _ hns n hn))
  · -- Some rows lead to characters whose upper case is a longer text, as their own is.
    have hrows : ∀ row ∈ upperRows, ∀ n ∈ rowCodes row,
        (codeBits lowercaseCodes).testBit (Char.ofNat (row.2.2.2 + (n - row.1))).toNat →
          (codeBits expandedCodes).testBit n := by
      decide +kernel
    obtain rfl := List.mem_singleton.mp (hupper ▸ h)
    refine upperExpansion_of_not_mem (not_mem_lowercaseCodes (Bool.eq_false_iff.mpr fun hbit => ?_))
    have hbit' := hrows row hrow _ hcode hbit
    rw [testBit_codeBits] at hbit'
    exact hexpanded (of_decide_eq_true hbit')
  · obtain rfl := List.mem_singleton.mp (hself ▸ h)
    exact hself

theorem toUpper_toUpper (t : List Char) : toUpper (toUpper t) = toUpper t := by
  have hfixed : ∀ u : List Char, (∀ x ∈ u, upperExpansion x = [x]) → toUpper u = u := by
    intro u hu
    induction u with
    | nil => rfl
    | cons x u ih =>
      obtain ⟨hx, hu⟩ := List.forall_mem_cons.mp hu
      have hstep : toUpper (x :: u) = upperExpansion x ++ toUpper u := List.flatMap_cons
      rw [hstep, hx, ih hu]
      rfl
  refine hfixed _ fun x hx => ?_
  obtain ⟨c, _, hc⟩ := List.mem_flatMap.mp hx
  exact upperExpansion_of_mem hc

end Text

theorem upper_upper (s : String) : upper (upper s) = upper s := by
  rw [upper, upper, String.toList_ofList, Text.toUpper_toUpper]

end PostalAddress
