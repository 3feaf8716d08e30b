import Mathlib.Data.List.Forall2
import PostalAddress.Pattern.Basic

/-!
# Texts written literally

`Pattern.escape` and `Replacement.literal` write a text so that it stands for itself, and what they
write is read back as that text, character by character. So any text between two boundaries of words
is a pattern, unless its automaton is too large, and the node of the pattern has nothing but the two
checks and one literal between them.
-/

namespace PostalAddress

namespace PatternReader

variable {fuel groups : Nat} {nested : Bool} {b : Branches} {r : List Char}
  {names : List (String × Nat)}

/-- Outside spaced parts nothing is dropped. -/
@[simp] theorem skip_false (t : List Char) : skip false t = t := by
  cases t with
  | nil => rfl
  | cons c r => simp [skip, run]

theorem readEscape?_of_isMeta {c : Char} (h : isMeta c) (r : List Char) :
    readEscape? false (c :: r) = some (.char ⟨c, false⟩, r) := by
  have hnone : ∀ d ∈ metaChars, (namedClass? d.toLower).isNone ∧ (controls.lookup d).isNone ∧
      (assertions.lookup d).isNone := by
    decide
  obtain ⟨hclass, hcontrol, hassertion⟩ := hnone c (List.contains_iff_mem.mp h)
  have hescapable : isEscapable c := by simp [isEscapable, h]
  -- an escape of a letter means something else, but no letter is escaped
  unfold readEscape?
  dsimp only
  split <;> try exact absurd h (by decide)
  rw [Option.isNone_iff_eq_none.mp hclass, Option.isNone_iff_eq_none.mp hcontrol,
    Option.isNone_iff_eq_none.mp hassertion]
  exact if_pos hescapable

theorem readBranches?_escaped {c : Char} (h : isMeta c) :
    readBranches? (fuel + 1) nested b ⟨'\\' :: c :: r, false, groups, names⟩ =
      readBranches? fuel nested (b.push (.char ⟨c, false⟩)) ⟨r, false, groups, names⟩ := by
  rw [readBranches?]
  simp only [skip_false, readEscape?_of_isMeta h]

theorem readBranches?_plain {c : Char} (h : isMeta c = false) :
    readBranches? (fuel + 1) nested b ⟨c :: r, false, groups, names⟩ =
      readBranches? fuel nested (b.push (.char ⟨c, false⟩)) ⟨r, false, groups, names⟩ := by
  rw [readBranches?]
  simp only [skip_false]
  split <;> first | rfl | exact absurd h (by decide)

/-- A boundary of words, where no side of it is written. -/
theorem readBranches?_boundary (h : r.head? ≠ some '\x7b') :
    readBranches? (fuel + 1) nested b ⟨'\\' :: 'b' :: r, false, groups, names⟩ =
      readBranches? fuel nested (b.push (.assertion .boundary)) ⟨r, false, groups, names⟩ := by
  have hread : readBoundary? false r = some (.boundary, r) := by
    unfold readBoundary?
    split
    · exact absurd rfl h
    · rfl
  rw [readBranches?]
  simp only [skip_false, readEscape?, hread, Option.map_some]

/-- The characters of a text as parts of a pattern, each standing for itself. -/
def charParts (t : List Char) : List Written := t.map fun c => .char ⟨c, false⟩

/-- An escaped text adds its characters to the parts, which are kept backwards. -/
theorem readBranches?_escape (t : List Char) :
    readBranches? (fuel + t.length) nested b ⟨Pattern.escape t ++ r, false, groups, names⟩ =
      readBranches? fuel nested ⟨b.finished, (charParts t).reverse ++ b.parts⟩
        ⟨r, false, groups, names⟩ := by
  -- a character takes one round, with its backslash or without
  induction t generalizing b with
  | nil => rfl
  | cons c t ih =>
    have hparts : (charParts (c :: t)).reverse ++ b.parts =
        (charParts t).reverse ++ (b.push (.char ⟨c, false⟩)).parts := by
      simp [charParts, Branches.push]
    have hstep : readBranches? (fuel + t.length + 1) nested b
        ⟨Pattern.escape (c :: t) ++ r, false, groups, names⟩ =
          readBranches? (fuel + t.length) nested (b.push (.char ⟨c, false⟩))
            ⟨Pattern.escape t ++ r, false, groups, names⟩ := by
      rw [Pattern.escape, List.flatMap_cons]
      split
      · exact readBranches?_escaped ‹_›
      · exact readBranches?_plain (Bool.eq_false_iff.mpr ‹_›)
    rw [hparts]
    exact hstep.trans ih

/-- An escaped text begins with no sign that means something. -/
theorem head?_escape_ne {m : Char} (hm : isMeta m) (hback : m ≠ '\\') (t : List Char)
    {r : List Char} (h : r.head? ≠ some m) : (Pattern.escape t ++ r).head? ≠ some m := by
  cases t with
  | nil => exact h
  | cons c t =>
    rw [Pattern.escape, List.flatMap_cons]
    split
    · simpa using Ne.symm hback
    · rename_i hc
      rintro hhead
      exact hc (Option.some.inj hhead ▸ hm)

theorem length_le_length_escape (t : List Char) : t.length ≤ (Pattern.escape t).length := by
  induction t with
  | nil => exact Nat.le_refl _
  | cons c t ih =>
    rw [Pattern.escape, List.flatMap_cons, List.length_append, List.length_cons]
    have hc : 1 ≤ (if isMeta c then ['\\', c] else [c]).length := by split <;> simp
    exact Nat.add_comm .. ▸ Nat.add_le_add hc ih

end PatternReader

section Chain

namespace Written

/-- The sequence of some parts. -/
def chain : List Written → Written
  | [] => .empty
  | [w] => w
  | w :: ws => .seq w (chain ws)

theorem chain_cons (w : Written) {ws : List Written} (h : ws ≠ []) :
    chain (w :: ws) = .seq w (chain ws) := by
  obtain ⟨v, ws, rfl⟩ := List.exists_cons_of_ne_nil h
  rfl

theorem ofParts_reverse (ws : List Written) : ofParts ws.reverse = chain ws := by
  induction ws with
  | nil => rfl
  | cons w ws ih =>
    cases hws : ws.reverse with
    | nil =>
      obtain rfl := List.reverse_eq_nil_iff.mp hws
      rfl
    | cons last before =>
      have hne : ws ≠ [] := by
        rintro rfl
        cases hws
      rw [hws, ofParts] at ih
      rw [List.reverse_cons, hws, chain_cons w hne, List.cons_append, ofParts, List.foldl_append, ih]
      rfl

/-- A chain is no deeper than its deepest part and itself. -/
theorem depth_chain_le {ws : List Written} {n : Nat} (h : ∀ w ∈ ws, w.depth ≤ n) :
    (chain ws).depth ≤ n + 1 := by
  have hpart : ∀ w : Written, depthFrom (some .seq) w ≤ w.depth := by
    intro w
    cases w <;> simp [depth, depthFrom]
  have hchain : depthFrom (some .seq) (chain ws) ≤ n := by
    induction ws with
    | nil => exact Nat.zero_le n
    | cons w ws ih =>
      obtain ⟨hw, hws⟩ := List.forall_mem_cons.mp h
      cases ws with
      | nil => exact Nat.le_trans (hpart w) hw
      | cons v ws =>
        rw [chain_cons w (List.cons_ne_nil v ws), depthFrom, if_pos rfl, Nat.zero_add]
        exact Nat.max_le.mpr ⟨hw, ih hws⟩
  have hdepth : (chain ws).depth ≤ depthFrom (some .seq) (chain ws) + 1 := by
    cases chain ws <;> simp [depth, depthFrom, Nat.add_comm]
  omega

/-- The pattern means one part and leaves the flags as they are. -/
def Means (w : Written) (n : Node) : Prop := branches? w {} = some ([[n]], {})

theorem branches?_seq {a w : Written} {n : Node} {ns : List Node} (ha : a.Means n)
    (hw : branches? w {} = some ([ns], {})) : branches? (.seq a w) {} = some ([n :: ns], {}) := by
  rw [Means] at ha
  simp [branches?, ha, hw]

theorem branches?_chain {ws : List Written} {ns : List Node} (h : List.Forall₂ Means ws ns)
    (hne : ws ≠ []) : branches? (chain ws) {} = some ([ns], {}) := by
  induction h with
  | nil => exact absurd rfl hne
  | @cons w n ws ns hw hws ih =>
    cases hws with
    | nil => exact hw
    | cons hv hws =>
      rw [chain_cons w (List.cons_ne_nil _ _)]
      exact branches?_seq hw (ih (List.cons_ne_nil _ _))

theorem node?_chain {ws : List Written} {ns : List Node} (h : List.Forall₂ Means ws ns)
    (hne : ws ≠ []) : (chain ws).node? = some (.concat ns) := by
  rw [node?, branches?_chain h hne]
  rfl

theorem means_charParts (t : List Char) :
    List.Forall₂ Means (PatternReader.charParts t) (t.map fun c => .literal [c]) := by
  induction t with
  | nil => exact .nil
  | cons c t ih => exact .cons rfl ih

/-- The text was read up to its end, into some parts. -/
theorem read?_of_parts {t : List Char} {ws : List Written} {k : Nat}
    (h : PatternReader.readBranches? (t.length + 1) false .start ⟨t, false, 0, []⟩ =
      PatternReader.readBranches? (k + 1) false ⟨[], ws.reverse⟩ ⟨[], false, 0, []⟩)
    (hdepth : ∀ w ∈ ws, w.depth ≤ 1) : read? t = some (chain ws, []) := by
  have hwritten : (PatternReader.Branches.mk [] ws.reverse).written = chain ws := ofParts_reverse ws
  have hfits : (chain ws).depth ≤ depthLimit := Nat.le_trans (depth_chain_le hdepth) (by decide)
  rw [read?, h, PatternReader.readBranches?]
  simp only [PatternReader.skip_false, hwritten, Bool.false_eq_true, if_false, if_pos hfits]

end Written

namespace Node

/-- Literals that follow each other become one. -/
theorem foldr_consPart_literals (c : Char) (t : List Char) {ns : List Node}
    (h : ∀ cs, ns.head? ≠ some (.literal cs)) :
    ((c :: t).map fun c => Node.literal [c]).foldr consPart ns = .literal (c :: t) :: ns := by
  induction t generalizing c with
  | nil =>
    cases ns with
    | nil => rfl
    | cons n ns =>
      cases n with
      | literal cs => exact absurd rfl (h cs)
      | _ => rfl
  | cons d t ih =>
    rw [List.map_cons, List.foldr_cons, ih]
    rfl

theorem flatMap_parts_literals (t : List Char) :
    (t.map fun c => Node.literal [c]).flatMap parts = t.map fun c => Node.literal [c] := by
  rw [List.flatMap_map]
  exact List.map_eq_flatMap.symm

end Node

end Chain

section Word

/-- A text between two boundaries of words, as it is written. -/
def Written.word (t : List Char) : Written :=
  .chain (.assertion .boundary :: PatternReader.charParts t ++ [.assertion .boundary])

def Node.word (t : List Char) : Node :=
  .concat (.look (.boundary true) :: t.map (fun c => .literal [c]) ++ [.look (.boundary true)])

open PatternReader in
theorem Written.read?_word (t : List Char) :
    Written.read? (['\\', 'b'] ++ Pattern.escape t ++ ['\\', 'b']) = some (word t, []) := by
  obtain ⟨k, hk⟩ := Nat.exists_eq_add_of_le (length_le_length_escape t)
  have hlength : (['\\', 'b'] ++ Pattern.escape t ++ ['\\', 'b']).length + 1 =
      k + 4 + t.length + 1 := by
    simp [hk]
    omega
  have hopen : (Pattern.escape t ++ ['\\', 'b']).head? ≠ some '\x7b' :=
    head?_escape_ne (by decide) (by decide) t (by decide)
  have hparts : (assertion .boundary :: charParts t ++ [assertion .boundary]).reverse =
      assertion .boundary :: ((charParts t).reverse ++ [assertion .boundary]) := by simp
  refine read?_of_parts (k := k + 2) ?_ ?_
  · rw [hlength, List.cons_append, List.cons_append, List.cons_append, List.cons_append,
      List.nil_append, readBranches?_boundary hopen, readBranches?_escape,
      readBranches?_boundary (by decide), hparts]
    rfl
  · intro w hw
    have hdepth : w.depth = 0 := by
      simp only [charParts, List.mem_append, List.mem_cons, List.mem_map, List.not_mem_nil,
        or_false] at hw
      obtain (rfl | ⟨c, _, rfl⟩) | rfl := hw <;> rfl
    omega

theorem Written.node?_word (t : List Char) : (word t).node? = some (.word t) :=
  node?_chain (.cons rfl (List.rel_append (means_charParts t) (.cons rfl .nil)))
    (List.cons_ne_nil _ _)

theorem Node.word_cons (c : Char) (t : List Char) :
    Node.word (c :: t) = .seq (.look (.boundary true))
      (.seq (.literal (c :: t)) (.look (.boundary true))) := by
  rw [word, concat, List.cons_append, List.flatMap_cons, List.flatMap_append,
    flatMap_parts_literals, List.foldr_append, List.foldr_append]
  change ofParts (consPart _ (List.foldr consPart [.look (.boundary true)] _)) = _
  rw [foldr_consPart_literals c t (by simp)]
  rfl

theorem Node.partCount_word_le (t : List Char) : (Node.word t).partCount ≤ t.length + 3 := by
  cases t with
  | nil => decide
  | cons c t =>
    simp only [word_cons, partCount]
    omega

end Word

namespace Node

/-- A node with few parts fits. -/
theorem fits_of_partCount_le {n : Node} (h : n.partCount ≤ 2560) : n.fits = true := by
  have hcount : partLimit * n.partCount ≤ Size.limit :=
    calc partLimit * n.partCount
      _ ≤ 4096 * 2560 := Nat.mul_le_mul_left _ h
      _ = Size.limit := rfl
  rw [fits, decide_eq_true hcount, Bool.true_or]

end Node

namespace Pattern

/-- A pattern with a meaning, whose automaton takes more memory than is allowed. -/
def TooLarge (s : String) : Prop :=
  ∃ written names node, Written.read? s.toList = some (written, names) ∧
    written.node? = some node ∧ node.fits = false

variable {s : String} {t : List Char} {w : Written} {n : Node}

/-- A pattern that means a node is refused for its size only. -/
theorem parse?_eq (hread : Written.read? s.toList = some (w, [])) (hnode : w.node? = some n) :
    parse? s = if n.fits then some ⟨n.program, []⟩ else none := by
  simp only [parse?, hread, hnode, Option.bind_eq_bind, Option.bind_some]

/-- Any text between two boundaries of words is a pattern, as far as its size goes. -/
theorem parse?_word (hs : s.toList = ['\\', 'b'] ++ escape t ++ ['\\', 'b']) (h : ¬ TooLarge s) :
    parse? s = some ⟨(Node.word t).program, []⟩ := by
  have hread : Written.read? s.toList = some (.word t, []) := hs ▸ Written.read?_word t
  have hfits : (Node.word t).fits :=
    Bool.of_not_eq_false fun hlarge => h ⟨_, _, _, hread, Written.node?_word t, hlarge⟩
  rw [parse?_eq hread (Written.node?_word t), if_pos hfits]

theorem not_tooLarge_word (hs : s.toList = ['\\', 'b'] ++ escape t ++ ['\\', 'b'])
    (h : t.length ≤ 2557) : ¬ TooLarge s := by
  rintro ⟨written, names, node, hread, hnode, hlarge⟩
  rw [hs, Written.read?_word] at hread
  obtain ⟨rfl, rfl⟩ := Prod.mk.inj (Option.some.inj hread)
  obtain rfl := Option.some.inj ((Written.node?_word t).symm.trans hnode)
  have hparts := Node.partCount_word_le t
  rw [Node.fits_of_partCount_le (by omega)] at hlarge
  cases hlarge

end Pattern

namespace Replacement

theorem read_literal (t : List Char) : read (literal t) = t.map .char := by
  induction t with
  | nil => rfl
  | cons c t ih =>
    rw [literal, List.flatMap_cons]
    split
    · rename_i hc
      rw [hc, List.map_cons, ← ih]
      rfl
    · rename_i hc
      rw [List.map_cons, ← ih]
      exact if_neg hc

theorem expand_chars (t : List Char) (number : Nat → List Char) (name : String → List Char) :
    expand (t.map .char) number name = t := by
  rw [expand, List.flatMap_map]
  exact List.flatMap_singleton' t

end Replacement

end PostalAddress
