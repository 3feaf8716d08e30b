import PostalAddress.Proofs.Pattern.Paths

/-!
# The language of a node

A `Reading` says what can stand between two parts of a text. That of a node follows its tree: a
sequence reads one part after the other, a loop goes through its body a number of times. The steps
of a node pass over just what the node reads: a path that comes to the end of the program begins
with such a text, and each such text has a path over it.
-/

namespace PostalAddress

/-- The part before, the text that is read and the part after. -/
abbrev Reading := List Char → List Char → List Char → Prop

namespace Reading

def nothing : Reading := fun _ x _ => x = []

def seq (M N : Reading) : Reading := fun before x after =>
  ∃ y z, y ++ z = x ∧ M before y (z ++ after) ∧ N (before ++ y) z after

def alt (M N : Reading) : Reading := fun before x after => M before x after ∨ N before x after

def rounds (M : Reading) : Nat → Reading
  | 0 => nothing
  | n + 1 => M.seq (M.rounds n)

def times (M : Reading) (count : Nat → Prop) : Reading := fun before x after =>
  ∃ n, count n ∧ M.rounds n before x after

/-- A text that is read stands at the beginning of `rest`, which follows `before`. -/
def StartsAt (M : Reading) (before rest : List Char) : Prop :=
  ∃ x after, x ++ after = rest ∧ M before x after

variable {M N : Reading} {before x after : List Char}

theorem nothing_seq : (nothing.seq M) before x after ↔ M before x after := by
  constructor
  · rintro ⟨y, z, rfl, rfl, h⟩
    rwa [List.append_nil] at h
  · intro h
    exact ⟨[], x, rfl, rfl, by rwa [List.append_nil]⟩

theorem seq_nothing : (M.seq nothing) before x after ↔ M before x after := by
  constructor
  · rintro ⟨y, z, rfl, h, rfl⟩
    rwa [List.append_nil]
  · intro h
    exact ⟨x, [], List.append_nil x, h, rfl⟩

theorem rounds_add (m n : Nat) :
    M.rounds (m + n) before x after ↔ ((M.rounds m).seq (M.rounds n)) before x after := by
  induction m generalizing before x with
  | zero => rw [Nat.zero_add]; exact nothing_seq.symm
  | succ m ih =>
    rw [Nat.succ_add]
    constructor
    · rintro ⟨y, z, rfl, hy, hz⟩
      obtain ⟨u, v, rfl, hu, hv⟩ := ih.mp hz
      refine ⟨y ++ u, v, List.append_assoc .., ⟨y, u, rfl, ?_, hu⟩, ?_⟩
      · rwa [List.append_assoc] at hy
      · rwa [← List.append_assoc]
    · rintro ⟨w, v, rfl, ⟨y, u, rfl, hy, hu⟩, hv⟩
      refine ⟨y, u ++ v, (List.append_assoc ..).symm, ?_, ih.mpr ⟨u, v, rfl, hu, ?_⟩⟩
      · rwa [List.append_assoc]
      · rwa [List.append_assoc]

variable {C D : Nat → Prop}

theorem times_congr (h : ∀ n, C n ↔ D n) :
    M.times C before x after ↔ M.times D before x after := by
  simp only [times, h]

theorem rounds_seq_times (m : Nat) : ((M.rounds m).seq (M.times C)) before x after ↔
    M.times (fun n => ∃ j, C j ∧ n = m + j) before x after := by
  constructor
  · rintro ⟨y, z, rfl, hy, j, hj, hz⟩
    exact ⟨m + j, ⟨j, hj, rfl⟩, (rounds_add m j).mpr ⟨y, z, rfl, hy, hz⟩⟩
  · rintro ⟨_, ⟨j, hj, rfl⟩, hx⟩
    obtain ⟨y, z, rfl, hy, hz⟩ := (rounds_add m j).mp hx
    exact ⟨y, z, rfl, hy, j, hj, hz⟩

/-- To leave at once or to go through one round and then some more. -/
theorem seq_times_alt_nothing : ((M.seq (M.times C)).alt nothing) before x after ↔
    M.times (fun n => n = 0 ∨ ∃ j, C j ∧ n = j + 1) before x after := by
  constructor
  · rintro (⟨y, z, rfl, hy, j, hj, hz⟩ | rfl)
    · exact ⟨j + 1, .inr ⟨j, hj, rfl⟩, y, z, rfl, hy, hz⟩
    · exact ⟨0, .inl rfl, rfl⟩
  · rintro ⟨n, rfl | ⟨j, hj, rfl⟩, hx⟩
    · exact .inr hx
    · obtain ⟨y, z, rfl, hy, hz⟩ := hx
      exact .inl ⟨y, z, rfl, hy, j, hj, hz⟩

end Reading

/-- The least number of rounds is gone through even where it is more than the greatest. -/
def Node.IsRounds (least : Nat) (most : Option Nat) (n : Nat) : Prop :=
  least ≤ n ∧ ∀ m ∈ most, n ≤ max least m

/-- The texts that a node matches, with what precedes and what follows them. -/
def Node.Matches : Node → Reading
  | .empty => .nothing
  | .literal cs => fun _ x _ => x = cs
  | .set s => fun _ x _ => ∃ c, x = [c] ∧ s.contains c
  | .look l => fun before x after => x = [] ∧ l.holds (Program.placeBetween before after)
  | .group _ body => body.Matches
  | .seq a b => a.Matches.seq b.Matches
  | .alt a b => a.Matches.alt b.Matches
  | .loop least most _ body => body.Matches.times (IsRounds least most)

namespace Program

variable {p : Program} {k l : Nat} {M N : Reading}

/-- The steps from `k` on pass over what `M` reads and come to step `l`, and to nowhere else. -/
structure Passes (p : Program) (k : Nat) (M : Reading) (l : Nat) : Prop where
  sound : ∀ {n : Nat} {before rest : List Char} {stop : Place},
    p.EndsIn n (k, placeBetween before rest) stop → ∃ x after m, x ++ after = rest ∧
      M before x after ∧ m ≤ n ∧ p.EndsIn m (l, placeBetween (before ++ x) after) stop
  complete : ∀ {n : Nat} {before x after : List Char} {stop : Place}, M before x after →
    p.EndsIn n (l, placeBetween (before ++ x) after) stop →
      ∃ m, p.EndsIn m (k, placeBetween before (x ++ after)) stop

section Combinators

theorem Passes.congr (h : p.Passes k M l) (hMN : ∀ b x a, M b x a ↔ N b x a) :
    p.Passes k N l where
  sound hend := by
    obtain ⟨x, after, m, htext, hM, hm⟩ := h.sound hend
    exact ⟨x, after, m, htext, (hMN _ _ _).mp hM, hm⟩
  complete hN := h.complete ((hMN _ _ _).mpr hN)

theorem Passes.nothing (p : Program) (k : Nat) : p.Passes k .nothing k where
  sound {n _ rest _} hend := ⟨[], rest, n, rfl, rfl, Nat.le_refl n, by rwa [List.append_nil]⟩
  complete {n _ _ _ _} := by
    rintro rfl hend
    rw [List.append_nil] at hend
    exact ⟨n, hend⟩

theorem Passes.seq {j : Nat} (h : p.Passes k M j) (h' : p.Passes j N l) :
    p.Passes k (M.seq N) l where
  sound hend := by
    obtain ⟨y, rest, m, rfl, hy, hm, hend⟩ := h.sound hend
    obtain ⟨z, after, m', rfl, hz, hm', hend⟩ := h'.sound hend
    refine ⟨y ++ z, after, m', List.append_assoc .., ⟨y, z, rfl, hy, hz⟩, hm'.trans hm, ?_⟩
    rwa [← List.append_assoc]
  complete := by
    rintro n before x after stop ⟨y, z, rfl, hy, hz⟩ hend
    rw [← List.append_assoc] at hend
    obtain ⟨m, hend⟩ := h'.complete hz hend
    rw [List.append_assoc]
    exact h.complete hy hend

theorem endsIn_iff_of_ne_done {a : Point} {n : Nat} {stop : Place} (h : p.getD a.1 .done ≠ .done) :
    p.EndsIn n a stop ↔ ∃ m, n = m + 1 ∧ ∃ b ∈ p.next a, p.EndsIn m b stop := by
  cases n with
  | zero =>
    constructor
    · rintro ⟨hdone, -⟩
      exact absurd hdone h
    · rintro ⟨m, hm, -⟩
      cases hm
  | succ n =>
    constructor
    · intro hend
      exact ⟨n, rfl, hend⟩
    · rintro ⟨m, hm, hend⟩
      obtain rfl := Nat.succ.inj hm
      exact hend

/-- A step from which only one point follows, the same at all places. -/
theorem passes_of_next (hne : p.getD k .done ≠ .done) (hnext : ∀ q, p.next (k, q) = [(l, q)]) :
    p.Passes k .nothing l where
  sound {n before rest stop} hend := by
    obtain ⟨m, rfl, b, hb, hend⟩ := (endsIn_iff_of_ne_done hne).mp hend
    rw [hnext] at hb
    obtain rfl := List.mem_singleton.mp hb
    exact ⟨[], rest, m, rfl, rfl, Nat.le_succ m, by rwa [List.append_nil]⟩
  complete {n before x after stop} := by
    rintro rfl hend
    rw [List.append_nil] at hend
    exact ⟨n + 1, _, by rw [hnext]; exact List.mem_singleton.mpr rfl, hend⟩

theorem passes_save {slot : Nat} (h : p.getD k .done = .save slot) :
    p.Passes k .nothing (k + 1) :=
  passes_of_next (by rw [h]; exact Step.noConfusion) fun q => by rw [next, h]; rfl

theorem passes_jump (h : p.getD k .done = .jump l) : p.Passes k .nothing l :=
  passes_of_next (by rw [h]; exact Step.noConfusion) fun q => by rw [next, h]; rfl

theorem passes_look {c : Look} (h : p.getD k .done = .look c) :
    p.Passes k (Node.look c).Matches (k + 1) where
  sound {n before rest stop} hend := by
    have hne : p.getD k .done ≠ .done := by rw [h]; exact Step.noConfusion
    obtain ⟨m, rfl, b, hb, hend⟩ := (endsIn_iff_of_ne_done hne).mp hend
    simp only [next, h, Step.next] at hb
    split_ifs at hb with hc
    · obtain rfl := List.mem_singleton.mp hb
      exact ⟨[], rest, m, rfl, ⟨rfl, hc⟩, Nat.le_succ m, by rwa [List.append_nil]⟩
    · cases hb
  complete {n before x after stop} := by
    rintro ⟨rfl, hc⟩ hend
    rw [List.append_nil] at hend
    refine ⟨n + 1, _, ?_, hend⟩
    rw [next, h, List.nil_append, Step.next, if_pos hc]
    exact List.mem_singleton.mpr rfl

/-- A step that reads one character. -/
theorem passes_read {f : Char → Bool} (hne : p.getD k .done ≠ .done)
    (hnext : ∀ q, p.next (k, q) = (q.read? f).toList.map fun r => (k + 1, r)) :
    p.Passes k (fun _ x _ => ∃ c, x = [c] ∧ f c) (k + 1) where
  sound {n before rest stop} hend := by
    obtain ⟨m, rfl, b, hb, hend⟩ := (endsIn_iff_of_ne_done hne).mp hend
    rw [hnext] at hb
    obtain ⟨r, hr, rfl⟩ := List.mem_map.mp hb
    rw [Option.mem_toList] at hr
    cases rest with
    | nil => cases hr
    | cons c rest =>
      rw [Place.read?_placeBetween_cons] at hr
      split_ifs at hr with hc
      · obtain rfl := Option.some.inj hr
        exact ⟨[c], rest, m, rfl, ⟨c, rfl, hc⟩, Nat.le_succ m, hend⟩
  complete {n before x after stop} := by
    rintro ⟨c, rfl, hc⟩ hend
    refine ⟨n + 1, _, ?_, hend⟩
    rw [hnext, List.singleton_append, Place.read?_placeBetween_cons, if_pos hc]
    exact List.mem_singleton.mpr rfl

theorem passes_char {c : Char} (h : p.getD k .done = .char c) :
    p.Passes k (fun _ x _ => x = [c]) (k + 1) := by
  have hread : p.Passes k (fun _ x _ => ∃ d, x = [d] ∧ decide (d = c)) (k + 1) :=
    passes_read (by rw [h]; exact Step.noConfusion) fun q => by rw [next, h]; rfl
  apply hread.congr
  simp

theorem passes_set {s : Text.CodeSet} (h : p.getD k .done = .set s) :
    p.Passes k (Node.set s).Matches (k + 1) :=
  passes_read (by rw [h]; exact Step.noConfusion) fun q => by rw [next, h]; rfl

section Choice

variable {first second exit : Nat} {greedy : Bool}

theorem next_split (h : p.getD k .done = .split first second) (q : Place) :
    p.next (k, q) = [(first, q), (second, q)] := by
  rw [next, h]
  rfl

theorem endsIn_split_iff (h : p.getD k .done = .split first second) {n : Nat} {q stop : Place} :
    p.EndsIn n (k, q) stop ↔
      ∃ m, n = m + 1 ∧ (p.EndsIn m (first, q) stop ∨ p.EndsIn m (second, q) stop) := by
  rw [endsIn_iff_of_ne_done (by rw [h]; exact Step.noConfusion), next_split h]
  simp

/-- Which way is preferred makes no difference to what can be passed over. -/
theorem endsIn_choose_iff (h : p.getD k .done = .choose greedy first second) {n : Nat}
    {q stop : Place} : p.EndsIn n (k, q) stop ↔
      ∃ m, n = m + 1 ∧ (p.EndsIn m (first, q) stop ∨ p.EndsIn m (second, q) stop) := by
  cases greedy with
  | true => exact endsIn_split_iff h
  | false =>
    have hsplit : p.getD k .done = .split second first := h
    simp only [endsIn_split_iff hsplit, or_comm]

theorem passes_choose (h : p.getD k .done = .choose greedy first second)
    (hM : p.Passes first M l) (hN : p.Passes second N l) : p.Passes k (M.alt N) l where
  sound {n before rest stop} hend := by
    obtain ⟨m, rfl, hend | hend⟩ := (endsIn_choose_iff h).mp hend
    · obtain ⟨x, after, m', htext, hx, hm, hend⟩ := hM.sound hend
      exact ⟨x, after, m', htext, .inl hx, Nat.le_succ_of_le hm, hend⟩
    · obtain ⟨x, after, m', htext, hx, hm, hend⟩ := hN.sound hend
      exact ⟨x, after, m', htext, .inr hx, Nat.le_succ_of_le hm, hend⟩
  complete := by
    rintro n before x after stop (hx | hx) hend
    · obtain ⟨m, hend⟩ := hM.complete hx hend
      exact ⟨m + 1, (endsIn_choose_iff h).mpr ⟨m, rfl, .inl hend⟩⟩
    · obtain ⟨m, hend⟩ := hN.complete hx hend
      exact ⟨m + 1, (endsIn_choose_iff h).mpr ⟨m, rfl, .inr hend⟩⟩

/-- A choice between leaving and a body that comes back to the choice. -/
theorem passes_star (h : p.getD k .done = .choose greedy first exit)
    (hM : p.Passes first M k) : p.Passes k (M.times fun _ => True) exit where
  sound {n before rest stop} hend := by
    -- a round takes a step at least, so the path after it is shorter
    induction n using Nat.strong_induction_on generalizing before rest with
    | _ n ih =>
      obtain ⟨m, rfl, hend | hend⟩ := (endsIn_choose_iff h).mp hend
      · obtain ⟨y, rest, m', rfl, hy, hm, hend⟩ := hM.sound hend
        obtain ⟨z, after, m'', rfl, ⟨j, -, hz⟩, hm', hend⟩ := ih m' (Nat.lt_succ_of_le hm) hend
        refine ⟨y ++ z, after, m'', List.append_assoc .., ⟨j + 1, trivial, y, z, rfl, hy, hz⟩, ?_,
          ?_⟩
        · omega
        · rwa [← List.append_assoc]
      · exact ⟨[], rest, m, rfl, ⟨0, trivial, rfl⟩, Nat.le_succ m, by rwa [List.append_nil]⟩
  complete := by
    rintro n before x after stop ⟨j, -, hx⟩ hend
    induction j generalizing before x with
    | zero =>
      obtain rfl := hx
      rw [List.append_nil] at hend
      exact ⟨n + 1, (endsIn_choose_iff h).mpr ⟨n, rfl, .inr hend⟩⟩
    | succ j ih =>
      obtain ⟨y, z, rfl, hy, hz⟩ := hx
      rw [← List.append_assoc] at hend
      obtain ⟨m, hend⟩ := ih hz hend
      obtain ⟨m', hend⟩ := hM.complete hy hend
      rw [List.append_assoc]
      exact ⟨m' + 1, (endsIn_choose_iff h).mpr ⟨m', rfl, .inl hend⟩⟩

end Choice

end Combinators

section Placed

/-- The steps stand in the program from number `k` on. -/
def HasAt (p : Program) (k : Nat) (ss : List Step) : Prop :=
  ∀ i s, ss[i]? = some s → p.getD (k + i) .done = s

variable {s : Step} {ss us : List Step}

theorem HasAt.head (h : p.HasAt k (s :: ss)) : p.getD k .done = s := h 0 s rfl

theorem HasAt.tail (h : p.HasAt k (s :: ss)) : p.HasAt (k + 1) ss := by
  intro i u hu
  rw [Nat.add_right_comm, Nat.add_assoc]
  exact h (i + 1) u hu

theorem HasAt.left (h : p.HasAt k (ss ++ us)) : p.HasAt k ss := by
  intro i u hu
  have hlt : i < ss.length := (List.getElem?_eq_some_iff.mp hu).1
  exact h i u (by rwa [List.getElem?_append_left hlt])

theorem HasAt.right (h : p.HasAt k (ss ++ us)) : p.HasAt (k + ss.length) us := by
  intro i u hu
  rw [Nat.add_assoc]
  apply h (ss.length + i) u
  rwa [List.getElem?_append_right (Nat.le_add_right _ _), Nat.add_sub_cancel_left]

theorem passes_literal {cs : List Char} (h : p.HasAt k (cs.map .char)) :
    p.Passes k (Node.literal cs).Matches (k + cs.length) := by
  induction cs generalizing k with
  | nil => exact Passes.nothing p k
  | cons c cs ih =>
    rw [List.length_cons, Nat.add_comm cs.length, ← Nat.add_assoc]
    apply ((passes_char h.head).seq (ih h.tail)).congr
    intro before x after
    constructor
    · rintro ⟨y, z, rfl, rfl, rfl⟩
      rfl
    · rintro rfl
      exact ⟨[c], cs, rfl, rfl, rfl⟩

section Copies

variable {steps : Nat → List Step} {w : Nat}

theorem copies_succ (steps : Nat → List Step) (w n base : Nat) :
    Node.copies steps w (n + 1) base = steps base ++ Node.copies steps w n (base + w) := by
  have hnext : ∀ i, base + (i + 1) * w = base + w + i * w := by
    intro i
    rw [Nat.succ_mul]
    omega
  simp [Node.copies, List.range_succ_eq_map, List.flatMap_map, hnext]

theorem copies_concat (steps : Nat → List Step) (w n base : Nat) :
    Node.copies steps w (n + 1) base = Node.copies steps w n base ++ steps (base + n * w) := by
  simp [Node.copies, List.range_succ]

theorem length_copies (hw : ∀ b, (steps b).length = w) (n base : Nat) :
    (Node.copies steps w n base).length = n * w := by
  induction n generalizing base with
  | zero => simp [Node.copies]
  | succ n ih =>
    rw [copies_succ, List.length_append, hw, ih, Nat.succ_mul, Nat.add_comm]

theorem passes_copies (hw : ∀ b, (steps b).length = w)
    (hM : ∀ b, p.HasAt b (steps b) → p.Passes b M (b + w)) {n base : Nat}
    (h : p.HasAt base (Node.copies steps w n base)) :
    p.Passes base (M.rounds n) (base + n * w) := by
  induction n generalizing base with
  | zero =>
    rw [Nat.zero_mul]
    exact Passes.nothing p base
  | succ n ih =>
    rw [copies_succ] at h
    have hrest := h.right
    rw [hw] at hrest
    have hseq := (hM base h.left).seq (ih hrest)
    rwa [Nat.add_assoc, Nat.add_comm w, ← Nat.succ_mul] at hseq

/-- Copies each of which can be left for `exit`, the end of the last one. -/
theorem passes_optional {greedy : Bool} {exit : Nat} (hw : ∀ b, (steps b).length = w)
    (hM : ∀ b, p.HasAt b (steps b) → p.Passes b M (b + w)) {n base : Nat}
    (hexit : base + n * (w + 1) = exit)
    (h : p.HasAt base (Node.copies
      (fun b => Step.choose greedy (b + 1) exit :: steps (b + 1)) (w + 1) n base)) :
    p.Passes base (M.times (· ≤ n)) exit := by
  induction n generalizing base with
  | zero =>
    obtain rfl : base = exit := by rwa [Nat.zero_mul] at hexit
    apply (Passes.nothing p base).congr
    intro before x after
    simp [Reading.times, Reading.rounds]
  | succ n ih =>
    rw [copies_succ] at h
    have hrest := h.right
    rw [List.length_cons, hw] at hrest
    have hbody : p.Passes (base + 1) M (base + 1 + w) := hM _ h.left.tail
    rw [Nat.add_right_comm, Nat.add_assoc] at hbody
    have hnext : p.Passes (base + (w + 1)) (M.times (· ≤ n)) exit := by
      apply ih _ hrest
      rw [Nat.add_assoc, Nat.add_comm (w + 1), ← Nat.succ_mul, hexit]
    apply (passes_choose h.left.head (hbody.seq hnext) (Passes.nothing p exit)).congr
    intro before x after
    rw [Reading.seq_times_alt_nothing]
    apply Reading.times_congr
    intro m
    constructor
    · rintro (rfl | ⟨j, hj, rfl⟩)
      · exact Nat.zero_le _
      · exact Nat.succ_le_succ hj
    · intro hm
      cases m with
      | zero => exact .inl rfl
      | succ m => exact .inr ⟨m, Nat.le_of_succ_le_succ hm, rfl⟩

end Copies

theorem length_steps (n : Node) (base : Nat) : (n.steps base).length = n.width := by
  induction n generalizing base with
  | empty => rfl
  | literal cs => exact List.length_map _
  | set s => rfl
  | look c => rfl
  | group i body ih => simp [Node.steps, Node.width, ih]
  | seq a b iha ihb => simp [Node.steps, Node.width, iha, ihb]
  | alt a b iha ihb =>
    simp only [Node.steps, Node.width, List.length_append, List.length_cons, iha, ihb]
    omega
  | loop least most greedy body ih =>
    cases most with
    | some most =>
      simp only [Node.steps, Node.width, List.length_append]
      rw [length_copies ih, length_copies]
      intro b
      rw [List.length_cons, ih]
    | none =>
      cases least with
      | zero => simp [Node.steps, Node.width, ih]
      | succ least =>
        simp only [Node.steps, Node.width, List.length_append]
        rw [length_copies ih, List.length_singleton]

section Parts

variable {base : Nat} {body a b : Node} {greedy : Bool}

theorem add_width_group (base i : Nat) (body : Node) :
    base + (Node.group i body).width = base + 1 + body.width + 1 := by
  rw [Node.width]
  omega

theorem add_width_alt (base : Nat) (a b : Node) :
    base + (Node.alt a b).width = base + 1 + a.width + 1 + b.width := by
  rw [Node.width]
  omega

theorem add_width_endless (base : Nat) (greedy : Bool) (body : Node) :
    base + (Node.loop 0 none greedy body).width = base + 1 + body.width + 1 := by
  rw [Node.width]
  omega

theorem HasAt.group {i : Nat} (h : p.HasAt base ((Node.group i body).steps base)) :
    p.getD base .done = .save (2 * i) ∧ p.HasAt (base + 1) (body.steps (base + 1)) ∧
      p.getD (base + 1 + body.width) .done = .save (2 * i + 1) := by
  have hclose := h.right.head
  rw [List.length_cons, length_steps, Nat.add_comm body.width, ← Nat.add_assoc] at hclose
  exact ⟨h.left.head, h.left.tail, hclose⟩

theorem HasAt.seq (h : p.HasAt base ((Node.seq a b).steps base)) :
    p.HasAt base (a.steps base) ∧ p.HasAt (base + a.width) (b.steps (base + a.width)) := by
  have hb := h.right
  rw [length_steps] at hb
  exact ⟨h.left, hb⟩

theorem HasAt.alt (h : p.HasAt base ((Node.alt a b).steps base)) :
    p.getD base .done = .split (base + 1) (base + 1 + a.width + 1) ∧
      p.HasAt (base + 1) (a.steps (base + 1)) ∧
      p.getD (base + 1 + a.width) .done = .jump (base + 1 + a.width + 1 + b.width) ∧
      p.HasAt (base + 1 + a.width + 1) (b.steps (base + 1 + a.width + 1)) := by
  have hsecond : base + a.width + 2 = base + 1 + a.width + 1 := by omega
  rw [Node.steps, hsecond] at h
  have hjump := h.right.head
  have hb := h.right.tail
  rw [List.length_cons, length_steps, Nat.add_comm a.width, ← Nat.add_assoc] at hjump hb
  exact ⟨h.left.head, h.left.tail, hjump, hb⟩

theorem HasAt.bounded {least most : Nat}
    (h : p.HasAt base ((Node.loop least (some most) greedy body).steps base)) :
    p.HasAt base (Node.copies body.steps body.width least base) ∧
      p.HasAt (base + least * body.width) (Node.copies (fun k => Step.choose greedy (k + 1)
        (base + least * body.width + (most - least) * (body.width + 1)) :: body.steps (k + 1))
        (body.width + 1) (most - least) (base + least * body.width)) := by
  have hoptional := h.right
  rw [length_copies (length_steps body)] at hoptional
  exact ⟨h.left, hoptional⟩

theorem HasAt.endless (h : p.HasAt base ((Node.loop 0 none greedy body).steps base)) :
    p.getD base .done = .choose greedy (base + 1) (base + 1 + body.width + 1) ∧
      p.HasAt (base + 1) (body.steps (base + 1)) ∧
      p.getD (base + 1 + body.width) .done = if body.reads then .jump base
        else .choose greedy (base + 1) (base + 1 + body.width + 1) := by
  have hexit : base + body.width + 2 = base + 1 + body.width + 1 := by omega
  rw [Node.steps, hexit] at h
  have hlast := h.right.head
  rw [List.length_cons, length_steps, Nat.add_comm body.width, ← Nat.add_assoc] at hlast
  exact ⟨h.left.head, h.left.tail, hlast⟩

theorem HasAt.repeated {least : Nat}
    (h : p.HasAt base ((Node.loop (least + 1) none greedy body).steps base)) :
    p.HasAt base (Node.copies body.steps body.width (least + 1) base) ∧
      p.HasAt (base + least * body.width) (body.steps (base + least * body.width)) ∧
      p.getD (base + (least + 1) * body.width) .done = .choose greedy (base + least * body.width)
        (base + (least + 1) * body.width + 1) := by
  have hw := length_steps body
  have hend : base + least * body.width + body.width = base + (least + 1) * body.width := by
    rw [Nat.succ_mul, Nat.add_assoc]
  have hlast := h.left
  rw [copies_concat] at hlast
  have hbody := hlast.right
  rw [length_copies hw] at hbody
  have hchoose := h.right.head
  rw [length_copies hw, hend] at hchoose
  exact ⟨h.left, hbody, hchoose⟩

end Parts

section Loops

variable {body : Node} {greedy : Bool} {base : Nat}

theorem passes_bounded (hM : ∀ b, p.HasAt b (body.steps b) → p.Passes b M (b + body.width))
    {least most : Nat} (h : p.HasAt base ((Node.loop least (some most) greedy body).steps base)) :
    p.Passes base (M.times (Node.IsRounds least (some most)))
      (base + (Node.loop least (some most) greedy body).width) := by
  have hw := length_steps body
  obtain ⟨hfirst, hoptional⟩ := h.bounded
  have hseq := (passes_copies hw hM hfirst).seq (passes_optional hw hM rfl hoptional)
  rw [Nat.add_assoc] at hseq
  apply hseq.congr
  intro before x after
  rw [Reading.rounds_seq_times]
  apply Reading.times_congr
  intro n
  simp only [Node.IsRounds, Option.mem_some_iff, forall_eq']
  constructor
  · rintro ⟨j, hj, rfl⟩
    omega
  · intro hn
    exact ⟨n - least, by omega, by omega⟩

theorem passes_endless (hM : ∀ b, p.HasAt b (body.steps b) → p.Passes b M (b + body.width))
    (h : p.HasAt base ((Node.loop 0 none greedy body).steps base)) :
    p.Passes base (M.times (Node.IsRounds 0 none)) (base + 1 + body.width + 1) := by
  obtain ⟨hchoose, hplaced, hlast⟩ := h.endless
  have hbody : p.Passes (base + 1) M (base + 1 + body.width) := hM _ hplaced
  by_cases hreads : body.reads
  · rw [if_pos hreads] at hlast
    have hback : p.Passes (base + 1) M base :=
      (hbody.seq (passes_jump hlast)).congr fun _ _ _ => Reading.seq_nothing
    apply (passes_star hchoose hback).congr
    intro before x after
    apply Reading.times_congr
    simp [Node.IsRounds]
  · rw [if_neg hreads] at hlast
    have hmore := hbody.seq (passes_star hlast hbody)
    apply (passes_choose hchoose hmore (Passes.nothing p _)).congr
    intro before x after
    rw [Reading.seq_times_alt_nothing]
    apply Reading.times_congr
    intro n
    simp only [Node.IsRounds, true_and, Nat.zero_le, Option.not_mem_none, false_implies,
      implies_true, iff_true]
    exact n.eq_zero_or_eq_succ_pred.imp_right fun hn => ⟨n.pred, hn⟩

theorem passes_repeated (hM : ∀ b, p.HasAt b (body.steps b) → p.Passes b M (b + body.width))
    {least : Nat} (h : p.HasAt base ((Node.loop (least + 1) none greedy body).steps base)) :
    p.Passes base (M.times (Node.IsRounds (least + 1) none))
      (base + (least + 1) * body.width + 1) := by
  obtain ⟨hcopies, hlast, hchoose⟩ := h.repeated
  have hend : base + least * body.width + body.width = base + (least + 1) * body.width := by
    rw [Nat.succ_mul, Nat.add_assoc]
  have hbody := hM _ hlast
  rw [hend] at hbody
  have hseq := (passes_copies (length_steps body) hM hcopies).seq (passes_star hchoose hbody)
  apply hseq.congr
  intro before x after
  rw [Reading.rounds_seq_times]
  apply Reading.times_congr
  intro n
  simp only [Node.IsRounds, true_and, Option.not_mem_none, false_implies, implies_true, and_true]
  constructor
  · rintro ⟨j, rfl⟩
    exact Nat.le_add_right _ j
  · intro hn
    exact ⟨n - (least + 1), by omega⟩

end Loops

/-- The steps of a node pass over what the node matches. -/
theorem passes_steps (n : Node) {base : Nat} (h : p.HasAt base (n.steps base)) :
    p.Passes base n.Matches (base + n.width) := by
  induction n generalizing base with
  | empty => exact Passes.nothing p base
  | literal cs => exact passes_literal h
  | set s => exact passes_set h.head
  | look c => exact passes_look h.head
  | group i body ih =>
    obtain ⟨hopen, hbody, hclose⟩ := h.group
    rw [add_width_group]
    have hgroup := ((passes_save hopen).seq (ih hbody)).seq (passes_save hclose)
    exact hgroup.congr fun _ _ _ => Reading.seq_nothing.trans Reading.nothing_seq
  | seq a b iha ihb =>
    obtain ⟨ha, hb⟩ := h.seq
    have hseq := (iha ha).seq (ihb hb)
    rwa [Nat.add_assoc] at hseq
  | alt a b iha ihb =>
    obtain ⟨hsplit, ha, hjump, hb⟩ := h.alt
    rw [add_width_alt]
    have hover := ((iha ha).seq (passes_jump hjump)).congr fun _ _ _ => Reading.seq_nothing
    have hchoose : p.getD base .done = .choose true (base + 1) (base + 1 + a.width + 1) := hsplit
    exact passes_choose hchoose hover (ihb hb)
  | loop least most greedy body ih =>
    cases most with
    | some most => exact passes_bounded (fun _ => ih) h
    | none =>
      cases least with
      | zero =>
        rw [add_width_endless]
        exact passes_endless (fun _ => ih) h
      | succ least => exact passes_repeated (fun _ => ih) h

end Placed

end Program

end PostalAddress
