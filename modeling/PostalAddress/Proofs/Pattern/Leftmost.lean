import PostalAddress.Proofs.Pattern.Language

/-!
# Leftmost matches

The search from one place after the other finds the first from which a path leads to the end of the
program. The steps of a node go back to splits only, so that the search has fuel enough for them:
a pattern that is read from a text finds the leftmost match of the node that the text stands for,
and nothing where the node has no match.
-/

namespace PostalAddress

namespace Program

variable {p : Program} {text : List Char}

section Leftmost

/-- A path leads through the program from between two parts of a text. -/
def HasPath (p : Program) (before rest : List Char) : Prop :=
  ∃ n stop, p.EndsIn n (0, placeBetween before rest) stop

variable {taken taken' : Taken} {before rest : List Char}

theorem endsIn_of_matchAt {length : Nat} {u : Thread}
    (h : p.matchAt length taken (placeBetween before rest) = (some u, taken')) :
    ∃ n, p.EndsIn n (0, placeBetween before rest) u.place := by
  obtain ⟨t, ht, n, hend⟩ := exists_endsIn_of_run h
  obtain rfl := List.mem_singleton.mp ht
  exact ⟨n, hend⟩

theorem closed_of_matchAt (hp : p.Progresses) (htext : before ++ rest = text)
    (hc : p.Closed (text.length + 1) text taken)
    (h : p.matchAt text.length taken (placeBetween before rest) = (none, taken')) :
    p.Closed (text.length + 1) text taken' ∧ ¬ p.HasPath before rest := by
  have hplace : (placeBetween before rest).IsIn text := ⟨before, rest, htext, rfl⟩
  have hexplored := explored_of_run hp (Nat.lt_succ_self _)
    (List.forall_mem_singleton.mpr hplace) (p.workload_start_le _ _ _) h
  have hclosed : p.Closed (text.length + 1) text taken' := by
    intro a ha hs ht b hb
    rcases hexplored.closes a ha hs ht with hold | hsettled
    · exact (hc a ha hs hold b hb).mono hexplored.keeps
    · exact hsettled b hb
  refine ⟨hclosed, ?_⟩
  rintro ⟨n, stop, hend⟩
  have hsettled := hexplored.settles (0, placeBetween before rest) (List.mem_singleton.mpr rfl)
  exact not_endsIn_of_settled hclosed hplace hsettled hend

/-- What a search from the place after `start` characters on should find: the first place from which
a path leads to the end, and the end of one such path. -/
def Leftmost (p : Program) (text : List Char) (start : Nat) : Option (Nat × Nat × Slots) → Prop
  | none => ∀ before rest, before ++ rest = text → start ≤ before.length → ¬ p.HasPath before rest
  | some (i, j, _) =>
    (∃ before rest n stop, before ++ rest = text ∧ before.length = i ∧ stop.offset = j ∧
      p.EndsIn n (0, placeBetween before rest) stop) ∧
    ∀ before rest, before ++ rest = text → start ≤ before.length → p.HasPath before rest →
      i ≤ before.length

theorem leftmost_of_endsIn {n : Nat} {stop : Place} (htext : before ++ rest = text)
    (h : p.EndsIn n (0, placeBetween before rest) stop) (slots : Slots) :
    p.Leftmost text before.length (some (before.length, stop.offset, slots)) :=
  ⟨⟨before, rest, n, stop, htext, rfl, rfl, h⟩, fun _ _ _ hle _ => hle⟩

/-- A place from which no path leads to the end can be left out. -/
theorem Leftmost.of_succ {result : Option (Nat × Nat × Slots)} (htext : before ++ rest = text)
    (hnone : ¬ p.HasPath before rest) (h : p.Leftmost text (before.length + 1) result) :
    p.Leftmost text before.length result := by
  have hlater : ∀ b r, b ++ r = text → before.length ≤ b.length → p.HasPath b r →
      before.length + 1 ≤ b.length := by
    intro b r hbr hle hpath
    rcases Nat.eq_or_lt_of_le hle with heq | hlt
    · obtain ⟨rfl, rfl⟩ := List.append_inj (htext.trans hbr.symm) heq
      exact absurd hpath hnone
    · exact hlt
  cases result with
  | none => exact fun b r hbr hle hpath => h b r hbr (hlater b r hbr hle hpath) hpath
  | some m => exact ⟨h.1, fun b r hbr hle hs => h.2 b r hbr (hlater b r hbr hle hs) hs⟩

theorem findFrom_of_matchAt {length : Nat} {u : Thread}
    (h : p.matchAt length taken (placeBetween before rest) = (some u, taken')) :
    p.findFrom length taken before.getLast? before.length rest =
      some (before.length, u.place.offset, u.slots) := by
  unfold placeBetween at h
  cases rest <;> simp [findFrom, h]

/-- What failed after one start is taken along to the next. -/
theorem findFrom_cons_of_matchAt {length : Nat} {c : Char}
    (h : p.matchAt length taken (placeBetween before (c :: rest)) = (none, taken')) :
    p.findFrom length taken before.getLast? before.length (c :: rest) =
      p.findFrom length taken' (before ++ [c]).getLast? (before ++ [c]).length rest := by
  unfold placeBetween at h
  simp [findFrom, h]

theorem findFrom_nil_of_matchAt {length : Nat}
    (h : p.matchAt length taken (placeBetween before []) = (none, taken')) :
    p.findFrom length taken before.getLast? before.length [] = none := by
  unfold placeBetween at h
  simp [findFrom, h]

/-- Induction over the starts: one succeeds, the last fails, or one fails and the next is tried. -/
theorem findFrom_induction {length : Nat}
    {motive : Taken → List Char → List Char → Option (Nat × Nat × Slots) → Prop}
    (found : ∀ {taken taken' before rest u},
      p.matchAt length taken (placeBetween before rest) = (some u, taken') →
      motive taken before rest (some (before.length, u.place.offset, u.slots)))
    (last : ∀ {taken taken' before},
      p.matchAt length taken (placeBetween before []) = (none, taken') →
      motive taken before [] none)
    (later : ∀ {taken taken' before c rest result},
      p.matchAt length taken (placeBetween before (c :: rest)) = (none, taken') →
      motive taken' (before ++ [c]) rest result → motive taken before (c :: rest) result)
    (taken : Taken) (before rest : List Char) :
    motive taken before rest (p.findFrom length taken before.getLast? before.length rest) := by
  induction rest generalizing taken before with
  | nil =>
    cases hmatch : p.matchAt length taken (placeBetween before []) with
    | mk result taken' =>
    cases result with
    | some u =>
      rw [findFrom_of_matchAt hmatch]
      exact found hmatch
    | none =>
      rw [findFrom_nil_of_matchAt hmatch]
      exact last hmatch
  | cons c rest ih =>
    cases hmatch : p.matchAt length taken (placeBetween before (c :: rest)) with
    | mk result taken' =>
    cases result with
    | some u =>
      rw [findFrom_of_matchAt hmatch]
      exact found hmatch
    | none =>
      rw [findFrom_cons_of_matchAt hmatch]
      exact later hmatch (ih taken' (before ++ [c]))

/-- What is found ends a path from where it begins, in any program. -/
theorem exists_endsIn_of_find? {m : Nat × Nat × Slots} (h : p.find? text = some m) :
    ∃ before rest n stop, before ++ rest = text ∧ before.length = m.1 ∧ stop.offset = m.2.1 ∧
      p.EndsIn n (0, placeBetween before rest) stop := by
  refine findFrom_induction (motive := fun _ before rest result => before ++ rest = text →
    result = some m → ∃ b r n stop, b ++ r = text ∧ b.length = m.1 ∧ stop.offset = m.2.1 ∧
      p.EndsIn n (0, placeBetween b r) stop) ?_ ?_ ?_ ∅ [] text (List.nil_append text) h
  · intro taken taken' before rest u hmatch htext hresult
    obtain ⟨n, hend⟩ := endsIn_of_matchAt hmatch
    obtain rfl := Option.some.inj hresult
    exact ⟨before, rest, n, u.place, htext, rfl, rfl, hend⟩
  · intro taken taken' before hmatch htext hresult
    cases hresult
  · intro taken taken' before c rest result hmatch ih htext hresult
    exact ih ((List.append_assoc ..).trans htext) hresult

theorem leftmost_findFrom (hp : p.Progresses) (htext : before ++ rest = text)
    (hc : p.Closed (text.length + 1) text taken) :
    p.Leftmost text before.length
      (p.findFrom text.length taken before.getLast? before.length rest) := by
  -- the marks of a start that failed are closed, so that the next start can rely on them
  refine findFrom_induction (motive := fun taken before rest result => before ++ rest = text →
    p.Closed (text.length + 1) text taken → p.Leftmost text before.length result) ?_ ?_ ?_
    taken before rest htext hc
  · intro taken taken' before rest u hmatch htext _
    obtain ⟨n, hend⟩ := endsIn_of_matchAt hmatch
    exact leftmost_of_endsIn htext hend u.slots
  · intro taken taken' before hmatch htext hc
    obtain ⟨-, hnone⟩ := closed_of_matchAt hp htext hc hmatch
    apply Leftmost.of_succ htext hnone
    intro b r hbr hle
    have hlength := congrArg List.length (hbr.trans htext.symm)
    simp only [List.length_append, List.length_nil] at hlength
    omega
  · intro taken taken' before c rest result hmatch ih htext hc
    obtain ⟨hclosed, hnone⟩ := closed_of_matchAt hp htext hc hmatch
    apply Leftmost.of_succ htext hnone
    have hnext := ih ((List.append_assoc ..).trans htext) hclosed
    rwa [List.length_append] at hnext

/-- The search finds the leftmost match there is. -/
theorem leftmost_find? (hp : p.Progresses) (text : List Char) :
    p.Leftmost text 0 (p.find? text) := by
  have hc : p.Closed (text.length + 1) text ∅ := fun _ _ _ h => absurd h Std.TreeSet.not_mem_emptyc
  exact leftmost_findFrom hp (List.nil_append text) hc

end Leftmost

section Progress

variable {j k l : Nat}

/-- The steps from `k` up to `l` go back to splits only. -/
def ProgressesIn (p : Program) (k l : Nat) : Prop :=
  ∀ i, k ≤ i → i < l → ∀ n, p.getD i .done = .jump n → i < n ∨ p.IsSplit n

theorem ProgressesIn.append (h : p.ProgressesIn k j) (h' : p.ProgressesIn j l) :
    p.ProgressesIn k l := by
  intro i hk hl
  rcases Nat.lt_or_ge i j with hj | hj
  · exact h i hk hj
  · exact h' i hj hl

theorem progressesIn_self (p : Program) (k : Nat) : p.ProgressesIn k k :=
  fun _ hk hl => absurd hl (Nat.not_lt_of_le hk)

theorem progressesIn_succ {s : Step} (hs : p.getD k .done = s) (h : ∀ n, s ≠ .jump n) :
    p.ProgressesIn k (k + 1) := by
  intro i hk hl n hn
  obtain rfl : k = i := Nat.le_antisymm hk (Nat.le_of_lt_succ hl)
  exact absurd (hs.symm.trans hn) (h n)

theorem progressesIn_jump {m : Nat} (hs : p.getD k .done = .jump m) (h : k < m ∨ p.IsSplit m) :
    p.ProgressesIn k (k + 1) := by
  intro i hk hl n hn
  obtain rfl : k = i := Nat.le_antisymm hk (Nat.le_of_lt_succ hl)
  obtain rfl : m = n := Step.jump.inj (hs.symm.trans hn)
  exact h

theorem choose_ne_jump (greedy : Bool) (first second n : Nat) :
    Step.choose greedy first second ≠ .jump n := by
  cases greedy <;> exact Step.noConfusion

theorem isSplit_of_choose {greedy : Bool} {first second : Nat}
    (h : p.getD k .done = .choose greedy first second) : p.IsSplit k := by
  cases greedy with
  | true => exact ⟨first, second, h⟩
  | false => exact ⟨second, first, h⟩

theorem progressesIn_copies {steps : Nat → List Step} {w : Nat}
    (hw : ∀ b, (steps b).length = w)
    (hsteps : ∀ b, p.HasAt b (steps b) → p.ProgressesIn b (b + w)) {n base : Nat}
    (h : p.HasAt base (Node.copies steps w n base)) : p.ProgressesIn base (base + n * w) := by
  induction n generalizing base with
  | zero =>
    rw [Nat.zero_mul]
    exact progressesIn_self p base
  | succ n ih =>
    rw [copies_succ] at h
    have hrest := h.right
    rw [hw] at hrest
    have happend := (hsteps base h.left).append (ih hrest)
    rwa [Nat.add_assoc, Nat.add_comm w, ← Nat.succ_mul] at happend

theorem progressesIn_literal {cs : List Char} (h : p.HasAt k (cs.map .char)) :
    p.ProgressesIn k (k + cs.length) := by
  induction cs generalizing k with
  | nil => exact progressesIn_self p k
  | cons c cs ih =>
    rw [List.length_cons, Nat.add_comm cs.length, ← Nat.add_assoc]
    exact (progressesIn_succ h.head fun n => Step.noConfusion).append (ih h.tail)

theorem progressesIn_steps (n : Node) {base : Nat} (h : p.HasAt base (n.steps base)) :
    p.ProgressesIn base (base + n.width) := by
  induction n generalizing base with
  | empty => exact progressesIn_self p base
  | literal cs => exact progressesIn_literal h
  | set s => exact progressesIn_succ h.head fun n => Step.noConfusion
  | look c => exact progressesIn_succ h.head fun n => Step.noConfusion
  | group i body ih =>
    obtain ⟨hopen, hbody, hclose⟩ := h.group
    have hfirst := progressesIn_succ hopen fun n => Step.noConfusion
    have hlast := progressesIn_succ hclose fun n => Step.noConfusion
    rw [add_width_group]
    exact (hfirst.append (ih hbody)).append hlast
  | seq a b iha ihb =>
    obtain ⟨ha, hb⟩ := h.seq
    have happend := (iha ha).append (ihb hb)
    rwa [Nat.add_assoc] at happend
  | alt a b iha ihb =>
    obtain ⟨hsplit, ha, hjump, hb⟩ := h.alt
    have hfirst := progressesIn_succ hsplit fun n => Step.noConfusion
    have hover := progressesIn_jump hjump (.inl (by omega))
    rw [add_width_alt]
    exact ((hfirst.append (iha ha)).append hover).append (ihb hb)
  | loop least most greedy body ih =>
    have hw := length_steps body
    cases most with
    | some most =>
      obtain ⟨hcopies, hoptional⟩ := h.bounded
      have hchoice : ∀ exit b, p.HasAt b (Step.choose greedy (b + 1) exit :: body.steps (b + 1)) →
          p.ProgressesIn b (b + (body.width + 1)) := by
        intro exit b hb
        have happend := (progressesIn_succ hb.head (choose_ne_jump greedy _ _)).append (ih hb.tail)
        rwa [Nat.add_assoc, Nat.add_comm 1] at happend
      have hlast :=
        progressesIn_copies (fun b => by rw [List.length_cons, hw]) (hchoice _) hoptional
      have happend := (progressesIn_copies hw (fun b => ih) hcopies).append hlast
      rwa [Nat.add_assoc] at happend
    | none =>
      cases least with
      | zero =>
        obtain ⟨hchoose, hbody, hlast⟩ := h.endless
        have hfirst := progressesIn_succ hchoose (choose_ne_jump greedy _ _)
        have hback : p.ProgressesIn (base + 1 + body.width) (base + 1 + body.width + 1) := by
          by_cases hreads : body.reads
          · rw [if_pos hreads] at hlast
            exact progressesIn_jump hlast (.inr (isSplit_of_choose hchoose))
          · rw [if_neg hreads] at hlast
            exact progressesIn_succ hlast (choose_ne_jump greedy _ _)
        rw [add_width_endless]
        exact (hfirst.append (ih hbody)).append hback
      | succ least =>
        obtain ⟨hcopies, -, hchoose⟩ := h.repeated
        have hlast := progressesIn_succ hchoose (choose_ne_jump greedy _ _)
        exact (progressesIn_copies hw (fun b => ih) hcopies).append hlast

theorem hasAt_toArray (ss : List Step) : HasAt ss.toArray 0 ss := by
  intro i s hs
  obtain ⟨hi, hs⟩ := List.getElem?_eq_some_iff.mp hs
  simp [Array.getD, hi, hs]

theorem getD_width_program (n : Node) : n.program.getD n.width .done = .done := by
  have hat : HasAt n.program 0 (n.steps 0 ++ [.done]) := hasAt_toArray _
  have hdone := hat.right.head
  rwa [Nat.zero_add, length_steps] at hdone

theorem progresses_program (n : Node) : n.program.Progresses := by
  have hat : HasAt n.program 0 (n.steps 0 ++ [.done]) := hasAt_toArray _
  intro k m hk
  have hsize : n.program.size = n.width + 1 := by simp [Node.program, length_steps]
  have hlt : k < n.program.size := lt_size_of_ne_done (by rw [hk]; exact Step.noConfusion)
  rcases Nat.lt_or_ge k n.width with hin | hout
  · exact progressesIn_steps n hat.left k (Nat.zero_le k) (by rwa [Nat.zero_add]) m hk
  · obtain rfl : k = n.width := by omega
    exact absurd ((getD_width_program n).symm.trans hk) Step.noConfusion

end Progress

section Meaning

variable {before rest : List Char} {n : Node}

theorem endsIn_of_done {k m : Nat} {q stop : Place} (hdone : p.getD k .done = .done)
    (h : p.EndsIn m (k, q) stop) : q = stop := by
  cases m with
  | zero => exact h.2
  | succ m =>
    obtain ⟨b, hb, -⟩ := h
    rw [next, hdone] at hb
    cases hb

theorem passes_program (n : Node) : n.program.Passes 0 n.Matches n.width := by
  have hat : HasAt n.program 0 (n.steps 0 ++ [.done]) := hasAt_toArray _
  have hpasses := passes_steps n hat.left
  rwa [Nat.zero_add] at hpasses

/-- The paths through the program of a node pass over what the node matches. -/
theorem exists_matches_of_endsIn {m : Nat} {stop : Place}
    (h : n.program.EndsIn m (0, placeBetween before rest) stop) :
    ∃ x after, x ++ after = rest ∧ n.Matches before x after ∧
      stop = placeBetween (before ++ x) after := by
  obtain ⟨x, after, m', htext, hx, -, hend⟩ := (passes_program n).sound h
  exact ⟨x, after, htext, hx, (endsIn_of_done (getD_width_program n) hend).symm⟩

theorem hasPath_program_iff : n.program.HasPath before rest ↔ n.Matches.StartsAt before rest := by
  constructor
  · rintro ⟨m, stop, hend⟩
    obtain ⟨x, after, htext, hx, -⟩ := exists_matches_of_endsIn hend
    exact ⟨x, after, htext, hx⟩
  · rintro ⟨x, after, rfl, hx⟩
    have hend : n.program.EndsIn 0 (n.width, placeBetween (before ++ x) after)
        (placeBetween (before ++ x) after) := ⟨getD_width_program n, rfl⟩
    obtain ⟨m, hm⟩ := (passes_program n).complete hx hend
    exact ⟨m, _, hm⟩

end Meaning

end Program

/-- What is found is the leftmost text that `M` reads; where nothing is found, `M` reads none. -/
structure Text.Finder.Finds (find : Text.Finder) (M : Reading) : Prop where
  none : ∀ {t}, find t = none → ∀ before rest, before ++ rest = t → ¬ M.StartsAt before rest
  some : ∀ {t i n}, find t = some (i, n) → ∃ before x after, before ++ (x ++ after) = t ∧
    before.length = i ∧ x.length = n ∧ M before x after ∧
      ∀ b r, b ++ r = t → M.StartsAt b r → before.length ≤ b.length

/-- The node that the text of a pattern stands for. -/
def Node.ofText? (s : String) : Option Node :=
  (Written.read? s.toList).bind fun w => w.1.node?

namespace Pattern

section Node

variable {p : Pattern} {n : Node} (h : p.program = n.program)

include h

/-- Where a pattern with the program of a node finds nothing, the node has no match. -/
theorem not_startsAt_of_find?_eq_none {t before rest : List Char} (hfind : p.find? t = none)
    (htext : before ++ rest = t) : ¬ n.Matches.StartsAt before rest := by
  have hleftmost := Program.leftmost_find? (Program.progresses_program n) t
  rw [find?, h, Option.map_eq_none_iff] at hfind
  rw [hfind] at hleftmost
  rw [← Program.hasPath_program_iff]
  exact hleftmost before rest htext (Nat.zero_le _)

/-- What a pattern with the program of a node finds is the leftmost match of the node. -/
theorem exists_matches_of_find?_eq_some {t : List Char} {m : PatternMatch}
    (hfind : p.find? t = some m) :
    ∃ before x after, before ++ (x ++ after) = t ∧ before.length = m.start ∧
      (before ++ x).length = m.stop ∧ n.Matches before x after ∧
      ∀ b r, b ++ r = t → n.Matches.StartsAt b r → before.length ≤ b.length := by
  have hleftmost := Program.leftmost_find? (Program.progresses_program n) t
  rw [find?, h, Option.map_eq_some_iff] at hfind
  obtain ⟨⟨start, stop, slots⟩, hfind, rfl⟩ := hfind
  rw [hfind] at hleftmost
  obtain ⟨⟨before, rest, k, place, rfl, rfl, rfl, hend⟩, hfirst⟩ := hleftmost
  obtain ⟨x, after, rfl, hx, rfl⟩ := Program.exists_matches_of_endsIn hend
  refine ⟨before, x, after, rfl, rfl, rfl, hx, ?_⟩
  intro b r hbr hstarts
  exact hfirst b r hbr (Nat.zero_le _) (Program.hasPath_program_iff.mpr hstarts)

theorem finds_of_program : p.finder.Finds n.Matches where
  none {t} hfind before rest htext := by
    rw [finder, Option.map_eq_none_iff] at hfind
    exact not_startsAt_of_find?_eq_none h hfind htext
  some {t i k} hfind := by
    rw [finder, Option.map_eq_some_iff] at hfind
    obtain ⟨m, hfind, heq⟩ := hfind
    obtain ⟨rfl, rfl⟩ := Prod.mk.inj heq
    obtain ⟨before, x, after, htext, hstart, hstop, hx, hfirst⟩ :=
      exists_matches_of_find?_eq_some h hfind
    refine ⟨before, x, after, htext, hstart, ?_, hx, hfirst⟩
    rw [← hstart, ← hstop, List.length_append, Nat.add_sub_cancel_left]

end Node

theorem exists_program_of_parse? {s : String} {p : Pattern} (h : Pattern.parse? s = some p) :
    ∃ n, Node.ofText? s = some n ∧ p.program = n.program := by
  obtain ⟨⟨written, names⟩, hread, h⟩ := Option.bind_eq_some_iff.mp h
  obtain ⟨n, hnode, h⟩ := Option.bind_eq_some_iff.mp h
  split at h
  · obtain rfl := Option.some.inj h
    exact ⟨n, Option.bind_eq_some_iff.mpr ⟨_, hread, hnode⟩, rfl⟩
  · cases h

end Pattern

end PostalAddress
