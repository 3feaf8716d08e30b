import Mathlib.Data.Finset.Card
import Mathlib.Data.Finset.Filter
import Mathlib.Data.Finset.Range
import Mathlib.Tactic.Ring
import PostalAddress.Pattern.Basic
import Std.Data.TreeSet.Lemmas

/-!
# The paths of a program

A `Point` is a step of a program and a place in a text: what a thread is without its groups. A step
leads from a point to its `next` points, and `EndsIn` counts the steps of a path to the end of the
program. A search goes along the paths of its threads and takes no split twice at one place. What it
finds ends such a path. Where it finds nothing, no path from its threads comes to an end: the splits
it has taken are settled, since all they lead to has failed or leads to a split taken. Its fuel is
enough in programs that jump back to splits only.
-/

namespace PostalAddress

/-- A number of a step and a place. -/
abbrev Point := Nat × Place

/-- The place between two parts of a text. -/
def Program.placeBetween (before rest : List Char) : Place := ⟨before.getLast?, rest, before.length⟩

namespace Place

/-- The place after the next character, when `p` holds of it. -/
def read? (q : Place) (p : Char → Bool) : Option Place :=
  match q.rest with
  | [] => none
  | c :: r => if p c then some ⟨some c, r, q.offset + 1⟩ else none

def IsIn (t : List Char) (q : Place) : Prop :=
  ∃ before rest, before ++ rest = t ∧ q = Program.placeBetween before rest

theorem IsIn.offset_le {t : List Char} {q : Place} (h : q.IsIn t) : q.offset ≤ t.length := by
  obtain ⟨before, rest, rfl, rfl⟩ := h
  simp [Program.placeBetween]

/-- The places of a text are told apart by the characters that precede them. -/
theorem IsIn.eq_of_offset_eq {t : List Char} {q q' : Place} (h : q.IsIn t) (h' : q'.IsIn t)
    (heq : q.offset = q'.offset) : q = q' := by
  obtain ⟨before, rest, htext, rfl⟩ := h
  obtain ⟨before', rest', htext', rfl⟩ := h'
  obtain ⟨rfl, rfl⟩ := List.append_inj (htext.trans htext'.symm) heq
  rfl

theorem read?_placeBetween_cons (before rest : List Char) (c : Char) (p : Char → Bool) :
    (Program.placeBetween before (c :: rest)).read? p =
      if p c then some (Program.placeBetween (before ++ [c]) rest) else none := by
  simp [read?, Program.placeBetween]

theorem IsIn.read? {t : List Char} {q r : Place} {p : Char → Bool} (h : q.IsIn t)
    (hr : q.read? p = some r) : r.IsIn t := by
  obtain ⟨before, rest, rfl, rfl⟩ := h
  cases rest with
  | nil => cases hr
  | cons c rest =>
    rw [read?_placeBetween_cons] at hr
    split at hr
    · obtain rfl := Option.some.inj hr
      exact ⟨before ++ [c], rest, List.append_cons .. ▸ rfl, rfl⟩
    · cases hr

end Place

namespace Thread

def point (t : Thread) : Point := (t.step, t.place)

theorem map_point_read? (t : Thread) (p : Char → Bool) :
    (t.read? p).toList.map point = (t.place.read? p).toList.map fun q => (t.step + 1, q) := by
  unfold read? Place.read?
  cases t.place.rest with
  | nil => rfl
  | cons c r =>
    dsimp only
    split_ifs <;> rfl

end Thread

/-- The points to which a step leads, the preferred first. -/
def Step.next (s : Step) (a : Point) : List Point :=
  match s with
  | .char c => (a.2.read? (· = c)).toList.map fun q => (a.1 + 1, q)
  | .set s => (a.2.read? s.contains).toList.map fun q => (a.1 + 1, q)
  | .look l => if l.holds a.2 then [(a.1 + 1, a.2)] else []
  | .save _ => [(a.1 + 1, a.2)]
  | .jump n => [(n, a.2)]
  | .split m n => [(m, a.2), (n, a.2)]
  | .done => []

namespace Program

def next (p : Program) (a : Point) : List Point := (p.getD a.1 .done).next a

/-- A path of `n` steps leads from a point to the end of the program, at the place `stop`. -/
def EndsIn (p : Program) : (n : Nat) → Point → (stop : Place) → Prop
  | 0, a, stop => p.getD a.1 .done = .done ∧ a.2 = stop
  | n + 1, a, stop => ∃ b ∈ p.next a, EndsIn p n b stop

def IsSplit (p : Program) (k : Nat) : Prop := ∃ m n, p.getD k .done = .split m n

/-- No step goes back but to a split. -/
def Progresses (p : Program) : Prop :=
  ∀ k n, p.getD k .done = .jump n → k < n ∨ p.IsSplit n

variable {p : Program} {a b : Point} {text : List Char}

theorem isIn_of_mem_next (h : a.2.IsIn text) (hb : b ∈ p.next a) : b.2.IsIn text := by
  have hread : ∀ f, b ∈ (a.2.read? f).toList.map (fun q => (a.1 + 1, q)) → b.2.IsIn text := by
    intro f hf
    obtain ⟨q, hq, rfl⟩ := List.mem_map.mp hf
    exact h.read? (Option.mem_toList.mp hq)
  unfold next Step.next at hb
  split at hb
  · exact hread _ hb
  · exact hread _ hb
  · split at hb <;> simp_all
  · simp_all
  · simp_all
  · rcases List.mem_pair.mp hb with rfl | rfl <;> exact h
  · cases hb

theorem lt_size_of_ne_done {k : Nat} (h : p.getD k .done ≠ .done) : k < p.size := by
  by_contra hle
  apply h
  simp [Array.getD, hle]

theorem IsSplit.ne_done {k : Nat} (h : p.IsSplit k) : p.getD k .done ≠ .done := by
  obtain ⟨m, n, h⟩ := h
  rw [h]
  exact Step.noConfusion

section Search

/-- The number under which a split at a point is taken. -/
def key (limit : Nat) (a : Point) : Nat := a.1 * limit + a.2.offset

/-- The splits taken after the step at a point. -/
def mark (p : Program) (limit : Nat) (taken : Taken) (a : Point) : Taken :=
  match p.getD a.1 .done with
  | .split _ _ => taken.insert (key limit a)
  | _ => taken

variable {limit : Nat} {taken taken' : Taken}

theorem mark_of_isSplit (h : p.IsSplit a.1) :
    p.mark limit taken a = taken.insert (key limit a) := by
  obtain ⟨m, n, h⟩ := h
  rw [mark, h]

theorem mark_of_not_isSplit (h : ¬ p.IsSplit a.1) : p.mark limit taken a = taken := by
  unfold mark
  split
  · exact absurd ⟨_, _, ‹_›⟩ h
  · rfl

theorem mem_mark_iff {n : Nat} :
    n ∈ p.mark limit taken a ↔ n ∈ taken ∨ (p.IsSplit a.1 ∧ n = key limit a) := by
  by_cases h : p.IsSplit a.1
  · rw [mark_of_isSplit h, Std.TreeSet.mem_insert, compare_eq_iff_eq]
    tauto
  · rw [mark_of_not_isSplit h]
    tauto

variable {t : Thread} {ts : List Thread}

theorem run_of_done (h : p.getD t.step .done = .done) (fuel : Nat) :
    p.run limit (fuel + 1) taken (t :: ts) = (some t, taken) := by
  rw [run]
  simp only [h]

theorem run_of_taken (hs : p.IsSplit t.step) (ht : key limit t.point ∈ taken) (fuel : Nat) :
    p.run limit (fuel + 1) taken (t :: ts) = p.run limit fuel taken ts := by
  obtain ⟨m, n, h⟩ := hs
  rw [run]
  simp only [h]
  exact if_pos (Std.TreeSet.contains_iff_mem.mpr ht)

/-- A thread that is not at the end gives way to those at the next points, unless it is at a split
taken before. -/
theorem exists_run_eq (ts : List Thread) (hdone : p.getD t.step .done ≠ .done)
    (hnew : ¬ (p.IsSplit t.step ∧ key limit t.point ∈ taken)) (fuel : Nat) :
    ∃ us : List Thread, us.map Thread.point = p.next t.point ∧
      p.run limit (fuel + 1) taken (t :: ts) =
        p.run limit fuel (p.mark limit taken t.point) (us ++ ts) := by
  rw [run]
  unfold next mark
  change ∃ us : List Thread, us.map Thread.point = (p.getD t.step .done).next t.point ∧ _
  cases hstep : p.getD t.step .done with
  | char c =>
    refine ⟨(t.read? (· = c)).toList, t.map_point_read? _, ?_⟩
    simp only [Thread.point, hstep]
    cases t.read? (· = c) <;> rfl
  | set s =>
    refine ⟨(t.read? s.contains).toList, t.map_point_read? _, ?_⟩
    simp only [Thread.point, hstep]
    cases t.read? s.contains <;> rfl
  | look l =>
    by_cases hl : l.holds t.place
    · refine ⟨[t.next], (if_pos hl).symm, ?_⟩
      simp only [Thread.point, hstep, if_pos hl]
      rfl
    · refine ⟨[], (if_neg hl).symm, ?_⟩
      simp only [Thread.point, hstep, if_neg hl]
      rfl
  | save slot =>
    simp only [Thread.point, hstep]
    exact ⟨[(t.save slot).next], rfl, rfl⟩
  | jump n =>
    simp only [Thread.point, hstep]
    exact ⟨[t.goto n], rfl, rfl⟩
  | split m n =>
    simp only [Thread.point, hstep]
    refine ⟨[t.goto m, t.goto n], rfl, if_neg ?_⟩
    rw [Std.TreeSet.contains_iff_mem]
    exact fun h => hnew ⟨⟨m, n, hstep⟩, h⟩
  | done => exact absurd hstep hdone

/-- What is found ends a path from one of the threads. -/
theorem exists_endsIn_of_run {fuel : Nat} {u : Thread}
    (h : p.run limit fuel taken ts = (some u, taken')) :
    ∃ t ∈ ts, ∃ n, p.EndsIn n t.point u.place := by
  induction fuel generalizing taken ts with
  | zero => cases h
  | succ fuel ih =>
    rcases ts with _ | ⟨t, ts⟩
    · cases h
    by_cases hdone : p.getD t.step .done = .done
    · rw [run_of_done hdone] at h
      obtain ⟨rfl, -⟩ : t = u ∧ taken = taken' := by simpa using h
      exact ⟨t, List.mem_cons_self, 0, hdone, rfl⟩
    by_cases htaken : p.IsSplit t.step ∧ key limit t.point ∈ taken
    · rw [run_of_taken htaken.1 htaken.2] at h
      obtain ⟨v, hv, hend⟩ := ih h
      exact ⟨v, List.mem_cons_of_mem t hv, hend⟩
    obtain ⟨us, hus, hrun⟩ := exists_run_eq ts hdone htaken fuel
    rw [hrun] at h
    obtain ⟨v, hv, n, hend⟩ := ih h
    rcases List.mem_append.mp hv with hv | hv
    · refine ⟨t, List.mem_cons_self, n + 1, v.point, ?_, hend⟩
      rw [← hus]
      exact List.mem_map_of_mem hv
    · exact ⟨v, List.mem_cons_of_mem t hv, n, hend⟩

/-- Every path from the point fails or comes to a split taken. -/
inductive Settled (p : Program) (limit : Nat) (taken : Taken) : Point → Prop
  | taken {a : Point} (hs : p.IsSplit a.1) (ht : key limit a ∈ taken) : Settled p limit taken a
  | step {a : Point} (hdone : p.getD a.1 .done ≠ .done)
      (hnext : ∀ b ∈ p.next a, Settled p limit taken b) : Settled p limit taken a

theorem Settled.mono (h : p.Settled limit taken a) (hle : ∀ n ∈ taken, n ∈ taken') :
    p.Settled limit taken' a := by
  induction h with
  | taken hs ht => exact .taken hs (hle _ ht)
  | step hdone _ ih => exact .step hdone ih

/-- Whatever a split taken leads to is settled. -/
def Closed (p : Program) (limit : Nat) (text : List Char) (taken : Taken) : Prop :=
  ∀ a : Point, a.2.IsIn text → p.IsSplit a.1 → key limit a ∈ taken →
    ∀ b ∈ p.next a, p.Settled limit taken b

theorem not_endsIn_of_settled (hc : p.Closed limit text taken) {n : Nat} {stop : Place}
    (ha : a.2.IsIn text) (hs : p.Settled limit taken a) : ¬ p.EndsIn n a stop := by
  -- a step of the path leads to a settled point, be it from a split taken or not
  induction n generalizing a with
  | zero =>
    rintro ⟨hdone, -⟩
    cases hs with
    | taken hs _ => exact hs.ne_done hdone
    | step hne _ => exact hne hdone
  | succ n ih =>
    rintro ⟨b, hb, hend⟩
    have hsb : p.Settled limit taken b := by
      cases hs with
      | taken hs ht => exact hc a ha hs ht b hb
      | step _ hnext => exact hnext b hb
    exact ih (isIn_of_mem_next ha hb) hsb hend

/-- What a search that finds nothing leaves behind. -/
structure Explored (p : Program) (limit : Nat) (text : List Char) (taken taken' : Taken)
    (as : List Point) : Prop where
  keeps : ∀ n ∈ taken, n ∈ taken'
  settles : ∀ a ∈ as, p.Settled limit taken' a
  closes : ∀ a : Point, a.2.IsIn text → p.IsSplit a.1 → key limit a ∈ taken' →
    key limit a ∈ taken ∨ ∀ b ∈ p.next a, p.Settled limit taken' b

variable {as : List Point}

theorem Explored.nil (taken : Taken) : p.Explored limit text taken taken [] where
  keeps _ hn := hn
  settles := List.forall_mem_nil _
  closes _ _ _ ht := .inl ht

theorem Explored.cons_of_taken (h : p.Explored limit text taken taken' as) (hs : p.IsSplit a.1)
    (ht : key limit a ∈ taken) : p.Explored limit text taken taken' (a :: as) where
  keeps := h.keeps
  settles := List.forall_mem_cons.mpr ⟨.taken hs (h.keeps _ ht), h.settles⟩
  closes := h.closes

theorem eq_of_key_eq (hlimit : text.length < limit) (ha : a.2.IsIn text) (hb : b.2.IsIn text)
    (h : key limit a = key limit b) : a = b := by
  have hpos : 0 < limit := Nat.zero_lt_of_lt hlimit
  have hrem : ∀ {c : Point}, c.2.IsIn text → key limit c / limit = c.1 ∧
      key limit c % limit = c.2.offset := by
    intro c hc
    have hlt : c.2.offset < limit := Nat.lt_of_le_of_lt hc.offset_le hlimit
    unfold key
    rw [Nat.add_comm, Nat.add_mul_div_right _ _ hpos, Nat.add_mul_mod_self_right,
      Nat.div_eq_of_lt hlt, Nat.mod_eq_of_lt hlt, Nat.zero_add]
    exact ⟨rfl, rfl⟩
  obtain ⟨ha₁, ha₂⟩ := hrem ha
  obtain ⟨hb₁, hb₂⟩ := hrem hb
  have hplace : a.2 = b.2 := ha.eq_of_offset_eq hb (by rw [← ha₂, ← hb₂, h])
  have hstep : a.1 = b.1 := by rw [← ha₁, ← hb₁, h]
  exact Prod.ext hstep hplace

theorem Explored.cons (hlimit : text.length < limit) (ha : a.2.IsIn text)
    (hdone : p.getD a.1 .done ≠ .done)
    (h : p.Explored limit text (p.mark limit taken a) taken' (p.next a ++ as)) :
    p.Explored limit text taken taken' (a :: as) where
  keeps n hn := h.keeps n (mem_mark_iff.mpr (.inl hn))
  settles := by
    have hnext : ∀ b ∈ p.next a, p.Settled limit taken' b :=
      fun b hb => h.settles b (List.mem_append_left as hb)
    have has : ∀ b ∈ as, p.Settled limit taken' b :=
      fun b hb => h.settles b (List.mem_append_right _ hb)
    exact List.forall_mem_cons.mpr ⟨.step hdone hnext, has⟩
  closes c hc hs ht := by
    rcases h.closes c hc hs ht with hmark | hsettled
    · rcases mem_mark_iff.mp hmark with hold | ⟨-, hkey⟩
      · exact .inl hold
      · obtain rfl := eq_of_key_eq hlimit hc ha hkey
        exact .inr fun b hb => h.settles b (List.mem_append_left as hb)
    · exact .inr hsettled

section Fuel

/-- No more steps are taken from a point before the next split, this one included. -/
noncomputable def weight (p : Program) (a : Point) : Nat :=
  open Classical in if p.IsSplit a.1 then 1 else p.size - a.1 + 1

/-- The number of splits that can still be taken. -/
def untaken (p : Program) (limit : Nat) (taken : Taken) : Nat :=
  ((Finset.range (p.size * limit)).filter fun n => n ∉ taken).card

/-- What is left to do: two threads for each split that can still be taken, and those at hand. -/
noncomputable def workload (p : Program) (limit : Nat) (taken : Taken) (as : List Point) : Nat :=
  2 * (p.size + 1) * p.untaken limit taken + (as.map p.weight).sum

theorem weight_pos (p : Program) (a : Point) : 0 < p.weight a := by
  unfold weight
  split_ifs
  · exact Nat.one_pos
  · exact Nat.succ_pos _

theorem weight_le (p : Program) (a : Point) : p.weight a ≤ p.size + 1 := by
  unfold weight
  split_ifs <;> omega

theorem untaken_mark_lt (hlimit : text.length < limit) (ha : a.2.IsIn text)
    (hs : p.IsSplit a.1) (hnew : key limit a ∉ taken) :
    p.untaken limit (p.mark limit taken a) < p.untaken limit taken := by
  have hstep : a.1 < p.size := lt_size_of_ne_done hs.ne_done
  have hoffset : a.2.offset < limit := Nat.lt_of_le_of_lt ha.offset_le hlimit
  have hkey : key limit a < p.size * limit :=
    calc a.1 * limit + a.2.offset < a.1 * limit + limit := Nat.add_lt_add_left hoffset _
      _ = (a.1 + 1) * limit := (Nat.succ_mul _ _).symm
      _ ≤ p.size * limit := Nat.mul_le_mul_right limit hstep
  apply Finset.card_lt_card
  rw [Finset.ssubset_iff_of_subset]
  · refine ⟨key limit a, ?_, ?_⟩
    · exact Finset.mem_filter.mpr ⟨Finset.mem_range.mpr hkey, hnew⟩
    · intro h
      exact (Finset.mem_filter.mp h).2 (mem_mark_iff.mpr (.inr ⟨hs, rfl⟩))
  · intro n hn
    obtain ⟨hrange, hn⟩ := Finset.mem_filter.mp hn
    exact Finset.mem_filter.mpr ⟨hrange, fun h => hn (mem_mark_iff.mpr (.inl h))⟩

/-- Before the next split the steps grow, so a step that is none makes its point lighter. -/
theorem sum_weight_next_lt (hp : p.Progresses) (hdone : p.getD a.1 .done ≠ .done)
    (hs : ¬ p.IsSplit a.1) : ((p.next a).map p.weight).sum < p.weight a := by
  have hlt : a.1 < p.size := lt_size_of_ne_done hdone
  have hweight : p.weight a = p.size - a.1 + 1 := if_neg hs
  have hgrows : ∀ (n : Nat) (q : Place), a.1 < n ∨ p.IsSplit n → p.weight (n, q) < p.weight a := by
    intro n q hn
    rw [hweight]
    unfold weight
    split_ifs with hsplit
    · omega
    · have hlt' : a.1 < n := hn.resolve_right hsplit
      dsimp only
      omega
  have hone : ∀ q, p.weight (a.1 + 1, q) < p.weight a :=
    fun q => hgrows _ q (.inl (Nat.lt_succ_self _))
  have hpos : 0 < p.weight a := p.weight_pos a
  have hread : ∀ q? : Option Place,
      ((q?.toList.map fun q => ((a.1 + 1, q) : Point)).map p.weight).sum < p.weight a := by
    intro q?
    cases q? with
    | none => exact hpos
    | some q => simpa using hone q
  unfold next Step.next
  split
  · exact hread _
  · exact hread _
  · split_ifs
    · simpa using hone a.2
    · exact hpos
  · simpa using hone a.2
  · rename_i n hjump
    simpa using hgrows n a.2 (hp a.1 n hjump)
  · exact absurd ⟨_, _, ‹_›⟩ hs
  · exact hpos

theorem sum_weight_next_le (hs : p.IsSplit a.1) :
    ((p.next a).map p.weight).sum ≤ 2 * (p.size + 1) := by
  obtain ⟨m, n, h⟩ := hs
  rw [next, h]
  have hm : p.weight (m, a.2) ≤ p.size + 1 := p.weight_le _
  have hn : p.weight (n, a.2) ≤ p.size + 1 := p.weight_le _
  simp only [Step.next, List.map_cons, List.map_nil, List.sum_cons, List.sum_nil]
  omega

/-- A step makes what is left less, unless it is a split taken before. -/
theorem workload_next_lt (as : List Point) (hp : p.Progresses) (hlimit : text.length < limit)
    (ha : a.2.IsIn text) (hdone : p.getD a.1 .done ≠ .done)
    (hnew : ¬ (p.IsSplit a.1 ∧ key limit a ∈ taken)) :
    p.workload limit (p.mark limit taken a) (p.next a ++ as) <
      p.workload limit taken (a :: as) := by
  unfold workload
  rw [List.map_append, List.sum_append, List.map_cons, List.sum_cons]
  by_cases hs : p.IsSplit a.1
  · have hfall : p.untaken limit (p.mark limit taken a) + 1 ≤ p.untaken limit taken :=
      untaken_mark_lt hlimit ha hs fun h => hnew ⟨hs, h⟩
    have hmul := Nat.mul_le_mul_left (2 * (p.size + 1)) hfall
    have hnext := sum_weight_next_le hs
    have hpos := p.weight_pos a
    rw [Nat.mul_add, Nat.mul_one] at hmul
    omega
  · have hnext := sum_weight_next_lt hp hdone hs
    rw [mark_of_not_isSplit hs]
    omega

end Fuel

/-- A search with enough fuel that finds nothing has explored its threads. -/
theorem explored_of_run (hp : p.Progresses) (hlimit : text.length < limit) {fuel : Nat}
    (hin : ∀ t ∈ ts, t.place.IsIn text)
    (hfuel : p.workload limit taken (ts.map Thread.point) ≤ fuel)
    (h : p.run limit fuel taken ts = (none, taken')) :
    p.Explored limit text taken taken' (ts.map Thread.point) := by
  induction fuel generalizing taken ts with
  | zero =>
    obtain rfl : taken = taken' := by simpa [run] using h
    cases ts with
    | nil => exact .nil taken
    | cons t ts =>
      have hpos := p.weight_pos t.point
      rw [workload, List.map_cons, List.map_cons, List.sum_cons] at hfuel
      omega
  | succ fuel ih =>
    cases ts with
    | nil =>
      obtain rfl : taken = taken' := by simpa [run] using h
      exact .nil taken
    | cons t ts =>
      obtain ⟨ht, hts⟩ := List.forall_mem_cons.mp hin
      by_cases hdone : p.getD t.step .done = .done
      · rw [run_of_done hdone] at h
        cases h
      by_cases htaken : p.IsSplit t.step ∧ key limit t.point ∈ taken
      · rw [run_of_taken htaken.1 htaken.2] at h
        have hpos := p.weight_pos t.point
        have hless : p.workload limit taken (ts.map Thread.point) ≤ fuel := by
          simp only [workload, List.map_cons, List.sum_cons] at hfuel ⊢
          omega
        exact (ih hts hless h).cons_of_taken htaken.1 htaken.2
      obtain ⟨us, hus, hrun⟩ := exists_run_eq ts hdone htaken fuel
      rw [hrun] at h
      have hall : (us ++ ts).map Thread.point = p.next t.point ++ ts.map Thread.point := by
        rw [List.map_append, hus]
      have hless :=
        workload_next_lt (a := t.point) (ts.map Thread.point) hp hlimit ht hdone htaken
      have hinside : ∀ v ∈ us ++ ts, v.place.IsIn text := by
        intro v hv
        rcases List.mem_append.mp hv with hv | hv
        · have hnext : v.point ∈ p.next t.point := hus ▸ List.mem_map_of_mem hv
          exact isIn_of_mem_next (a := t.point) ht hnext
        · exact hts v hv
      have hexplored := ih hinside (by rw [hall]; exact Nat.le_of_lt_succ (hless.trans_le hfuel)) h
      rw [hall] at hexplored
      exact hexplored.cons hlimit ht hdone

theorem workload_start_le (p : Program) (length : Nat) (taken : Taken) (a : Point) :
    p.workload (length + 1) taken [a] ≤ p.fuel length := by
  have huntaken : p.untaken (length + 1) taken ≤ p.size * (length + 1) := by
    have hle := Finset.card_filter_le (Finset.range (p.size * (length + 1))) fun n => n ∉ taken
    rwa [Finset.card_range] at hle
  have hweight : p.weight a ≤ 2 * (p.size + 1) * (length + 1) :=
    calc p.weight a ≤ p.size + 1 := p.weight_le a
      _ ≤ 2 * (p.size + 1) := by omega
      _ ≤ 2 * (p.size + 1) * (length + 1) := Nat.le_mul_of_pos_right _ (Nat.succ_pos length)
  calc p.workload (length + 1) taken [a]
      = 2 * (p.size + 1) * p.untaken (length + 1) taken + p.weight a := by simp [workload]
    _ ≤ 2 * (p.size + 1) * (p.size * (length + 1)) + 2 * (p.size + 1) * (length + 1) :=
        Nat.add_le_add (Nat.mul_le_mul_left _ huntaken) hweight
    _ = 2 * (p.size + 1) * (p.size + 1) * (length + 1) := by ring
    _ ≤ p.fuel length := Nat.le_succ _

end Search

end Program

end PostalAddress
