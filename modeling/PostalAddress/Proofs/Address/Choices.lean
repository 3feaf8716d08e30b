import PostalAddress.Proofs.Address.Shown
import PostalAddress.Proofs.Text.Trimming

/-!
# What a choice keeps

The text of a choice falls into the parts of its fields, since blanks keep the bars between two fields
apart from bars in their values. So a choice shows the first part of a field that is not blank, and
this part is all of the value when there are no double bars in it.
-/

namespace PostalAddress

open Text

namespace Text

theorem trim_cons_of_blank {c : Char} (h : isBlank c) (t : List Char) : trim (c :: t) = trim t := by
  rw [trim, dropBlanks, List.dropWhile_cons_of_pos h, trim, dropBlanks]

theorem trim_append_blanks (t : List Char) {s : List Char} (h : ∀ c ∈ s, isBlank c) :
    trim (t ++ s) = trim t := by
  rw [trim, dropBlanks, List.dropWhile_append, trim, dropBlanks]
  split
  · rename_i hnil
    rw [List.isEmpty_iff.mp hnil, List.dropWhile_eq_nil_iff.mpr h]
  · exact dropTrailing_append h

theorem trim_eq_nil_iff {t : List Char} : trim t = [] ↔ ∀ c ∈ t, isBlank c := by
  rw [← List.dropWhile_eq_nil_iff, ← List.dropWhile_idempotent, List.dropWhile_eq_nil_iff]
  exact List.rdropWhile_eq_nil_iff

theorem map_trim_consHead {c : Char} (h : isBlank c) {ps : List (List Char)} (hne : ps ≠ []) :
    (consHead c ps).map trim = ps.map trim := by
  obtain ⟨p, ps, rfl⟩ := List.exists_cons_of_ne_nil hne
  rw [consHead, List.map_cons, List.map_cons, trim_cons_of_blank h]

end Text

namespace Alternatives

def bars : List Char := ['|', '|']

/-- The parts between double bars, with their white space. -/
def cuts (t : List Char) : List (List Char) := (Front.exactly bars).split t

theorem cuts_ne_nil (t : List Char) : cuts t ≠ [] := Front.split_ne_nil _ t

theorem exactly_bars_eq_none {c : Char} {r : List Char} (h : ¬ bars <+: c :: r) :
    Front.exactly bars (c :: r) = none := by
  rw [Front.exactly, if_neg (by rwa [List.isPrefixOf_iff_prefix])]

theorem cuts_cons {c : Char} {r : List Char} (h : ¬ bars <+: c :: r) :
    cuts (c :: r) = consHead c (cuts r) :=
  Front.split_cons_of_none (exactly_bars_eq_none h)

theorem cuts_bars_append (t : List Char) : cuts (bars ++ t) = [] :: cuts t :=
  Front.split_cons_of_some (f := Front.exactly bars) (n := 1) rfl

theorem not_bars_prefix_cons {c : Char} (h : c ≠ '|') (r : List Char) : ¬ bars <+: c :: r :=
  fun hpre => h (List.cons_prefix_cons.mp hpre).1.symm

theorem cuts_append_bars {s : List Char} (h : '|' ∉ s) (t : List Char) :
    cuts (s ++ (bars ++ t)) = s :: cuts t := by
  induction s with
  | nil => exact cuts_bars_append t
  | cons c s ih =>
    rw [List.mem_cons, not_or] at h
    rw [List.cons_append, cuts_cons (not_bars_prefix_cons (Ne.symm h.1) _), ih h.2, consHead]

/-- Bars after a blank are cut at, whatever stands before. -/
theorem cuts_append (t u : List Char) :
    cuts (t ++ ' ' :: (bars ++ u)) = cuts (t ++ [' ']) ++ cuts u := by
  have hblank : ∀ r, cuts (' ' :: r) = consHead ' ' (cuts r) := fun r =>
    cuts_cons (not_bars_prefix_cons (by decide) r)
  induction hlen : t.length using Nat.strong_induction_on generalizing t with
  | h n ih =>
    subst hlen
    by_cases hbars : bars <+: t
    · obtain ⟨t, rfl⟩ := hbars
      have hlt : t.length < (bars ++ t).length := by
        rw [List.length_append]
        exact Nat.lt_add_of_pos_left (by decide)
      rw [List.append_assoc, cuts_bars_append, ih _ hlt t rfl, List.append_assoc,
        cuts_bars_append, List.cons_append]
    · cases t with
      | nil =>
        rw [List.nil_append, hblank, cuts_bars_append, List.nil_append, hblank]
        rfl
      | cons c t =>
        have hkeep : ∀ r, ¬ bars <+: c :: (t ++ ' ' :: r) := by
          intro r hpre
          obtain ⟨hc, hpre⟩ := List.cons_prefix_cons.mp hpre
          cases t with
          | nil => exact absurd (List.cons_prefix_cons.mp hpre).1 (by decide)
          | cons d t =>
            obtain ⟨hd, _⟩ := List.cons_prefix_cons.mp hpre
            exact hbars ⟨t, by rw [← hc, ← hd]; rfl⟩
        have hlt : t.length < (c :: t).length := Nat.lt_succ_self _
        rw [List.cons_append, cuts_cons (hkeep _), ih _ hlt t rfl, List.cons_append,
          cuts_cons (hkeep []), consHead_append c (cuts_ne_nil _)]

/-- A match of the separator: bars with the white space on both sides. -/
theorem separator_eq_some {t : List Char} {n : Nat} (h : separator t = some n) :
    ∃ s b u, t = s ++ (bars ++ (b ++ u)) ∧ t.drop n = u ∧ 0 < n ∧ (∀ c ∈ s, isBlank c) ∧
      ∀ c ∈ b, isBlank c := by
  obtain ⟨m, hm, hb⟩ := Option.bind_eq_some_iff.mp h
  obtain ⟨s, r, rfl, rfl, hs⟩ := Front.spaced_split hm
  obtain ⟨k, hk, rfl⟩ := Option.map_eq_some_iff.mp hb
  rw [List.drop_left] at hk
  obtain rfl := Option.some.inj hk
  refine ⟨s, r.takeWhile isBlank, r.dropWhile isBlank, ?_, ?_, ?_, hs, fun c hc => ?_⟩
  · rw [List.takeWhile_append_dropWhile, List.append_assoc]
    rfl
  · rw [← List.drop_drop, List.drop_left, drop_length_takeWhile]
  · rw [List.length_append, Nat.add_right_comm]
    exact Nat.lt_add_left _ (by decide)
  · exact List.mem_takeWhile_imp hc

theorem separator_of_bars {t : List Char} (h : bars <+: t) : (separator t).isSome := by
  obtain ⟨r, rfl⟩ := h
  rfl

theorem map_trim_cuts_append {s : List Char} (h : ∀ c ∈ s, isBlank c) (t : List Char) :
    (cuts (s ++ t)).map trim = (cuts t).map trim := by
  induction s with
  | nil => rfl
  | cons c s ih =>
    obtain ⟨hc, hs⟩ := List.forall_mem_cons.mp h
    have hbar : c ≠ '|' := by
      rintro rfl
      exact absurd hc (by decide)
    rw [List.cons_append, cuts_cons (not_bars_prefix_cons hbar _),
      map_trim_consHead hc (cuts_ne_nil _), ih hs]

/-- Parts that are the same but for white space, of which the first has none at its front. -/
def Alike (ps qs : List (List Char)) : Prop :=
  ∃ p s ps' qs', ps = p :: ps' ∧ qs = (p ++ s) :: qs' ∧ (∀ c ∈ s, isBlank c) ∧
    ps'.map trim = qs'.map trim

theorem Alike.map_trim {ps qs : List (List Char)} (h : Alike ps qs) :
    ps.map trim = qs.map trim := by
  obtain ⟨p, s, ps', qs', rfl, rfl, hs, hrest⟩ := h
  rw [List.map_cons, List.map_cons, trim_append_blanks p hs, hrest]

theorem Alike.consHead {ps qs : List (List Char)} (h : Alike ps qs) (c : Char) :
    Alike (consHead c ps) (consHead c qs) := by
  obtain ⟨p, s, ps', qs', rfl, rfl, hs, hrest⟩ := h
  exact ⟨c :: p, s, ps', qs', rfl, rfl, hs, hrest⟩

/-- The white space that goes with the bars is cut off the parts on both sides. -/
theorem alike_parts_cuts (t : List Char) : Alike (parts t) (cuts t) := by
  induction hlen : t.length using Nat.strong_induction_on generalizing t with
  | h n ih =>
    subst hlen
    cases t with
    | nil => exact ⟨[], [], [], [], rfl, rfl, nofun, rfl⟩
    | cons c r =>
      cases hsep : separator (c :: r) with
      | none =>
        have hbars : ¬ bars <+: c :: r := by
          intro hpre
          have hsome := separator_of_bars hpre
          rw [hsep] at hsome
          cases hsome
        rw [parts, Front.split_cons_of_none hsep, cuts_cons hbars]
        exact (ih _ (Nat.lt_succ_self _) r rfl).consHead c
      | some m =>
        obtain ⟨s, b, u, htext, hdrop, hpos, hs, hb⟩ := separator_eq_some hsep
        obtain ⟨k, rfl⟩ := Nat.exists_eq_add_one_of_ne_zero (Nat.ne_of_gt hpos)
        rw [List.drop_succ_cons] at hdrop
        have hparts : parts (c :: r) = [] :: parts u := by
          rw [parts, Front.split_cons_of_some hsep, hdrop, parts]
        have hlt : u.length < (c :: r).length := by
          rw [← hdrop, List.length_drop]
          exact Nat.lt_succ_of_le (Nat.sub_le _ _)
        have hbar : '|' ∉ s := fun hmem => absurd (hs _ hmem) (by decide)
        refine ⟨[], s, parts u, cuts (b ++ u), hparts, ?_, hs, ?_⟩
        · rw [htext, cuts_append_bars hbar, List.nil_append]
        · rw [map_trim_cuts_append hb, (ih _ hlt u rfl).map_trim]

/-- The parts of a text that are not blank, trimmed. -/
def filled (t : List Char) : List (List Char) := ((parts t).map trim).filter (!·.isEmpty)

theorem filled_eq_cuts (t : List Char) :
    filled t = ((cuts t).map trim).filter (!·.isEmpty) := by
  rw [filled, (alike_parts_cuts t).map_trim]

theorem firstAvailable_eq (t : List Char) : firstAvailable t = (filled t).head?.getD [] := by
  rw [firstAvailable, filled, List.head?_filter]

/-- Bars after a blank part what is before them from what is after them. -/
theorem filled_append (t u : List Char) :
    filled (t ++ ' ' :: (bars ++ u)) = filled (t ++ [' ']) ++ filled u := by
  rw [filled_eq_cuts, filled_eq_cuts, filled_eq_cuts, cuts_append, List.map_append,
    List.filter_append]

end Alternatives

namespace LayoutItem

/-- The parts of a value that a choice takes into account. -/
def options (s : String) : List (List Char) := Alternatives.filled (" " ++ s ++ " ").toList

theorem options_of_blank : options "" = [] := by decide

/-- The text of a choice has the parts of its fields. -/
theorem filled_choiceText (f : Fields) {names : List String} (h : names ≠ []) :
    Alternatives.filled (choiceText f names).toList =
      names.flatMap fun name => options (f.textOf name) := by
  induction names with
  | nil => exact absurd rfl h
  | cons name names ih =>
    cases names with
    | nil => simp [choiceText, options]
    | cons name' names =>
      have htext : (choiceText f (name :: name' :: names)).toList =
          (" " ++ f.textOf name).toList ++ ' ' :: (Alternatives.bars ++
            (choiceText f (name' :: names)).toList) := by
        simp [choiceText, String.intercalate_cons_cons, Alternatives.bars]
      have hfirst : (" " ++ f.textOf name).toList ++ [' '] =
          (" " ++ f.textOf name ++ " ").toList := by
        simp
      rw [htext, Alternatives.filled_append, ih (List.cons_ne_nil _ _), hfirst]
      rfl

/-- A choice shows the first part of its fields that is not blank. -/
theorem shown_firstOf (f : Fields) {names : List String} (h : names ≠ []) :
    (LayoutItem.firstOf names).shown f = String.ofList
      ((names.flatMap fun name => options (f.textOf name)).head?.getD []) := by
  rw [shown, Alternatives.firstAvailable_eq, filled_choiceText f h]

end LayoutItem

section Rendering

open Alternatives LayoutItem

/-- Whether a field is there and holds more than white space. -/
def Fields.isFilled (f : Fields) (name : String) : Bool :=
  (Table.get? f name).any fun v => v.toList.any (!isBlank ·)

/-- The value of the first of these fields that is filled, without the white space at its ends. -/
def Fields.firstFilled (f : Fields) (names : List String) : String :=
  match names.find? f.isFilled with
  | some name => String.ofList (trim (f.textOf name).toList)
  | none => ""

theorem Fields.isFilled_eq (f : Fields) (name : String) :
    f.isFilled name = !(trim (f.textOf name).toList).isEmpty := by
  rw [Bool.eq_iff_iff, Bool.not_eq_true', List.isEmpty_eq_false_iff, ne_eq, trim_eq_nil_iff]
  rw [isFilled, textOf]
  cases Table.get? f name with
  | none => simp
  | some v => simp

theorem Alternatives.cuts_eq_singleton {t : List Char} (h : ¬ bars <:+: t) : cuts t = [t] := by
  refine Front.split_eq_singleton fun s hs => Front.exactly_eq_none_iff.mpr fun hpre => ?_
  exact h (List.infix_iff_prefix_suffix.mpr ⟨s, hpre, hs⟩)

/-- Blanks on both sides part nothing and make no bars. -/
theorem LayoutItem.options_of_not_bars {s : String} (h : ¬ bars <:+: s.toList) :
    options s = [trim s.toList].filter (!·.isEmpty) := by
  have htext : (" " ++ s ++ " ").toList = ' ' :: (s.toList ++ [' ']) := by simp
  have hbars : ¬ bars <:+: ' ' :: (s.toList ++ [' ']) := by
    rw [List.infix_cons_iff, List.infix_concat_iff]
    rintro (hpre | hsuf | hin)
    · exact absurd hpre (not_bars_prefix_cons (by decide) _)
    · obtain ⟨u, hu⟩ := hsuf
      have hlast := congrArg List.getLast? hu
      simp [bars] at hlast
    · exact h hin
  rw [options, htext, filled_eq_cuts, cuts_eq_singleton hbars, List.map_singleton,
    trim_cons_of_blank (by decide), trim_append_blanks _ (by decide)]

theorem LayoutItem.shown_firstOf_of_not_bars {f : Fields} {names : List String} (hne : names ≠ [])
    (hbars : ∀ name ∈ names, ¬ bars <:+: (f.textOf name).toList) :
    (LayoutItem.firstOf names).shown f = f.firstFilled names := by
  have hoptions : (names.flatMap fun name => options (f.textOf name)) =
      (names.map fun name => trim (f.textOf name).toList).filter (!·.isEmpty) := by
    rw [List.map_eq_flatMap, List.filter_flatMap]
    exact List.flatMap_congr fun name hname => options_of_not_bars (hbars name hname)
  have hfilled : (fun name => !(trim (f.textOf name).toList).isEmpty) = f.isFilled :=
    funext fun name => (f.isFilled_eq name).symm
  rw [shown_firstOf f hne, hoptions, List.head?_filter, List.find?_map, Function.comp_def, hfilled,
    Fields.firstFilled]
  cases names.find? f.isFilled <;> rfl

theorem Mark.Apart.concat_tag {ms : List Mark} (h : Mark.Apart ms) (sigil : Option Char)
    (name : String) : Mark.Apart (ms ++ [.tag sigil name]) := by
  induction ms with
  | nil => exact ⟨nofun, trivial⟩
  | cons m ms ih =>
    refine ⟨fun htext m' hm' => ?_, ih h.2⟩
    cases ms with
    | nil => exact Option.some.inj hm' ▸ rfl
    | cons m'' ms => exact h.1 htext m' hm'

/-- A choice that stands alone renders to what it shows. -/
theorem LayoutItem.renderSource_firstOf {r : Renderer} (hr : r.delimiters = .braces)
    (partials : Partials) (f : Fields) {names : List String}
    (h : (LayoutItem.firstOf names).IsPlain) (depth : Nat) :
    Plain.renderSource r Selector.compute partials (depth + 2) [Formatter.view f]
        (LayoutItem.firstOf names).source =
      .ok ((LayoutItem.firstOf names).shown f) := by
  have hmarks : [LayoutItem.firstOf names].flatMap marks = marks (.firstOf names) :=
    List.flatMap_singleton _ _
  have hstays : ∀ m ∈ marks (.firstOf names), m.StaysOnLine := by
    rw [marks, List.forall_mem_cons, List.forall_mem_append, List.forall_mem_singleton]
    exact ⟨trivial, staysOnLine_of_mem_choiceMarks names, trivial⟩
  have hvar : ∃ m ∈ marks (.firstOf names), m.IsVar := by
    obtain ⟨m, hm, hvar⟩ := exists_isVar_choiceMarks h.1
    exact ⟨m, List.mem_cons_of_mem _ (List.mem_append_left _ hm), hvar⟩
  have hapart : Mark.Apart (marks (.firstOf names)) :=
    ⟨fun htext => absurd htext Bool.false_ne_true, (apart_choiceMarks h.1).concat_tag _ _⟩
  have hline := Mark.lines_piecesAll hstays (Mark.exists_isLoud hvar) (.inl rfl)
  rw [List.append_nil] at hline
  rw [← hmarks] at hapart hline hvar
  obtain ⟨_, hrender⟩ := renderSource_items partials f hr (List.forall_mem_singleton.mpr h) hapart
    hline hvar depth
  rw [hmarks, printAll_marks, String.ofList_toList] at hrender
  rw [hrender, List.map_singleton]
  exact congrArg Except.ok (by simp)

/-- Letters, digits and underscores stand in a tag as they are. -/
theorem LayoutItem.isInsertable_of_isAlphanum {name : String} (hkey : name ≠ Alternatives.key)
    (h : ∀ c ∈ name.toList, c.isAlphanum ∨ c = '_') : IsInsertable name := by
  have hdot : '.' ∉ name.toList := fun hmem => absurd (h '.' hmem) (by decide)
  have hsegments : Context.segments name = [] := by
    rw [Context.segments]
    split
    · rfl
    · rfl
    · exact if_neg (by rwa [List.contains_iff_mem])
  refine ⟨⟨hkey, ?_, hsegments⟩,
    Mark.isPlainName_of_isAlphanum fun c hc => (h c hc).imp_right .inl⟩
  rintro rfl
  exact hdot (by decide)

/-- A choice renders to the first of its fields that is filled. What the value holds is neither
read as a template nor escaped, and double bars alone would part it. -/
theorem Renderer.render_firstOf {r : Renderer} (hr : r.delimiters = .braces) (hdepth : 2 ≤ r.depth)
    (partials : Partials) {cache : Cache} (hcache : cache.Faithful r.delimiters)
    {names : List String} (hne : names ≠ [])
    (hnames : ∀ name ∈ names, name ≠ Alternatives.key ∧
      ∀ c ∈ name.toList, c.isAlphanum ∨ c = '_')
    {f : Fields} (hbars : ∀ name ∈ names, ¬ bars <:+: (f.textOf name).toList) :
    (r.render Selector.compute partials (LayoutItem.firstOf names).source (Formatter.view f)
        cache).1 =
      .ok (f.firstFilled names) := by
  obtain ⟨depth, hnested⟩ := Nat.exists_eq_add_of_le' hdepth
  have hplain : (LayoutItem.firstOf names).IsPlain :=
    ⟨hne, fun name hname =>
      isInsertable_of_isAlphanum (hnames name hname).1 (hnames name hname).2⟩
  rw [render_eq_plain r _ partials _ _ hcache, hnested, renderSource_firstOf hr partials f hplain,
    shown_firstOf_of_not_bars hne hbars]

/-- White space, an absent field, single bars, markup and tags in a value. -/
theorem Renderer.render_firstOf_town :
    (Renderer.render {} Selector.compute noPartials
        (LayoutItem.firstOf ["suburb", "town", "", "city_2", "town"]).source
        (Formatter.view (.ofList [("suburb", " \n\t"), ("city_2", "Berne"),
          ("", "\n | <b>\x7b\x7b\x7btown\x7d\x7d\x7d</b>|\n\x7b\x7b/first\x7d\x7d | \n")])) Cache.empty).1 =
      .ok "| <b>\x7b\x7b\x7btown\x7d\x7d\x7d</b>|\n\x7b\x7b/first\x7d\x7d |" :=
  (render_firstOf rfl (by decide) noPartials (Cache.faithful_empty _) (by decide) (by decide)
    (by decide)).trans (by decide)

end Rendering

end PostalAddress
