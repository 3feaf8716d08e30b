import PostalAddress.Proofs.Template.LineEnds
import PostalAddress.Proofs.Template.Printed

/-!
# A partial on a line of its own

A line with nothing but white space and the tag of a partial is standalone: it comes to the partial
alone, whose lines are moved in by that white space. Since the line before it has ended and it ends
a line itself, what stands around it is rendered as it is without it.
-/

namespace PostalAddress

open Text

namespace Escape

/-- A text with something put before each of its lines that is not empty. -/
def indented (indent text : String) : String :=
  String.ofList (['\n'].intercalate
    ((splitOn '\n' text.toList).map fun line => if line = [] then [] else indent.toList ++ line))

theorem indented_empty (text : String) : indented "" text = text := by
  have hlines : ∀ line : List Char, (if line = [] then [] else "".toList ++ line) = line := by
    intro line
    split
    · exact Eq.symm ‹_›
    · rfl
  simp only [indented, hlines, List.map_id', intercalate_splitOn, String.ofList_toList]

theorem indentPartial_eq_indented {indent : String}
    (h : ∀ c ∈ indent.toList, c = ' ' ∨ c = '\t') (text : String) :
    indentPartial text indent false = indented indent text := by
  have hindent : indent.toList.filter (fun c => c = ' ' || c = '\t') = indent.toList :=
    List.filter_eq_self.mpr fun c hc => by simpa using h c hc
  obtain ⟨l, ls, hlines⟩ := List.exists_cons_of_ne_nil (splitOn_ne_nil '\n' text.toList)
  have hline : indentLine indent.toList = fun line =>
      if line = [] then [] else indent.toList ++ line := by
    funext line
    simp [indentLine]
  rw [indentPartial, hindent, indented, hlines, indentLines, hline]
  rfl

end Escape

theorem Renderer.partialText_eq_indented {indent : String}
    (h : ∀ c ∈ indent.toList, c = ' ' ∨ c = '\t') (text : String) :
    partialText text ⟨indent, 0, false⟩ = Escape.indented indent text := by
  by_cases hempty : indent = ""
  · rw [hempty, Escape.indented_empty]
    rfl
  · have hcond : ((0 : Nat) = 0 && !indent.isEmpty) = true := by simpa using hempty
    rw [← Escape.indentPartial_eq_indented h]
    exact if_pos hcond

namespace Mark

/-- The marks of a line with the tag of a partial after white space. -/
def ownLine (indent name : String) : List Mark := [.text indent, .tag (some '>') name, .text "\n"]

theorem foldl_after_letters {t : List Char} (h : ∀ c ∈ t, isBlank c) (before : Placement)
    (p : Nat) :
    (letters p t).foldl .after before =
      { before with indentation := before.indentation ++ String.ofList t } := by
  induction t generalizing before p with
  | nil => simp [letters]
  | cons c r ih =>
    obtain ⟨hc, hr⟩ := List.forall_mem_cons.mp h
    have hpush : (before.indentation.push c) ++ String.ofList r =
        before.indentation ++ String.ofList (c :: r) := by
      simp [← String.toList_inj]
    rw [letters, List.foldl_cons, Placement.after, if_pos hc, ih hr, hpush]

theorem filter_ofPieces_letters (before : Placement) (p : Nat) (t : List Char) :
    (FlatToken.ofPieces before (letters p t)).filter (!·.isText) = [] := by
  induction t generalizing before p with
  | nil => rfl
  | cons c r ih => exact ih _ _

theorem all_isQuiet_letters {t : List Char} (h : ∀ c ∈ t, isBlank c) (p : Nat) :
    (letters p t).all Piece.isQuiet = true := by
  induction t generalizing p with
  | nil => rfl
  | cons c r ih =>
    obtain ⟨hc, hr⟩ := List.forall_mem_cons.mp h
    rw [letters, List.all_cons, ih hr, Bool.and_true]
    exact hc

theorem exists_piecesAll_ownLine (indent name : String) :
    ∃ a b, piecesAll 0 (ownLine indent name) =
      letters 0 indent.toList ++ [.tag (.inclusion name) a, .letter '\n' b] :=
  ⟨_, _, rfl⟩

section OwnLine

variable {indent name : String} (hindent : ∀ c ∈ indent.toList, c = ' ' ∨ c = '\t')

include hindent

/-- Nothing but the tag is left of the line, and it keeps the white space before it. -/
theorem exists_flat_ownLine (name : String) :
    ∃ span, Piece.flat (piecesAll 0 (ownLine indent name)) =
      [.leaf (.inclusion name ⟨indent, 0, false⟩) span] := by
  obtain ⟨a, b, hpieces⟩ := exists_piecesAll_ownLine indent name
  have hblank : ∀ c ∈ indent.toList, isBlank c := by
    intro c hc
    obtain rfl | rfl := hindent c hc <;> decide
  have hstays : ∀ q ∈ letters 0 indent.toList ++ [.tag (.inclusion name) a],
      q.endsLine = false := by
    have hnewline : '\n' ∉ indent.toList := fun h => absurd (hindent _ h) (by decide)
    have htext : ∀ m ∈ [Mark.text indent], m.StaysOnLine := by simpa [StaysOnLine]
    have hindented := endsLine_piecesAll htext 0
    rw [piecesAll, piecesAll, List.append_nil] at hindented
    refine List.forall_mem_append.mpr ⟨hindented, fun q hq => ?_⟩
    obtain rfl := List.mem_singleton.mp hq
    rfl
  have hlines := Piece.lines_concat hstays (.letter '\n' b)
  rw [List.append_assoc, List.singleton_append] at hlines
  have hstandalone : Piece.isStandalone
      (letters 0 indent.toList ++ [.tag (.inclusion name) a, .letter '\n' b]) = true := by
    rw [Piece.isStandalone, List.any_append, List.all_append, all_isQuiet_letters hblank]
    simp [Piece.isTag, Piece.isQuiet, isBlank]
  have hplacement : (letters 0 indent.toList).foldl .after .start =
      (⟨indent, 0, false⟩ : Placement) := by
    rw [foldl_after_letters hblank]
    simp [Placement.start]
  refine ⟨a, ?_⟩
  rw [hpieces, Piece.flat, hlines, List.flatMap_singleton, FlatToken.ofLine, if_pos hstandalone,
    FlatToken.ofPieces_append, List.filter_append, filter_ofPieces_letters, hplacement]
  rfl

theorem reads_ownLine (hname : IsPlainName name) :
    Reads .braces ⟨printAll (ownLine indent name), 0⟩ (piecesAll 0 (ownLine indent name)) .braces
      ⟨[], byteLength (printAll (ownLine indent name))⟩ := by
  have hbrace : '\x7b' ∉ indent.toList := fun h => absurd (hindent _ h) (by decide)
  have htag : ∀ m ∈ [Mark.tag (some '>') name, .text "\n"], m.IsPlain := by
    have htext : (Mark.text "\n").IsPlain := by decide
    have hsigil : (Mark.tag (some '>') name).IsPlain := ⟨by decide, hname⟩
    simp [htext, hsigil]
  have hfirst := reads_letters hbrace (printAll [.tag (some '>') name, .text "\n"]) 0
  have hrest := reads_printAll htag [] (0 + byteLength indent.toList)
  rw [List.append_nil] at hrest
  have hpieces : piecesAll 0 (ownLine indent name) = letters 0 indent.toList ++
      piecesAll (0 + byteLength indent.toList) [.tag (some '>') name, .text "\n"] := rfl
  have hprint : printAll (ownLine indent name) =
      indent.toList ++ printAll [.tag (some '>') name, .text "\n"] := rfl
  rw [hpieces, hprint, byteLength_append]
  simpa only [Nat.zero_add] using hfirst.append hrest

end OwnLine

end Mark

namespace Template

variable {indent name : String} (hindent : ∀ c ∈ indent.toList, c = ' ' ∨ c = '\t')
  (hname : Mark.IsPlainName name)

/-- A line with the tag of a partial after white space. -/
def ownLine (indent name : String) : String := indent ++ "\x7b\x7b>" ++ name ++ "\x7d\x7d\n"

theorem toList_ownLine (indent name : String) :
    (ownLine indent name).toList = Mark.printAll (Mark.ownLine indent name) := by
  simp [ownLine, Mark.ownLine, Mark.printAll, Mark.print, Mark.closing]

include hindent hname

theorem exists_compile_ownLine : ∃ span, compile (ownLine indent name) .braces =
    .ok ⟨ownLine indent name, .braces, [.leaf (.inclusion name ⟨indent, 0, false⟩) span]⟩ := by
  obtain ⟨span, hflat⟩ := Mark.exists_flat_ownLine hindent name
  have hread := Mark.reads_ownLine hindent hname
  rw [← toList_ownLine] at hread
  refine ⟨span, compile_eq_ok_iff.mpr ⟨rfl, rfl, fun _ => Delimiters.proper_braces, _, _, _, hread, ?_⟩⟩
  rw [hflat]
  exact .leaf _ span .nil

theorem endsLine_ownLine : EndsLine .braces (ownLine indent name) := by
  have hread := Mark.reads_ownLine hindent hname
  rw [← toList_ownLine] at hread
  have hpieces := Pieces.read_of_reads hread
  dsimp only at hpieces
  obtain ⟨a, b, hshape⟩ := Mark.exists_piecesAll_ownLine indent name
  constructor
  · rw [hpieces, hshape]
    exact ⟨b, by simp⟩
  · rw [hpieces]
    exact hread.delimiters_eq.symm

end Template

namespace Plain

variable {κ : Type} (r : Renderer) (compute : Compute κ) (partials : Partials)

/-- The bound of the renderer itself plays no part below it. -/
theorem renderSource_withDepth (n depth : Nat) :
    renderSource { r with depth := n } compute partials depth =
      renderSource r compute partials depth := by
  induction depth with
  | zero => rfl
  | succ depth ih =>
    funext views source
    rw [renderSource, renderSource, ih]

variable {r compute partials} {indent name text : String}

/-- The line comes to the partial, moved in. -/
theorem renderSource_ownLine (hr : r.delimiters = .braces)
    (hindent : ∀ c ∈ indent.toList, c = ' ' ∨ c = '\t') (hname : Mark.IsPlainName name)
    (htext : partials name = some text) (depth : Nat) (views : List (Value κ)) :
    renderSource r compute partials (depth + 1) views (Template.ownLine indent name) =
      renderSource r compute partials depth views (Escape.indented indent text) := by
  obtain ⟨span, hcompile⟩ := Template.exists_compile_ownLine hindent hname
  rw [renderSource, hr, hcompile]
  change (renderLeaf compute r.escape partials (renderSource r compute partials depth) views
    (.inclusion name ⟨indent, 0, false⟩)).followedBy (.ok "") = _
  rw [Rendered.followedBy_empty, renderLeaf, htext, ← Renderer.partialText_eq_indented hindent]

/-- What stands around the line is rendered as it is without it. -/
theorem renderSource_around_ownLine (hr : r.delimiters = .braces)
    (hindent : ∀ c ∈ indent.toList, c = ' ' ∨ c = '\t') (hname : Mark.IsPlainName name)
    {pre post : String} {tpost : Template}
    (hpre : pre = "" ∨ ∃ t, Template.compile pre .braces = .ok t ∧ Template.EndsLine .braces pre)
    (hpost : Template.compile post .braces = .ok tpost) (depth : Nat) (views : List (Value κ)) :
    renderSource r compute partials (depth + 1) views
        (pre ++ (Template.ownLine indent name ++ post)) =
      (renderSource r compute partials (depth + 1) views pre).followedBy
        ((renderSource r compute partials (depth + 1) views
          (Template.ownLine indent name)).followedBy
          (renderSource r compute partials (depth + 1) views post)) := by
  obtain ⟨span, hline⟩ := Template.exists_compile_ownLine hindent hname
  have hends := Template.endsLine_ownLine hindent hname
  have hbraces : Delimiters.braces.Blankless := by decide
  have hrest := Template.compile_append hline hends hbraces post
  rw [hpost] at hrest
  have hafter := renderSource_append r compute partials (hr ▸ hbraces) (hr ▸ hline) (hr ▸ hends)
    (hr ▸ hpost) (depth + 1) views
  obtain rfl | ⟨tpre, hcompile, hend⟩ := hpre
  · have hnothing : renderSource r compute partials (depth + 1) views "" = .ok "" := rfl
    rw [String.empty_append, hnothing, Rendered.empty_followedBy, hafter]
  · rw [← hafter]
    exact renderSource_append r compute partials (hr ▸ hbraces) (hr ▸ hcompile) (hr ▸ hend)
      (hr ▸ hrest) (depth + 1) views

end Plain

namespace Renderer

/-- The rendering ends before the bound is reached: from some smaller bound on, it comes to the
same. That it does not fail at the bound says less, since a lambda need not pass on that what it
rendered failed. -/
def EndsBelow {σ κ : Type} [TemplateCache σ] (r : Renderer) (compute : Compute κ)
    (partials : Partials) (source : String) (s : RenderState σ κ) : Prop :=
  ∃ depth < r.depth, ∀ more,
    ({ r with depth := more + depth }.renderIn compute partials source s).1 =
      ({ r with depth := depth }.renderIn compute partials source s).1

variable {κ : Type} {r : Renderer} {compute : Compute κ} {partials : Partials}
  {views : List (Value κ)}

theorem renderIn_withDepth_eq_plain (r : Renderer) (compute : Compute κ) (partials : Partials)
    (source : String) {s : RenderState Cache κ} (h : s.Faithful r.delimiters views) (n : Nat) :
    ({ r with depth := n }.renderIn compute partials source s).1 =
      Plain.renderSource r compute partials n views source := by
  rw [renderIn_eq_plain { r with depth := n } compute partials source h,
    Plain.renderSource_withDepth]

theorem endsBelow_iff {source : String} {s : RenderState Cache κ}
    (hs : s.Faithful r.delimiters views) :
    r.EndsBelow compute partials source s ↔ ∃ depth < r.depth, ∀ more,
      Plain.renderSource r compute partials (more + depth) views source =
        Plain.renderSource r compute partials depth views source := by
  simp only [EndsBelow, renderIn_withDepth_eq_plain r compute partials source hs]

/-- So one source less to nest in makes no difference. -/
theorem EndsBelow.exists_plain_eq {source : String} {s : RenderState Cache κ}
    (h : r.EndsBelow compute partials source s) (hs : s.Faithful r.delimiters views) :
    ∃ depth, r.depth = depth + 1 ∧
      Plain.renderSource r compute partials depth views source =
        Plain.renderSource r compute partials (depth + 1) views source := by
  obtain ⟨least, hlt, hsettled⟩ := (endsBelow_iff hs).mp h
  obtain ⟨more, hmore⟩ := Nat.exists_eq_add_of_lt hlt
  refine ⟨more + least, by omega, ?_⟩
  rw [hsettled, show more + least + 1 = (more + 1) + least by omega, hsettled]

/-- A partial that stands on a line of its own comes to its text with the white space before the tag
put before each line that is not empty. -/
theorem renderIn_ownLine (hr : r.delimiters = .braces) {indent name text pre post : String}
    (hindent : ∀ c ∈ indent.toList, c = ' ' ∨ c = '\t') (hname : Mark.IsPlainName name)
    (hpre : pre = "" ∨ ∃ t, Template.compile pre .braces = .ok t ∧ Template.EndsLine .braces pre)
    (hpost : ∃ t, Template.compile post .braces = .ok t) (htext : partials name = some text)
    {s s₁ s₂ s₃ : RenderState Cache κ} (hs : s.Faithful .braces views)
    (hs₁ : s₁.Faithful .braces views) (hs₂ : s₂.Faithful .braces views)
    (hs₃ : s₃.Faithful .braces views)
    (hends : r.EndsBelow compute partials (Escape.indented indent text) s₂) :
    (r.renderIn compute partials (pre ++ (Template.ownLine indent name ++ post)) s).1 =
      Rendered.followedBy (r.renderIn compute partials pre s₁).1
        (Rendered.followedBy (r.renderIn compute partials (Escape.indented indent text) s₂).1
          (r.renderIn compute partials post s₃).1) := by
  obtain ⟨tpost, hpost⟩ := hpost
  rw [← hr] at hs hs₁ hs₂ hs₃
  obtain ⟨depth, hdepth, hsettled⟩ := hends.exists_plain_eq hs₂
  rw [renderIn_eq_plain r compute partials _ hs, renderIn_eq_plain r compute partials _ hs₁,
    renderIn_eq_plain r compute partials _ hs₂, renderIn_eq_plain r compute partials _ hs₃, hdepth,
    Plain.renderSource_around_ownLine hr hindent hname hpre hpost,
    Plain.renderSource_ownLine hr hindent hname htext, hsettled]

/-- The partial has an empty line, a partial on a line of its own and a variable. -/
theorem renderIn_ownLine_of_nested :
    ∃ (partials : Partials) (text : String) (s : RenderState Cache Empty),
      text = "b\n\n\x7b\x7b>q\x7d\x7d\n\x7b\x7bx\x7d\x7d" ∧
      partials = (fun name =>
        if name = "item_1" then some text else if name = "q" then some "d\ne\n" else none) ∧
      s = ⟨.empty, .ofView (.map [("x", .string "&")])⟩ ∧
      ({} : Renderer).EndsBelow (fun k _ => k.elim) partials (Escape.indented " \t" text) s ∧
      (({} : Renderer).renderIn (fun k _ => k.elim) partials ("a\x7b\x7bx\x7d\x7d\n" ++
          (Template.ownLine " \t" "item_1" ++ "\x7b\x7b\x7bx\x7d\x7d\x7dz")) s).1 =
        Rendered.followedBy
          (({} : Renderer).renderIn (fun k _ => k.elim) partials "a\x7b\x7bx\x7d\x7d\n" s).1
          (Rendered.followedBy
            (({} : Renderer).renderIn (fun k _ => k.elim) partials
              (Escape.indented " \t" text) s).1
            (({} : Renderer).renderIn (fun k _ => k.elim) partials
              "\x7b\x7b\x7bx\x7d\x7d\x7dz" s).1) ∧
      (({} : Renderer).renderIn (fun k _ => k.elim) partials ("a\x7b\x7bx\x7d\x7d\n" ++
          (Template.ownLine " \t" "item_1" ++ "\x7b\x7b\x7bx\x7d\x7d\x7dz")) s).1 =
        .ok "a&amp;\n \tb\n\n \td\n \te\n \t&amp;&z" := by
  let partials : Partials := fun name =>
    if name = "item_1" then some "b\n\n\x7b\x7b>q\x7d\x7d\n\x7b\x7bx\x7d\x7d"
    else if name = "q" then some "d\ne\n" else none
  let view : Value Empty := .map [("x", .string "&")]
  have hs : RenderState.Faithful .braces [view] ⟨.empty, .ofView view⟩ :=
    ⟨Cache.faithful_empty _, Context.faithful_ofView view, rfl⟩
  have hindented : Escape.indented " \t" "b\n\n\x7b\x7b>q\x7d\x7d\n\x7b\x7bx\x7d\x7d" =
      " \tb\n\n \t\x7b\x7b>q\x7d\x7d\n \t\x7b\x7bx\x7d\x7d" := by
    decide +kernel
  have hinner : Template.compile " \td\n \te\n" .braces =
      .ok ⟨" \td\n \te\n", .braces, [.leaf (.text " \td\n \te\n") ⟨0, 8⟩]⟩ := by
    rw [Template.compile_of_proper Delimiters.proper_braces, flatTokens_eq]
    rfl
  have houter : Template.compile " \tb\n\n \t\x7b\x7b>q\x7d\x7d\n \t\x7b\x7bx\x7d\x7d" .braces =
      .ok ⟨" \tb\n\n \t\x7b\x7b>q\x7d\x7d\n \t\x7b\x7bx\x7d\x7d", .braces,
        [.leaf (.text " \tb\n\n") ⟨0, 5⟩, .leaf (.inclusion "q" ⟨" \t", 0, false⟩) ⟨7, 13⟩,
          .leaf (.text " \t") ⟨14, 16⟩, .leaf (.var "x" true) ⟨16, 21⟩]⟩ := by
    rw [Template.compile_of_proper Delimiters.proper_braces, flatTokens_eq]
    rfl
  have hpartial : ∀ depth, Plain.renderSource {} (fun k _ => k.elim) partials (depth + 1) [view]
      " \td\n \te\n" = .ok " \td\n \te\n" := by
    intro depth
    rw [Plain.renderSource, hinner]
    rfl
  have hends : ∀ more, Plain.renderSource {} (fun k _ => k.elim) partials (more + 2) [view]
      " \tb\n\n \t\x7b\x7b>q\x7d\x7d\n \t\x7b\x7bx\x7d\x7d" =
        .ok " \tb\n\n \td\n \te\n \t&amp;" := by
    intro more
    have hq : partials "q" = some "d\ne\n" := rfl
    have htext : Renderer.partialText "d\ne\n" ⟨" \t", 0, false⟩ = " \td\n \te\n" := by
      decide +kernel
    have hvar : Plain.renderVar (fun k _ => k.elim) Escape.html [view] "x" true = "&amp;" := by
      decide +kernel
    rw [Plain.renderSource, houter, Except.bind]
    simp only [Plain.renderTokens, Plain.renderToken, Plain.renderLeaf, hq, htext, hpartial, hvar]
    decide +kernel
  have hendsBelow : ({} : Renderer).EndsBelow (fun k _ => k.elim) partials
      (Escape.indented " \t" "b\n\n\x7b\x7b>q\x7d\x7d\n\x7b\x7bx\x7d\x7d")
      (⟨.empty, .ofView view⟩ : RenderState Cache Empty) := by
    refine (endsBelow_iff hs).mpr ⟨2, by decide, fun more => ?_⟩
    rw [hindented, hends, hends 0]
  have hpre : ∃ t, Template.compile "a\x7b\x7bx\x7d\x7d\n" .braces = .ok t ∧
      Template.EndsLine .braces "a\x7b\x7bx\x7d\x7d\n" := by
    rw [Template.compile_of_proper Delimiters.proper_braces, flatTokens_eq]
    exact ⟨_, rfl, ⟨⟨_, rfl⟩, rfl⟩⟩
  have hpost : ∃ t, Template.compile "\x7b\x7b\x7bx\x7d\x7d\x7dz" .braces = .ok t := by
    rw [Template.compile_of_proper Delimiters.proper_braces, flatTokens_eq]
    exact ⟨_, rfl⟩
  have htext : partials "item_1" = some "b\n\n\x7b\x7b>q\x7d\x7d\n\x7b\x7bx\x7d\x7d" := rfl
  have hresult := renderIn_ownLine (r := {}) rfl (by decide) (by decide) (.inr hpre) hpost htext
    hs hs hs hs hendsBelow
  refine ⟨partials, _, ⟨.empty, .ofView view⟩, rfl, rfl, rfl, hendsBelow, hresult, ?_⟩
  rw [hresult]
  decide +kernel

end Renderer

end PostalAddress
