import PostalAddress.Proofs.Template.Joining
import PostalAddress.Proofs.Template.Memory
import PostalAddress.Proofs.Template.Placing

/-!
# Rendering sources joined at a line end

The tokens of a source render alike when the source goes on or others precede it, since the sources
of their sections are the same. So two sources joined at a line end render to one text after the
other.
-/

namespace PostalAddress

open Text

namespace Text

theorem dropBytes_cons_add (c : Char) (r : List Char) (n : Nat) :
    dropBytes (c.utf8Size + n) (c :: r) = dropBytes n r := by
  have hpos := c.utf8Size_pos
  obtain ⟨m, hm⟩ : ∃ m, c.utf8Size + n = m + 1 := ⟨c.utf8Size + n - 1, by omega⟩
  rw [hm, dropBytes, if_pos (by omega), show m + 1 - c.utf8Size = n by omega]

theorem dropBytes_add (a b : List Char) (n : Nat) :
    dropBytes (byteLength a + n) (a ++ b) = dropBytes n b := by
  induction a with
  | nil => rw [byteLength, Nat.zero_add, List.nil_append]
  | cons c a ih => rw [byteLength, Nat.add_assoc, List.cons_append, dropBytes_cons_add, ih]

theorem sliceBytes_add (a b : List Char) (start stop : Nat) :
    sliceBytes (byteLength a + start) (byteLength a + stop) (a ++ b) = sliceBytes start stop b := by
  rw [sliceBytes, sliceBytes, dropBytes_add]
  simp only [Nat.add_le_add_iff_left, Nat.add_sub_add_left]

end Text

theorem Span.Holds.append_right {source x : List Char} {a : Span} (h : a.Holds source x)
    (u : List Char) : a.Holds (source ++ u) x := by
  obtain ⟨y, v, rfl, hstart, hstop⟩ := h
  exact ⟨y, v ++ u, by simp, hstart, hstop⟩

namespace Token

mutual

theorem move_zero : ∀ t : Token, move 0 t = t
  | .leaf _ _ => rfl
  | .block name inverted span closeStart children => by
    rw [move, moveAll_zero children]
    rfl

theorem moveAll_zero : ∀ ts : List Token, moveAll 0 ts = ts
  | [] => rfl
  | t :: ts => by rw [moveAll, move_zero t, moveAll_zero ts]

end

/-- The sections among tokens have the same source in one text as, moved, in another. -/
def SourcesMoved (source source' : String) (n : Nat) (ts : List Token) : Prop :=
  ∀ b ∈ ts, ∀ c ∈ b.closeStart?, Template.sectionSource source' (b.span.move n) (c + n) =
    Template.sectionSource source b.span c

theorem SourcesMoved.of_subset {source source' : String} {n : Nat} {ts us : List Token}
    (h : SourcesMoved source source' n us) (hsub : ts ⊆ us) : SourcesMoved source source' n ts :=
  fun b hb => h b (hsub hb)

end Token

namespace Plain

variable {κ : Type} (compute : Compute κ) (escape : String → String) (partials : Partials)
  (sub : List (Value κ) → String → Rendered)

theorem renderBlock_move (sub : String → Rendered) {source source' : String} {span : Span}
    {closeStart n : Nat}
    (h : Template.sectionSource source' (span.move n) (closeStart + n) =
      Template.sectionSource source span closeStart)
    (children : List (Value κ) → Rendered) (views : List (Value κ)) (v : Value κ) :
    renderBlock sub (some source') children views (span.move n) (closeStart + n) v =
      renderBlock sub (some source) children views span closeStart v := by
  cases v with
  | lambda call =>
    rw [renderBlock, renderBlock, Option.bind_some, Option.bind_some, h]
  | _ => rfl

mutual

theorem renderTokens_moveAll {source source' : String} {n : Nat} :
    ∀ (ts : List Token) (views : List (Value κ)),
      Token.SourcesMoved source source' n (Token.inOrderAll ts) →
        renderTokens compute escape partials sub (some source') views (Token.moveAll n ts) =
          renderTokens compute escape partials sub (some source) views ts
  | [], _, _ => rfl
  | t :: ts, views, h => by
    rw [Token.moveAll, renderTokens, renderTokens,
      renderToken_move t views (h.of_subset (List.subset_append_left _ _)),
      renderTokens_moveAll ts views (h.of_subset (List.subset_append_right _ _))]

theorem renderToken_move {source source' : String} {n : Nat} :
    ∀ (t : Token) (views : List (Value κ)),
      Token.SourcesMoved source source' n (Token.inOrder t) →
        renderToken compute escape partials sub (some source') views (Token.move n t) =
          renderToken compute escape partials sub (some source) views t
  | .leaf _ _, _, _ => rfl
  | .block name inverted span closeStart children, views, h => by
    have hchildren : ∀ views, renderTokens compute escape partials sub (some source') views
        (Token.moveAll n children) =
          renderTokens compute escape partials sub (some source) views children :=
      fun views => renderTokens_moveAll children views (h.of_subset (List.subset_cons_self _ _))
    have hsource : Template.sectionSource source' (span.move n) (closeStart + n) =
        Template.sectionSource source span closeStart :=
      h _ List.mem_cons_self closeStart rfl
    have hblock := renderBlock_move (κ := κ) (sub views) hsource
    rw [Token.move, renderToken, renderToken]
    simp only [hchildren, hblock]

end

theorem renderTokens_cons (source : Option String) (views : List (Value κ)) (t : Token)
    (ts : List Token) :
    renderTokens compute escape partials sub source views (t :: ts) =
      (renderToken compute escape partials sub source views t).followedBy
        (renderTokens compute escape partials sub source views ts) := by
  rw [renderTokens]

theorem renderTokens_joinTo (source : Option String) (views : List (Value κ)) (t : Token)
    (us : List Token) :
    renderTokens compute escape partials sub source views (Token.joinTo t us) =
      renderTokens compute escape partials sub source views (t :: us) := by
  unfold Token.joinTo
  split
  · simp only [renderTokens, renderToken, renderLeaf, ← Rendered.followedBy_assoc]
    rfl
  · rfl

theorem renderTokens_join (source : Option String) (views : List (Value κ)) (ts us : List Token) :
    renderTokens compute escape partials sub source views (Token.join ts us) =
      (renderTokens compute escape partials sub source views ts).followedBy
        (renderTokens compute escape partials sub source views us) := by
  induction ts with
  | nil => rw [Token.join, renderTokens, Rendered.empty_followedBy]
  | cons t ts ih =>
    cases ts with
    | nil =>
      rw [Token.join, renderTokens_joinTo, renderTokens, renderTokens, renderTokens,
        Rendered.followedBy_empty]
    | cons t' ts =>
      rw [Token.join, renderTokens_cons, ih, renderTokens_cons _ _ _ _ _ _ t,
        Rendered.followedBy_assoc]

/-- Two sources joined at a line end render to one after the other. -/
theorem renderSource_append (r : Renderer) (compute : Compute κ) (partials : Partials)
    {a b : String} {ta tb : Template} (hd : r.delimiters.Blankless)
    (ha : Template.compile a r.delimiters = .ok ta) (hend : Template.EndsLine r.delimiters a)
    (hb : Template.compile b r.delimiters = .ok tb) (depth : Nat) (views : List (Value κ)) :
    renderSource r compute partials depth views (a ++ b) =
      (renderSource r compute partials depth views a).followedBy
        (renderSource r compute partials depth views b) := by
  cases depth with
  | zero => rfl
  | succ depth =>
    have hcompile := Template.compile_append ha hend hd b
    obtain ⟨stop, harranged⟩ := Template.exists_arranged_of_compile ha
    obtain ⟨hsource, _⟩ := Template.compile_eq_ok_iff.mp ha
    obtain ⟨hsource', _⟩ := Template.compile_eq_ok_iff.mp hb
    have hmoved : Token.SourcesMoved a (a ++ b) 0 (Token.inOrderAll ta.tokens) := by
      intro x hx c hc
      obtain ⟨body, hbody⟩ := (harranged.encloses x hx c hc).2.2.holds
      have hlonger := hbody.append_right b.toList
      have hslice : sliceBytes x.span.stop c a.toList = some body := hbody.sliceBytes_eq
      have hslice' : sliceBytes x.span.stop c (a.toList ++ b.toList) = some body :=
        hlonger.sliceBytes_eq
      change Template.sectionSource (a ++ b) x.span c = _
      rw [Template.sectionSource, Template.sectionSource, String.toList_append, hslice, hslice']
    have hmoved' : Token.SourcesMoved b (a ++ b) (byteLength a.toList)
        (Token.inOrderAll tb.tokens) := by
      intro x hx c hc
      have hslice := sliceBytes_add a.toList b.toList x.span.stop c
      rw [Nat.add_comm _ x.span.stop, Nat.add_comm _ c] at hslice
      rw [Template.sectionSource, Template.sectionSource, String.toList_append]
      exact congrArg (Option.map String.ofList) hslice
    rw [hb] at hcompile
    rw [renderSource, renderSource, renderSource, ha, hb, hcompile]
    simp only [Template.mapError_ok, Except.map, Except.bind]
    rw [renderTokens_join, renderTokens_moveAll _ _ _ _ _ _ hmoved', hsource, hsource']
    have hfirst := renderTokens_moveAll compute r.escape partials
      (renderSource r compute partials depth) ta.tokens views hmoved
    rw [Token.moveAll_zero] at hfirst
    rw [hfirst]

end Plain

namespace Template

/-- After a source that ends a line any source compiles as it does alone, moved, and fails as it
does alone. Only a text that ends the first and a text that begins the second become one, and the
two render to one text after the other, or to the first error of the two. -/
theorem append_of_endsLine {d : Delimiters} (hd : d.Blankless) {a : String} {ta : Template}
    (ha : compile a d = .ok ta) (hend : EndsLine d a) (b : String) :
    (compile (a ++ b) d = match compile b d with
      | .error e => .error (e.move (byteLength a.toList))
      | .ok tb =>
        .ok ⟨a ++ b, d, Token.join ta.tokens (Token.moveAll (byteLength a.toList) tb.tokens)⟩) ∧
    ∀ tb, compile b d = .ok tb → ∀ r : Renderer, r.delimiters = d →
      ∀ {κ : Type} (compute : Compute κ) (partials : Partials) (view : Value κ) {c c' c'' : Cache},
        c.Faithful d → c'.Faithful d → c''.Faithful d →
          (r.render compute partials (a ++ b) view c).1 =
            Rendered.followedBy (r.render compute partials a view c').1
              (r.render compute partials b view c'').1 := by
  constructor
  · rw [compile_append ha hend hd b]
    cases compile b d <;> rfl
  · intro tb hb r hr κ compute partials view c c' c'' hc hc' hc''
    subst hr
    rw [Renderer.render_eq_plain r compute partials _ view hc,
      Renderer.render_eq_plain r compute partials _ view hc',
      Renderer.render_eq_plain r compute partials _ view hc'']
    exact Plain.renderSource_append r compute partials hd ha hend hb r.depth [view]

/-- Other delimiters in between, and a last line that stands alone. -/
theorem append_of_endsLine_of_set_delimiters :
    ∃ ta tb, compile "é\x7b\x7b=| |=\x7d\x7d|y|\n |=\x7b\x7b \x7d\x7d=| \n" .braces = .ok ta ∧
      compile "b\x7b\x7b^x\x7d\x7dß\x7b\x7b/x\x7d\x7d" .braces = .ok tb ∧
      (compile ("é\x7b\x7b=| |=\x7d\x7d|y|\n |=\x7b\x7b \x7d\x7d=| \n" ++
        "b\x7b\x7b^x\x7d\x7dß\x7b\x7b/x\x7d\x7d") .braces).map tokens =
          .ok (Token.join ta.tokens (Token.moveAll 27 tb.tokens)) ∧
      ∀ view : Value Empty,
        (({} : Renderer).render (fun k _ => k.elim) Renderer.noPartials
          ("é\x7b\x7b=| |=\x7d\x7d|y|\n |=\x7b\x7b \x7d\x7d=| \n" ++
            "b\x7b\x7b^x\x7d\x7dß\x7b\x7b/x\x7d\x7d") view Cache.empty).1 =
        Rendered.followedBy
          (({} : Renderer).render (fun k _ => k.elim) Renderer.noPartials
            "é\x7b\x7b=| |=\x7d\x7d|y|\n |=\x7b\x7b \x7d\x7d=| \n" view Cache.empty).1
          (({} : Renderer).render (fun k _ => k.elim) Renderer.noPartials
            "b\x7b\x7b^x\x7d\x7dß\x7b\x7b/x\x7d\x7d" view Cache.empty).1 := by
  obtain ⟨ta, ha⟩ :
      ∃ ta, compile "é\x7b\x7b=| |=\x7d\x7d|y|\n |=\x7b\x7b \x7d\x7d=| \n" .braces = .ok ta := by
    rw [compile_of_proper Delimiters.proper_braces, flatTokens_eq]
    exact ⟨_, rfl⟩
  obtain ⟨tb, hb⟩ : ∃ tb, compile "b\x7b\x7b^x\x7d\x7dß\x7b\x7b/x\x7d\x7d" .braces = .ok tb := by
    rw [compile_of_proper Delimiters.proper_braces, flatTokens_eq]
    exact ⟨_, rfl⟩
  have hend : EndsLine .braces "é\x7b\x7b=| |=\x7d\x7d|y|\n |=\x7b\x7b \x7d\x7d=| \n" :=
    ⟨⟨_, rfl⟩, rfl⟩
  obtain ⟨hcompile, hrender⟩ := append_of_endsLine (by decide) ha hend
    "b\x7b\x7b^x\x7d\x7dß\x7b\x7b/x\x7d\x7d"
  rw [hb] at hcompile
  refine ⟨ta, tb, ha, hb, by rw [hcompile]; rfl, fun view => ?_⟩
  exact hrender tb hb {} rfl _ _ view (Cache.faithful_empty _) (Cache.faithful_empty _)
    (Cache.faithful_empty _)

end Template

end PostalAddress
