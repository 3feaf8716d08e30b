import PostalAddress.Address.Formatter
import PostalAddress.Proofs.Template.Lambdaless
import PostalAddress.Proofs.Template.Section
import PostalAddress.Proofs.Template.Simulation

/-!
# Layouts that cannot fail

A layout is steady when it compiles with double braces and no tag of it sets other delimiters. What
stands between the tags of one of its sections is steady too, and shorter, so the selector can have
it rendered. Values are never compiled: a steady layout renders whatever the fields hold, as long as
the only lambda in the views is the selector's.
-/

namespace PostalAddress

open Renderer

/-- The pieces and the tokens of a layout that compiles and sets no delimiters. -/
structure Steady (layout : List Char) (ps : List Piece) (us : List Token) : Prop where
  read : ∃ d p, Reads .braces ⟨layout, 0⟩ ps d ⟨[], p⟩
  still : ∀ p ∈ ps, p.setsDelimiters = false
  nested : Nested (Piece.flat ps) us

namespace Steady

variable {layout : List Char} {ps : List Piece} {us : List Token}

theorem compile (h : Steady layout ps us) :
    Template.compile (String.ofList layout) .braces =
      .ok ⟨String.ofList layout, .braces, us⟩ := by
  obtain ⟨d, p, hread⟩ := h.read
  refine Template.compile_eq_ok_iff.mpr ⟨rfl, rfl, fun _ => by decide, ps, d, p, ?_, h.nested⟩
  rwa [String.toList_ofList]

theorem exists_of_compile {source : String} {t : Template}
    (h : Template.compile source .braces = .ok t)
    (hstill : ∀ p ∈ (Pieces.read .braces 0 0 source.toList).list, p.setsDelimiters = false) :
    ∃ ps us, Steady source.toList ps us := by
  obtain ⟨_, _, _, ps, d, p, hread, hnest⟩ := Template.compile_eq_ok_iff.mp h
  rw [Pieces.read_eq_iff.mpr ⟨d, p, hread⟩] at hstill
  exact ⟨ps, t.tokens, ⟨d, p, hread⟩, hstill, hnest⟩

/-- The body of a section of a steady layout is steady and shorter. -/
theorem exists_body (h : Steady layout ps us) {x : Section}
    (hx : x ∈ Token.sectionsIn .braces us) :
    ∃ body qs vs, Text.sliceBytes x.span.stop x.closeStart layout = some body ∧
      body.length < layout.length ∧ Steady body qs vs := by
  obtain ⟨d, p, hread⟩ := h.read
  obtain ⟨body, before, qs, after, close, d', hslice, hlen, rfl, _, hbody, ⟨s, hbefore⟩,
    hchildren⟩ := hread.exists_body h.nested hx
  have hstill := h.still
  have hdelims : x.delimiters = .braces := by
    rw [hbefore.delimiters_eq]
    exact Piece.foldl_delimitersAfter (fun p hp => hstill p (List.mem_append_left _ hp)) _
  rw [hdelims] at hbody
  obtain ⟨vs, hvs⟩ := Nested.of_core_move hchildren
  refine ⟨body, qs, vs, hslice, hlen, ⟨d', _, hbody⟩, ?_, hvs⟩
  intro q hq
  have hmem : q.move x.span.stop ∈ qs.map (Piece.move x.span.stop) := List.mem_map_of_mem hq
  rw [← Piece.setsDelimiters_move x.span.stop]
  exact hstill _ (List.mem_append_right _ (List.mem_cons_of_mem _ (List.mem_append_left _ hmem)))

end Steady

/-- What a selector can be given to have rendered, at any depth. -/
inductive Selectable (layout : String) : String → Prop
  | whole : Selectable layout layout
  | body {source s : String} {t : Template} {x : Section} (outer : Selectable layout source)
      (compiled : Template.compile source .braces = .ok t) (mem : x ∈ t.sections)
      (slice : Template.sectionSource source x.span x.closeStart = some s) : Selectable layout s

theorem Steady.of_selectable {layout s : String} {ps : List Piece} {us : List Token}
    (h : Steady layout.toList ps us) (hs : Selectable layout s) :
    ∃ qs vs, Steady s.toList qs vs := by
  induction hs with
  | whole => exact ⟨ps, us, h⟩
  | @body source s t x outer compiled mem slice ih =>
    obtain ⟨qs, vs, hsource⟩ := ih
    have hcompile := hsource.compile
    rw [String.ofList_toList, compiled] at hcompile
    obtain rfl := Except.ok.inj hcompile
    obtain ⟨body, qs', vs', hslice, _, hbody⟩ := hsource.exists_body mem
    rw [Template.sectionSource, hslice] at slice
    obtain rfl := Option.some.inj slice
    exact ⟨qs', vs', by rwa [String.toList_ofList]⟩

/-- From any context without lambdas, and with no cache, a text comes out, and such a context. -/
def Succeeds {α : Type} (m : RenderM Cache Selector α) (post : α → Prop) : Prop :=
  ∀ x, x.Lambdaless → ∃ a y, m ⟨.off, x⟩ = (.ok a, ⟨.off, y⟩) ∧ y.Lambdaless ∧ post a

namespace Succeeds

variable {α β : Type} {post : α → Prop} {post' : β → Prop}

theorem pure {a : α} (h : post a) : Succeeds (pure a) post :=
  fun x hx => ⟨a, x, rfl, hx, h⟩

theorem bind {m : RenderM Cache Selector α} {next : α → RenderM Cache Selector β}
    (h : Succeeds m post) (hnext : ∀ a, post a → Succeeds (next a) post') :
    Succeeds (m >>= next) post' := by
  intro x hx
  obtain ⟨a, y, hm, hy, ha⟩ := h x hx
  obtain ⟨b, z, hn, hz, hb⟩ := hnext a ha y hy
  exact ⟨b, z, (bind_of_ok hm).trans hn, hz, hb⟩

/-- What is done for its text alone. -/
abbrev Text (m : RenderM Cache Selector String) : Prop := Succeeds m fun _ => True

theorem lookup (name : String) :
    Succeeds (lookup Selector.compute name)
      fun o => ∀ v, o = some v → v = .lambda Alternatives.choose ∨ v.Lambdaless := by
  intro x hx
  obtain ⟨hy, hv⟩ := hx.lookup Selector.compute name
  refine ⟨_, _, lookup_run _ _ _, hy, fun v hsome => ?_⟩
  obtain ⟨k, rfl⟩ | hless := hv v hsome
  · exact .inl rfl
  · exact .inr hless

theorem withView {m : RenderM Cache Selector String} (h : Text m) {v : Value Selector}
    (hv : v.Lambdaless) : Text (withView v m) := by
  intro x hx
  obtain ⟨text, y, hm, hy, _⟩ := h (x.push v) (hx.push hv)
  exact ⟨text, y.pop, withView_run hm, hy.pop, trivial⟩

theorem append {m m' : RenderM Cache Selector String} (h : Text m) (h' : Text m') :
    Text (do let text ← m; return text ++ (← m')) :=
  h.bind fun _ _ => h'.bind fun _ _ => .pure trivial

theorem renderVar (escape : String → String) (name : String) (escaped : Bool) :
    Text (renderVar Selector.compute escape name escaped) := by
  refine (lookup name).bind fun v _ => ?_
  cases v with
  | none => exact .pure trivial
  | some v => cases v <;> exact .pure trivial

variable {sub : String → RenderM Cache Selector String} {children : RenderM Cache Selector String}

theorem runLambda {body : String} (h : Text (sub body)) :
    Text (runLambda sub (Alternatives.choose body)) := by
  intro x hx
  obtain ⟨text, y, hm, hy, _⟩ := h x hx
  exact ⟨_, y, bind_of_ok (observing_run hm), hy, trivial⟩

theorem renderItems (h : Text children) {items : List (Value Selector)}
    (hitems : ∀ v ∈ items, v.Lambdaless) : Text (renderItems children items) := by
  induction items with
  | nil => exact .pure trivial
  | cons v vs ih =>
    obtain ⟨hv, hvs⟩ := List.forall_mem_cons.mp hitems
    exact (h.withView hv).append (ih hvs)

theorem renderBlock (hchildren : Text children) {source body : String} {span : Span}
    {closeStart : Nat} (hbody : Template.sectionSource source span closeStart = some body)
    (hsub : Text (sub body)) {v : Value Selector}
    (hv : v = .lambda Alternatives.choose ∨ v.Lambdaless) :
    Text (renderBlock sub (some source) children span closeStart v) := by
  obtain rfl | hv := hv
  · rw [Renderer.renderBlock, Option.bind_some, hbody]
    exact runLambda hsub
  · cases hv with
    | list h => exact renderItems hchildren h
    | map h => exact hchildren.withView (.map h)
    | string s => exact hchildren.withView (.string s)
    | number x => exact hchildren.withView (.number x)
    | bool b => exact hchildren
    | null => exact hchildren
    | computed k => exact hchildren

mutual

theorem renderTokens {escape : String → String} {source : String} (d : Delimiters) :
    ∀ us : List Token, (∀ x ∈ Token.sectionsIn d us, ∃ body,
        Template.sectionSource source x.span x.closeStart = some body ∧ Text (sub body)) →
      Text (renderTokens Selector.compute escape noPartials sub (some source) us)
  | [], _ => .pure trivial
  | u :: us, h => by
    rw [Renderer.renderTokens]
    rw [Token.sectionsIn] at h
    exact (renderToken d u fun x hx => h x (List.mem_append_left _ hx)).append
      (renderTokens (u.delimitersAfter d) us fun x hx => h x (List.mem_append_right _ hx))

theorem renderToken {escape : String → String} {source : String} (d : Delimiters) :
    ∀ u : Token, (∀ x ∈ Token.sections d u, ∃ body,
        Template.sectionSource source x.span x.closeStart = some body ∧ Text (sub body)) →
      Text (renderToken Selector.compute escape noPartials sub (some source) u)
  | .leaf l span, _ => by
    rw [Renderer.renderToken]
    cases l with
    | var name escaped => exact renderVar escape name escaped
    | _ => exact .pure trivial
  | .block name inverted span closeStart children, h => by
    rw [Token.sections] at h
    obtain ⟨body, hbody, hsub⟩ := h _ List.mem_cons_self
    have hchildren : Text (Renderer.renderTokens Selector.compute escape noPartials sub
        (some source) children) :=
      renderTokens d children fun x hx => h x (List.mem_cons_of_mem _ hx)
    rw [Renderer.renderToken]
    refine (lookup name).bind fun v hv => ?_
    cases inverted with
    | true =>
      simp only [if_true]
      split
      · exact .pure trivial
      · exact hchildren
    | false =>
      cases v with
      | none => exact .pure trivial
      | some v =>
        simp only [Bool.false_eq_true, if_false]
        split
        · exact renderBlock hchildren hbody hsub (hv v rfl)
        · exact .pure trivial

end

theorem compileM {source : String} {d : Delimiters} {t : Template}
    (h : Template.compile source d = .ok t) :
    Succeeds (compileM d source) fun t' => t' = t := by
  intro x hx
  have hmiss : TemplateCache.compile Cache.off source d = (.ok t, Cache.off) :=
    TemplateCache.compile_miss rfl h
  refine ⟨t, x, ?_, hx, rfl⟩
  rw [compileM_run, hmiss]

end Succeeds

/-- A steady layout renders, with as many layouts inside each other as it has characters. -/
theorem Steady.succeeds {layout : List Char} {ps : List Piece} {us : List Token}
    (h : Steady layout ps us) {r : Renderer} (hr : r.delimiters = .braces) {depth : Nat}
    (hdepth : layout.length < depth) :
    Succeeds.Text (r.renderSource Selector.compute noPartials depth (String.ofList layout)) := by
  induction depth generalizing layout ps us with
  | zero => omega
  | succ depth ih =>
    rw [renderSource, hr]
    refine (Succeeds.compileM h.compile).bind fun t ht => ?_
    subst ht
    refine Succeeds.renderTokens .braces us fun x hx => ?_
    obtain ⟨body, qs, vs, hslice, hlen, hsteady⟩ := h.exists_body hx
    refine ⟨String.ofList body, ?_, ih hsteady (by omega)⟩
    rw [Template.sectionSource, String.toList_ofList, hslice]
    rfl

end PostalAddress
