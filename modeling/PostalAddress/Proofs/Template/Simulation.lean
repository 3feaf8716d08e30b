import PostalAddress.Proofs.Template.Caching
import PostalAddress.Proofs.Template.Running
import PostalAddress.Template.Session

/-!
# Rendering with related caches

Two kinds of caches are alike under a relation when compiling through related caches gives the same
and leaves related caches. Rendering then gives the same too, and leaves the same context: a step
at a time for the operations, by recursion for tokens, and by induction on the depth for sources.
-/

namespace PostalAddress

variable {σ σ' κ α β : Type}

structure Alike [TemplateCache σ] [TemplateCache σ'] (R : σ → σ' → Prop) : Prop where
  compile : ∀ {c c'} source {d : Delimiters}, R c c' → d.Colonless →
    (TemplateCache.compile c source d).1 = (TemplateCache.compile c' source d).1 ∧
      R (TemplateCache.compile c source d).2 (TemplateCache.compile c' source d).2
  clear : ∀ {c c'}, R c c' → R (TemplateCache.clear c) (TemplateCache.clear c')

namespace Renderer

/-- From related caches and one context both come to the same result and context, and to related
caches. -/
def Sim (R : σ → σ' → Prop) (m : RenderM σ κ α) (m' : RenderM σ' κ α) : Prop :=
  ∀ c c' x, R c c' → ∃ result y d d',
    m ⟨c, x⟩ = (result, ⟨d, y⟩) ∧ m' ⟨c', x⟩ = (result, ⟨d', y⟩) ∧ R d d'

variable {R : σ → σ' → Prop}

theorem Sim.pure (a : α) : Sim (κ := κ) R (pure a) (pure a) :=
  fun c c' x h => ⟨.ok a, x, c, c', rfl, rfl, h⟩

theorem Sim.throw (e : TemplateError) : Sim (κ := κ) (α := α) R (throw e) (throw e) :=
  fun c c' x h => ⟨.error e, x, c, c', rfl, rfl, h⟩

theorem Sim.bind {m : RenderM σ κ α} {m' : RenderM σ' κ α} {next : α → RenderM σ κ β}
    {next' : α → RenderM σ' κ β} (h : Sim R m m') (hnext : ∀ a, Sim R (next a) (next' a)) :
    Sim R (m >>= next) (m' >>= next') := by
  intro c c' x hc
  obtain ⟨result, y, d, d', hm, hm', hd⟩ := h c c' x hc
  cases result with
  | ok a =>
    obtain ⟨result, z, e, e', hn, hn', he⟩ := hnext a d d' y hd
    exact ⟨result, z, e, e', (bind_of_ok hm).trans hn, (bind_of_ok hm').trans hn', he⟩
  | error err =>
    exact ⟨.error err, y, d, d', bind_of_error hm, bind_of_error hm', hd⟩

theorem sim_lookup (compute : Compute κ) (name : String) :
    Sim R (lookup compute name) (lookup compute name) :=
  fun c c' _ h => ⟨_, _, c, c', lookup_run compute name _, lookup_run compute name _, h⟩

theorem Sim.withView {m : RenderM σ κ String} {m' : RenderM σ' κ String} (h : Sim R m m')
    (v : Value κ) : Sim R (withView v m) (withView v m') := by
  intro c c' x hc
  obtain ⟨result, y, d, d', hm, hm', hd⟩ := h c c' (x.push v) hc
  exact ⟨result, y.pop, d, d', withView_run hm, withView_run hm', hd⟩

theorem Sim.observing {m : RenderM σ κ String} {m' : RenderM σ' κ String} (h : Sim R m m') :
    Sim R (runLambda.observing m) (runLambda.observing m') := by
  intro c c' x hc
  obtain ⟨result, y, d, d', hm, hm', hd⟩ := h c c' x hc
  exact ⟨.ok result, y, d, d', observing_run hm, observing_run hm', hd⟩

theorem sim_renderVar (compute : Compute κ) (escape : String → String) (name : String)
    (escaped : Bool) :
    Sim R (renderVar compute escape name escaped) (renderVar compute escape name escaped) := by
  refine (sim_lookup compute name).bind fun v => ?_
  cases v with
  | none => exact .pure ""
  | some v => cases v <;> exact .pure _

section Parts

variable {sub : String → RenderM σ κ String} {sub' : String → RenderM σ' κ String}
  {children : RenderM σ κ String} {children' : RenderM σ' κ String}

theorem sim_runLambda (hsub : ∀ text, Sim R (sub text) (sub' text)) (step : LambdaStep) :
    Sim R (runLambda sub step) (runLambda sub' step) := by
  induction step with
  | answer result =>
    cases result with
    | ok text => exact .pure text
    | error e => exact .throw e
  | render text next ih => exact (hsub text).observing.bind ih

theorem sim_renderItems (hchildren : Sim R children children') (items : List (Value κ)) :
    Sim R (renderItems children items) (renderItems children' items) := by
  induction items with
  | nil => exact .pure ""
  | cons v vs ih => exact (hchildren.withView v).bind fun text => ih.bind fun rest => .pure _

theorem sim_renderBlock (hsub : ∀ text, Sim R (sub text) (sub' text))
    (hchildren : Sim R children children') (source : Option String) (span : Span)
    (closeStart : Nat) (v : Value κ) :
    Sim R (renderBlock sub source children span closeStart v)
      (renderBlock sub' source children' span closeStart v) := by
  cases v with
  | list items => exact sim_renderItems hchildren items
  | lambda call =>
    rw [renderBlock, renderBlock]
    cases source.bind fun s => Template.sectionSource s span closeStart with
    | none => exact .throw _
    | some body => exact sim_runLambda hsub (call body)
  | map es => exact hchildren.withView _
  | string s => exact hchildren.withView _
  | number x => exact hchildren.withView _
  | bool b => exact hchildren
  | null => exact hchildren
  | computed k => exact hchildren

theorem sim_renderLeaf (hsub : ∀ text, Sim R (sub text) (sub' text)) (compute : Compute κ)
    (escape : String → String) (partials : Partials) (l : Leaf) :
    Sim R (renderLeaf compute escape partials sub l)
      (renderLeaf compute escape partials sub' l) := by
  cases l with
  | text s => exact .pure s
  | var name escaped => exact sim_renderVar compute escape name escaped
  | inclusion name placement =>
    rw [renderLeaf, renderLeaf]
    cases partials name with
    | none => exact .pure ""
    | some text => exact hsub _
  | delimiters d => exact .pure ""
  | comment => exact .pure ""

variable (compute : Compute κ) (escape : String → String) (partials : Partials)
  (source : Option String)

mutual

theorem sim_renderTokens (hsub : ∀ text, Sim R (sub text) (sub' text)) : ∀ ts : List Token,
    Sim R (renderTokens compute escape partials sub source ts)
      (renderTokens compute escape partials sub' source ts)
  | [] => .pure ""
  | t :: ts => by
    rw [renderTokens, renderTokens]
    exact (sim_renderToken hsub t).bind fun text =>
      (sim_renderTokens hsub ts).bind fun rest => .pure _

theorem sim_renderToken (hsub : ∀ text, Sim R (sub text) (sub' text)) : ∀ t : Token,
    Sim R (renderToken compute escape partials sub source t)
      (renderToken compute escape partials sub' source t)
  | .leaf l span => by
    rw [renderToken, renderToken]
    exact sim_renderLeaf hsub compute escape partials l
  | .block name inverted span closeStart children => by
    rw [renderToken, renderToken]
    refine (sim_lookup compute name).bind fun v => ?_
    have hchildren := sim_renderTokens hsub children
    cases inverted with
    | true =>
      simp only [if_true]
      split
      · exact .pure ""
      · exact hchildren
    | false =>
      cases v with
      | none => exact .pure ""
      | some v =>
        simp only [Bool.false_eq_true, if_false]
        split
        · exact sim_renderBlock hsub hchildren source span closeStart v
        · exact .pure ""

end

end Parts

section Sources

variable [TemplateCache σ] [TemplateCache σ']

theorem sim_compileM {d : Delimiters} {source : String} (h : ∀ c c', R c c' →
      (TemplateCache.compile c source d).1 = (TemplateCache.compile c' source d).1 ∧
        R (TemplateCache.compile c source d).2 (TemplateCache.compile c' source d).2) :
    Sim (κ := κ) R (compileM d source) (compileM d source) := by
  intro c c' x hc
  obtain ⟨hresult, hcaches⟩ := h c c' hc
  refine ⟨_, x, _, _, compileM_run d source _, ?_, hcaches⟩
  rw [compileM_run]
  dsimp only
  rw [hresult]

theorem sim_renderSource (hR : Alike R) {r : Renderer} (hr : r.delimiters.Colonless)
    (compute : Compute κ) (partials : Partials) (depth : Nat) (source : String) :
    Sim R (r.renderSource compute partials depth source)
      (r.renderSource compute partials depth source) := by
  induction depth generalizing source with
  | zero => exact .throw _
  | succ depth ih =>
    rw [renderSource, renderSource]
    refine (sim_compileM fun _ _ hc => hR.compile source hc hr).bind fun t => ?_
    exact sim_renderTokens compute r.escape partials (some t.source) ih t.tokens

theorem sim_renderIn (hR : Alike R) {r : Renderer} (hr : r.delimiters.Colonless)
    (compute : Compute κ) (partials : Partials) (source : String) :
    Sim R (r.renderIn compute partials source) (r.renderIn compute partials source) :=
  sim_renderSource hR hr compute partials r.depth source

theorem exists_render (hR : Alike R) {r : Renderer} (hr : r.delimiters.Colonless)
    (compute : Compute κ) (partials : Partials) (source : String) (view : Value κ) {c : σ} {c' : σ'}
    (hc : R c c') : ∃ result d d', r.render compute partials source view c = (result, d) ∧
      r.render compute partials source view c' = (result, d') ∧ R d d' := by
  obtain ⟨result, y, d, d', hm, hm', hd⟩ :=
    sim_renderIn hR hr compute partials source c c' (.ofView view) hc
  exact ⟨result, d, d', by rw [render, hm], by rw [render, hm'], hd⟩

end Sources

end Renderer

end PostalAddress
