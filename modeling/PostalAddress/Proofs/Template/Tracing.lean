import PostalAddress.Proofs.Template.Simulation

/-!
# Renderings that leave a trace

A rendering that leaves a trace notes every section whose value is a lambda, with the template it
stands in and the text that the lambda is called with, in the template itself, in partials and in
the texts of other lambdas alike. Where the trace is kept makes no difference: without it the
rendering is the same.
-/

namespace PostalAddress

variable {σ κ : Type}

/-- A section whose value is a lambda, and what the lambda is called with, if it is. -/
structure LambdaSection where
  template : Template
  name : String
  span : Span
  closeStart : Nat
  call : String → LambdaStep
  argument : Option String

/-- A cache, and the lambda sections that were found, the latest first. -/
structure Traced (σ : Type) where
  cache : σ
  found : List LambdaSection

namespace Traced

instance [TemplateCache σ] : TemplateCache (Traced σ) where
  get? c key := TemplateCache.get? c.cache key
  insert key t c := { c with cache := TemplateCache.insert key t c.cache }
  clear c := { c with cache := TemplateCache.clear c.cache }

def note (x : LambdaSection) (c : Traced σ) : Traced σ := { c with found := x :: c.found }

theorem compile_eq [TemplateCache σ] (c : Traced σ) (source : String) (d : Delimiters) :
    TemplateCache.compile c source d = ((TemplateCache.compile c.cache source d).1,
      { c with cache := (TemplateCache.compile c.cache source d).2 }) := by
  have hget : TemplateCache.get? c (d.cacheKey source) =
      TemplateCache.get? c.cache (d.cacheKey source) := rfl
  cases hkept : TemplateCache.get? c.cache (d.cacheKey source) with
  | some t => rw [TemplateCache.compile_hit hkept, TemplateCache.compile_hit (hget.trans hkept)]
  | none =>
    cases ht : Template.compile source d with
    | ok t =>
      rw [TemplateCache.compile_miss hkept ht, TemplateCache.compile_miss (hget.trans hkept) ht]
      rfl
    | error e =>
      rw [TemplateCache.compile_fault hkept ht, TemplateCache.compile_fault (hget.trans hkept) ht]

end Traced

namespace Renderer

/-- As `renderBlock`, but a lambda is noted before it is called. -/
def traceBlock (sub : String → RenderM (Traced σ) κ String) (t : Template)
    (children : RenderM (Traced σ) κ String) (name : String) (span : Span) (closeStart : Nat) :
    Value κ → RenderM (Traced σ) κ String
  | .lambda call => do
    let argument := Template.sectionSource t.source span closeStart
    let x := ⟨t, name, span, closeStart, call, argument⟩
    modify fun s => { s with cache := s.cache.note x }
    match argument with
    | none => throw .missingSource
    | some body => runLambda sub (call body)
  | v => renderBlock sub (some t.source) children span closeStart v

section Tokens

variable (compute : Compute κ) (escape : String → String) (partials : Partials)
  (sub : String → RenderM (Traced σ) κ String) (t : Template)

mutual

def traceTokens : List Token → RenderM (Traced σ) κ String
  | [] => pure ""
  | u :: us => do
    let text ← traceToken u
    return text ++ (← traceTokens us)

/-- As `renderToken`, for the tokens of the template `t`. -/
def traceToken : Token → RenderM (Traced σ) κ String
  | .leaf l _ => renderLeaf compute escape partials sub l
  | .block name inverted span closeStart children => do
    let v ← lookup compute name
    let shown := v.any Value.isTruthy
    if inverted then
      if shown then return "" else traceTokens children
    else
      match v with
      | some v =>
        if shown then traceBlock sub t (traceTokens children) name span closeStart v
        else return ""
      | none => return ""

end

end Tokens

section Sources

variable [TemplateCache σ]

def traceSource (r : Renderer) (compute : Compute κ) (partials : Partials) :
    (depth : Nat) → String → RenderM (Traced σ) κ String
  | 0, _ => throw .nestedTooDeeply
  | depth + 1, source => do
    let t ← compileM r.delimiters source
    traceTokens compute r.escape partials (traceSource r compute partials depth) t t.tokens

/-- Renders a source against a context and notes the lambda sections it comes to. -/
def traceIn (r : Renderer) (compute : Compute κ) (partials : Partials) (source : String)
    (s : RenderState (Traced σ) κ) : Except TemplateError String × RenderState (Traced σ) κ :=
  r.traceSource compute partials r.depth source s

end Sources

section Erasing

/-- The cache that is left where the trace is taken away. -/
def Erases (c : σ) (c' : Traced σ) : Prop := c'.cache = c

variable {sub : String → RenderM σ κ String} {sub' : String → RenderM (Traced σ) κ String}

theorem Sim.note {m : RenderM σ κ String} {m' : RenderM (Traced σ) κ String}
    (h : Sim Erases m m') (x : LambdaSection) :
    Sim Erases m (do modify fun s => { s with cache := s.cache.note x }; m') := by
  intro c c' y hc
  obtain ⟨result, z, d, d', hm, hm', hd⟩ := h c (c'.note x) y hc
  exact ⟨result, z, d, d', hm, (bind_of_ok (modify_run _ _)).trans hm', hd⟩

theorem sim_traceBlock (hsub : ∀ text, Sim Erases (sub text) (sub' text)) (t : Template)
    {children : RenderM σ κ String} {children' : RenderM (Traced σ) κ String}
    (hchildren : Sim Erases children children') (name : String) (span : Span) (closeStart : Nat)
    (v : Value κ) :
    Sim Erases (renderBlock sub (some t.source) children span closeStart v)
      (traceBlock sub' t children' name span closeStart v) := by
  have hblock := sim_renderBlock hsub hchildren (some t.source) span closeStart v
  cases v with
  | lambda call =>
    rw [renderBlock, Option.bind_some, traceBlock]
    cases Template.sectionSource t.source span closeStart with
    | none => exact (Sim.throw _).note _
    | some body => exact (sim_runLambda hsub (call body)).note _
  | _ => exact hblock

variable (compute : Compute κ) (escape : String → String) (partials : Partials) (t : Template)

mutual

theorem sim_traceTokens (hsub : ∀ text, Sim Erases (sub text) (sub' text)) : ∀ us : List Token,
    Sim Erases (renderTokens compute escape partials sub (some t.source) us)
      (traceTokens compute escape partials sub' t us)
  | [] => .pure ""
  | u :: us => by
    rw [renderTokens, traceTokens]
    exact (sim_traceToken hsub u).bind fun text =>
      (sim_traceTokens hsub us).bind fun rest => .pure _

theorem sim_traceToken (hsub : ∀ text, Sim Erases (sub text) (sub' text)) : ∀ u : Token,
    Sim Erases (renderToken compute escape partials sub (some t.source) u)
      (traceToken compute escape partials sub' t u)
  | .leaf l span => by
    rw [renderToken, traceToken]
    exact sim_renderLeaf hsub compute escape partials l
  | .block name inverted span closeStart children => by
    rw [renderToken, traceToken]
    refine (sim_lookup compute name).bind fun v => ?_
    have hchildren := sim_traceTokens hsub children
    cases inverted with
    | true =>
      simp only [if_true]
      split
      · exact .pure ""
      · exact hchildren
    | false =>
      cases v with
      | none => exact .pure ""
      | some v =>
        simp only [Bool.false_eq_true, if_false]
        split
        · exact sim_traceBlock hsub t hchildren name span closeStart v
        · exact .pure ""

end

/-- Without its trace a rendering is the same. -/
theorem sim_traceSource [TemplateCache σ] (r : Renderer) (compute : Compute κ) (partials : Partials)
    (depth : Nat) (source : String) :
    Sim (Erases (σ := σ)) (r.renderSource compute partials depth source)
      (r.traceSource compute partials depth source) := by
  induction depth generalizing source with
  | zero => exact .throw _
  | succ depth ih =>
    have hcompile : ∀ (c : σ) (c' : Traced σ), Erases c c' →
        (TemplateCache.compile c source r.delimiters).1 =
            (TemplateCache.compile c' source r.delimiters).1 ∧
          Erases (TemplateCache.compile c source r.delimiters).2
            (TemplateCache.compile c' source r.delimiters).2 := by
      rintro c c' rfl
      rw [c'.compile_eq]
      exact ⟨rfl, rfl⟩
    rw [renderSource, traceSource]
    exact (sim_compileM hcompile).bind fun t =>
      sim_traceTokens compute r.escape partials t ih t.tokens

end Erasing

end Renderer

end PostalAddress
