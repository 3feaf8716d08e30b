import PostalAddress.Template.Renderer

/-!
# Sessions

A session is a renderer at work with a cache. Requests are answered one after the other; the
renderer may give way to another, which goes on with the same cache. A request that fails leaves
the session in use.
-/

namespace PostalAddress

inductive Request (κ : Type)
  /-- Goes on with another renderer. -/
  | use (r : Renderer)
  | compile (source : String) (d : Delimiters)
  | render (partials : Partials) (source : String) (view : Value κ)
  | renderIn (partials : Partials) (source : String) (context : Context κ)
  | clear

inductive Reply
  | done
  | template (result : Except TemplateError Template)
  | text (result : Except TemplateError String)

structure Session (σ : Type := Cache) where
  renderer : Renderer
  cache : σ

namespace Session

variable {σ κ : Type} [TemplateCache σ] (compute : Compute κ)

def step (s : Session σ) : Request κ → Reply × Session σ
  | .use r => (.done, { s with renderer := r })
  | .compile source d =>
    let (result, cache) := TemplateCache.compile s.cache source d
    (.template result, { s with cache := cache })
  | .render partials source view =>
    let (result, cache) := s.renderer.render compute partials source view s.cache
    (.text result, { s with cache := cache })
  | .renderIn partials source context =>
    let (result, state) := s.renderer.renderIn compute partials source ⟨s.cache, context⟩
    (.text result, { s with cache := state.cache })
  | .clear => (.done, { s with cache := TemplateCache.clear s.cache })

/-- The replies to requests in order, and the session after the last. -/
def run (s : Session σ) : List (Request κ) → List Reply × Session σ
  | [] => ([], s)
  | q :: qs =>
    let (reply, s) := step compute s q
    let (replies, s) := run s qs
    (reply :: replies, s)

end Session

end PostalAddress
