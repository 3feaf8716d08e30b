import PostalAddress.Template.Cache
import PostalAddress.Template.Context
import PostalAddress.Template.Escape

/-!
# Rendering

Tokens are rendered in order against a context. A section is left out when its value is missing or
falsy; a list renders it once for each item, a map, string or number once with that value on top of
the context, and a lambda is called with its source. Partials and the texts of lambdas are compiled
on the way, through the cache, with the renderer's own delimiters. How deep they may nest in each
other is bounded by the renderer, so every rendering ends; the cache keeps what was compiled before
an error.
-/

namespace PostalAddress

structure Renderer where
  delimiters : Delimiters := .braces
  /-- Applied to the text of escaped variables. -/
  escape : String → String := Escape.html
  /-- How deep templates, partials and texts of lambdas may nest. -/
  depth : Nat := 10000

abbrev Partials := String → Option String

structure RenderState (σ κ : Type) where
  cache : σ
  context : Context κ

abbrev RenderM (σ κ : Type) := ExceptT TemplateError (StateM (RenderState σ κ))

namespace Renderer

variable {σ κ : Type}

def lookup (compute : Compute κ) (name : String) : RenderM σ κ (Option (Value κ)) := do
  let s ← get
  let (v, context) := s.context.lookup compute name
  set { s with context := context }
  return v

def compileM [TemplateCache σ] (d : Delimiters) (source : String) : RenderM σ κ Template := do
  let s ← get
  let (t, cache) := TemplateCache.compile s.cache source d
  set { s with cache := cache }
  liftExcept t
where
  liftExcept {α : Type} (e : Except TemplateError α) : RenderM σ κ α :=
    match e with
    | .ok a => pure a
    | .error e => throw e

/-- Runs `m` with `v` on top of the context, and takes it off again after an error too. -/
def withView (v : Value κ) (m : RenderM σ κ String) : RenderM σ κ String := do
  modify fun s => { s with context := s.context.push v }
  try
    let text ← m
    modify fun s => { s with context := s.context.pop }
    pure text
  catch e =>
    modify fun s => { s with context := s.context.pop }
    throw e

def renderVar (compute : Compute κ) (escape : String → String) (name : String)
    (escaped : Bool) : RenderM σ κ String := do
  match ← lookup compute name with
  | none => return ""
  | some .null => return ""
  | some (.number x) => return Value.numberText x
  | some v => return if escaped then escape v.toText else v.toText

/-- Renders the texts a lambda asks for with `sub`. -/
def runLambda (sub : String → RenderM σ κ String) : LambdaStep → RenderM σ κ String
  | .answer (.ok text) => pure text
  | .answer (.error e) => throw e
  | .render text next => do
    let outcome ← observing (sub text)
    runLambda sub (next outcome)
where
  observing (m : RenderM σ κ String) : RenderM σ κ (Except TemplateError String) :=
    tryCatch (.ok <$> m) fun e => pure (.error e)

def renderItems (children : RenderM σ κ String) : List (Value κ) → RenderM σ κ String
  | [] => pure ""
  | v :: vs => do
    let text ← withView v children
    return text ++ (← renderItems children vs)

/-- A section with a value that is not falsy. -/
def renderBlock (sub : String → RenderM σ κ String) (source : Option String)
    (children : RenderM σ κ String) (span : Span) (closeStart : Nat) :
    Value κ → RenderM σ κ String
  | .list items => renderItems children items
  | .lambda call =>
    match source.bind fun s => Template.sectionSource s span closeStart with
    | none => throw .missingSource
    | some body => runLambda sub (call body)
  | .map es => withView (.map es) children
  | .string s => withView (.string s) children
  | .number x => withView (.number x) children
  | .bool _ => children
  | .null => children
  | .computed _ => children

def partialText (text : String) (p : Placement) : String :=
  if p.tagIndex = 0 && !p.indentation.isEmpty then
    Escape.indentPartial text p.indentation p.lineHasContent
  else text

section Tokens

variable (compute : Compute κ) (escape : String → String) (partials : Partials)
  (sub : String → RenderM σ κ String) (source : Option String)

def renderLeaf : Leaf → RenderM σ κ String
  | .text s => pure s
  | .var name escaped => renderVar compute escape name escaped
  | .inclusion name placement =>
    match partials name with
    | none => pure ""
    | some text => sub (partialText text placement)
  | .delimiters _ => pure ""
  | .comment => pure ""

mutual

/-- Renders tokens compiled from `source`; `sub` renders partials and the texts of lambdas. -/
def renderTokens : List Token → RenderM σ κ String
  | [] => pure ""
  | t :: ts => do
    let text ← renderToken t
    return text ++ (← renderTokens ts)

def renderToken : Token → RenderM σ κ String
  | .leaf l _ => renderLeaf compute escape partials sub l
  | .block name inverted span closeStart children => do
    let v ← lookup compute name
    let shown := v.any Value.isTruthy
    if inverted then
      if shown then return "" else renderTokens children
    else
      match v with
      | some v =>
        if shown then renderBlock sub source (renderTokens children) span closeStart v
        else return ""
      | none => return ""

end

end Tokens

section Sources

variable [TemplateCache σ]

/-- Compiles and renders a source, with at most `depth` sources inside each other. -/
def renderSource (r : Renderer) (compute : Compute κ) (partials : Partials) :
    (depth : Nat) → String → RenderM σ κ String
  | 0, _ => throw .nestedTooDeeply
  | depth + 1, source => do
    let t ← compileM r.delimiters source
    renderTokens compute r.escape partials (renderSource r compute partials depth)
      (some t.source) t.tokens

/-- Renders a source against a context. -/
def renderIn (r : Renderer) (compute : Compute κ) (partials : Partials) (source : String)
    (s : RenderState σ κ) : Except TemplateError String × RenderState σ κ :=
  r.renderSource compute partials r.depth source s

/-- Renders a source against a view. -/
def render (r : Renderer) (compute : Compute κ) (partials : Partials) (source : String)
    (view : Value κ) (cache : σ) : Except TemplateError String × σ :=
  let (result, s) := r.renderIn compute partials source ⟨cache, .ofView view⟩
  (result, s.cache)

/-- Renders tokens, whose source may be missing. -/
def renderTree (r : Renderer) (compute : Compute κ) (partials : Partials) (tokens : List Token)
    (source : Option String) (view : Value κ) (cache : σ) :
    Except TemplateError String × σ :=
  let sub := r.renderSource compute partials (r.depth - 1)
  let (result, s) :=
    renderTokens compute r.escape partials sub source tokens ⟨cache, .ofView view⟩
  (result, s.cache)

end Sources

def noPartials : Partials := fun _ => none

end Renderer

end PostalAddress
