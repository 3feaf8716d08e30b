import PostalAddress.Proofs.Template.Caching
import PostalAddress.Proofs.Template.Plain
import PostalAddress.Proofs.Template.Running

/-!
# Memory leaves no trace in a rendering

A context is faithful when each of its layers remembers only what names lead to there, and a cache
when it has nothing else for a source than what compiling it gives. Rendering starts from such a
state, ends in one with the same views, and comes to what it comes to without a state.
-/

namespace PostalAddress

variable {κ α β : Type}

/-- For these delimiters the cache has only what compiling gives. -/
def Cache.Faithful (d : Delimiters) (c : Cache) : Prop :=
  ∀ source t, c.get? (d.cacheKey source) = some t → Template.compile source d = .ok t

namespace Cache

variable {d : Delimiters} {c : Cache}

theorem faithful_empty (d : Delimiters) : empty.Faithful d := by
  intro source t h
  cases h

theorem Sound.faithful (h : c.Sound) (hd : d.Colonless) : c.Faithful d :=
  fun _ _ hget => h.compile_eq hd hget

/-- The delimiters being the same, the key tells the source. -/
theorem cacheKey_left_inj {source source' : String}
    (h : d.cacheKey source = d.cacheKey source') : source = source' := by
  have hlist := congrArg String.toList h
  simp only [Delimiters.cacheKey, String.toList_append, List.append_assoc] at hlist
  exact String.toList_inj.mp (List.append_cancel_right hlist)

theorem Faithful.insert (h : c.Faithful d) {source : String} {t : Template}
    (ht : Template.compile source d = .ok t) : (c.insert (d.cacheKey source) t).Faithful d := by
  cases c with
  | off => exact h
  | memory ts =>
    intro source' t' hget
    rw [get?_insert_memory] at hget
    split at hget
    · rename_i hkey
      obtain rfl := Option.some.inj hget
      rwa [← cacheKey_left_inj hkey]
    · exact h source' t' hget

theorem Faithful.compile (h : c.Faithful d) (source : String) :
    (TemplateCache.compile c source d).1 = Template.compile source d ∧
      (TemplateCache.compile c source d).2.Faithful d := by
  cases hget : TemplateCache.get? c (d.cacheKey source) with
  | some t =>
    rw [TemplateCache.compile_hit hget]
    exact ⟨(h source t hget).symm, h⟩
  | none =>
    cases ht : Template.compile source d with
    | ok t =>
      rw [TemplateCache.compile_miss hget ht]
      exact ⟨rfl, h.insert ht⟩
    | error e =>
      rw [TemplateCache.compile_fault hget ht]
      exact ⟨rfl, h⟩

end Cache

namespace Context

/-- What each layer remembers of a name is what the name leads to from there down. -/
def FaithfulLayers : List (Layer κ) → Prop
  | [] => True
  | l :: ls => (∀ name v, Table.find? name l.memo = some v →
      v = resolve name (l.view :: ls.map Layer.view)) ∧ FaithfulLayers ls

def Faithful (x : Context κ) : Prop := FaithfulLayers (x.top :: x.below)

variable {x : Context κ}

theorem faithful_ofView (v : Value κ) : (ofView v).Faithful := by
  refine ⟨?_, trivial⟩
  intro name w h
  cases h

theorem Faithful.push (h : x.Faithful) (v : Value κ) : (x.push v).Faithful := by
  refine ⟨?_, h⟩
  intro name w hfind
  cases hfind

theorem views_push (x : Context κ) (v : Value κ) : (x.push v).views = v :: x.views := rfl

theorem Faithful.pop (h : x.Faithful) {v : Value κ} {vs : List (Value κ)}
    (hviews : x.views = v :: vs) (hvs : vs ≠ []) : x.pop.Faithful ∧ x.pop.views = vs := by
  obtain ⟨top, below⟩ := x
  obtain ⟨_, rfl⟩ := List.cons_eq_cons.mp hviews
  cases below with
  | nil => exact absurd rfl hvs
  | cons l ls => exact ⟨h.2, rfl⟩

theorem valueOf_views (compute : Compute κ) (name : String) (x : Context κ) :
    valueOf compute name x.views = settle compute x.view (resolve name x.views) := rfl

theorem Faithful.lookup (h : x.Faithful) (compute : Compute κ) (name : String) :
    (x.lookup compute name).1 = valueOf compute name x.views ∧
      (x.lookup compute name).2.Faithful ∧ (x.lookup compute name).2.views = x.views := by
  rw [valueOf_views, Context.lookup]
  cases hfind : Table.find? name x.top.memo with
  | some v =>
    have hv : v = resolve name x.views := h.1 name v hfind
    exact ⟨by rw [hv], h, rfl⟩
  | none =>
    refine ⟨rfl, ⟨fun name' v hv => ?_, h.2⟩, rfl⟩
    rw [Table.find?] at hv
    split at hv
    · rename_i hname
      rw [← Option.some.inj hv, ← hname]
      rfl
    · exact h.1 name' v hv

end Context

/-- A state with these views that remembers nothing wrong. -/
structure RenderState.Faithful (d : Delimiters) (views : List (Value κ))
    (s : RenderState Cache κ) : Prop where
  cache : s.cache.Faithful d
  context : s.context.Faithful
  views_eq : s.context.views = views

namespace Renderer

/-- From every faithful state with these views, `m` comes to the result and to such a state. -/
def Gives (d : Delimiters) (views : List (Value κ)) (m : RenderM Cache κ α)
    (result : Except TemplateError α) : Prop :=
  ∀ s : RenderState Cache κ, s.Faithful d views → ∃ s', m s = (result, s') ∧ s'.Faithful d views

variable {d : Delimiters} {views : List (Value κ)}

theorem gives_pure (a : α) : Gives d views (pure a) (.ok a) :=
  fun s hs => ⟨s, rfl, hs⟩

theorem gives_throw (e : TemplateError) : Gives (α := α) d views (throw e) (.error e) :=
  fun s hs => ⟨s, rfl, hs⟩

theorem Gives.bind {m : RenderM Cache κ α} {next : α → RenderM Cache κ β}
    {result : Except TemplateError α} {k : α → Except TemplateError β}
    (h : Gives d views m result)
    (hnext : ∀ a, result = .ok a → Gives d views (next a) (k a)) :
    Gives d views (m >>= next) (result.bind k) := by
  intro s hs
  obtain ⟨s', hm, hs'⟩ := h s hs
  cases result with
  | ok a =>
    obtain ⟨s'', hn, hs''⟩ := hnext a rfl s' hs'
    exact ⟨s'', (bind_of_ok hm).trans hn, hs''⟩
  | error e => exact ⟨s', bind_of_error hm, hs'⟩

theorem Gives.append {m m' : RenderM Cache κ String} {a b : Rendered} (h : Gives d views m a)
    (h' : Gives d views m' b) :
    Gives d views (do let text ← m; return text ++ (← m')) (a.followedBy b) := by
  refine h.bind fun text _ => ?_
  have hmap := h'.bind (k := fun rest => .ok (text ++ rest)) fun rest _ =>
    gives_pure (text ++ rest)
  cases b with
  | ok rest => exact hmap
  | error e => exact hmap

theorem gives_lookup (compute : Compute κ) (name : String) :
    Gives d views (lookup compute name) (.ok (Context.valueOf compute name views)) := by
  intro s hs
  obtain ⟨hvalue, hfaithful, hviews⟩ := hs.context.lookup compute name
  rw [hs.views_eq] at hvalue hviews
  refine ⟨⟨s.cache, (s.context.lookup compute name).2⟩, ?_, hs.cache, hfaithful, hviews⟩
  rw [lookup_run, hvalue]

theorem gives_compileM (source : String) :
    Gives (κ := κ) d views (compileM d source) (Template.compile source d) := by
  intro s hs
  obtain ⟨hresult, hcache⟩ := hs.cache.compile source
  refine ⟨⟨(TemplateCache.compile s.cache source d).2, s.context⟩, ?_, hcache, hs.context,
    hs.views_eq⟩
  rw [compileM_run, hresult]

theorem Gives.withView {v : Value κ} {m : RenderM Cache κ String} {result : Rendered}
    (hne : views ≠ []) (h : Gives d (v :: views) m result) :
    Gives d views (withView v m) result := by
  intro s hs
  have hpush : RenderState.Faithful d (v :: views) ⟨s.cache, s.context.push v⟩ :=
    ⟨hs.cache, hs.context.push v, by rw [Context.views_push, hs.views_eq]⟩
  obtain ⟨⟨c, x⟩, hm, hs'⟩ := h _ hpush
  obtain ⟨hpop, hviews⟩ := hs'.context.pop hs'.views_eq hne
  exact ⟨⟨c, x.pop⟩, withView_run hm, hs'.cache, hpop, hviews⟩

theorem Gives.observing {m : RenderM Cache κ String} {result : Rendered}
    (h : Gives d views m result) : Gives d views (runLambda.observing m) (.ok result) := by
  intro s hs
  obtain ⟨s', hm, hs'⟩ := h s hs
  exact ⟨s', observing_run hm, hs'⟩

theorem gives_renderVar (compute : Compute κ) (escape : String → String) (name : String)
    (escaped : Bool) : Gives d views (renderVar compute escape name escaped)
      (.ok (Plain.renderVar compute escape views name escaped)) := by
  refine (gives_lookup compute name).bind (k := fun _ =>
    .ok (Plain.renderVar compute escape views name escaped)) fun v hv => ?_
  rw [Plain.renderVar, Except.ok.inj hv]
  cases v with
  | none => exact gives_pure ""
  | some v => cases v <;> exact gives_pure _

section Parts

variable {sub : String → RenderM Cache κ String}
  {sub' : List (Value κ) → String → Rendered}

theorem gives_runLambda (hsub : ∀ text, Gives d views (sub text) (sub' views text))
    (step : LambdaStep) :
    Gives d views (runLambda sub step) (Plain.runLambda (sub' views) step) := by
  induction step with
  | answer result =>
    cases result with
    | ok text => exact gives_pure text
    | error e => exact gives_throw e
  | render text next ih =>
    exact (hsub text).observing.bind (k := fun outcome =>
      Plain.runLambda (sub' views) (next outcome)) fun outcome _ => ih outcome

theorem gives_renderItems {children : RenderM Cache κ String}
    {children' : List (Value κ) → Rendered} (hne : views ≠ [])
    (h : ∀ views, views ≠ [] → Gives d views children (children' views)) (items : List (Value κ)) :
    Gives d views (renderItems children items)
      (Plain.renderItems (fun v => children' (v :: views)) items) := by
  induction items with
  | nil => exact gives_pure ""
  | cons v vs ih => exact ((h (v :: views) (List.cons_ne_nil v views)).withView hne).append ih

theorem gives_renderBlock (hsub : ∀ text, Gives d views (sub text) (sub' views text))
    {children : RenderM Cache κ String} {children' : List (Value κ) → Rendered} (hne : views ≠ [])
    (h : ∀ views, views ≠ [] → Gives d views children (children' views)) (source : Option String)
    (span : Span) (closeStart : Nat) (v : Value κ) :
    Gives d views (renderBlock sub source children span closeStart v)
      (Plain.renderBlock (sub' views) source children' views span closeStart v) := by
  have hpushed : ∀ v, Gives d views (Renderer.withView v children) (children' (v :: views)) :=
    fun v => (h (v :: views) (List.cons_ne_nil v views)).withView hne
  cases v with
  | list items => exact gives_renderItems hne h items
  | lambda call =>
    rw [renderBlock, Plain.renderBlock]
    cases source.bind fun s => Template.sectionSource s span closeStart with
    | none => exact gives_throw _
    | some body => exact gives_runLambda hsub (call body)
  | map es => exact hpushed _
  | string s => exact hpushed _
  | number x => exact hpushed _
  | bool b => exact h views hne
  | null => exact h views hne
  | computed k => exact h views hne

theorem gives_renderLeaf (hsub : ∀ text, Gives d views (sub text) (sub' views text))
    (compute : Compute κ) (escape : String → String) (partials : Partials) (l : Leaf) :
    Gives d views (renderLeaf compute escape partials sub l)
      (Plain.renderLeaf compute escape partials sub' views l) := by
  cases l with
  | text s => exact gives_pure s
  | var name escaped => exact gives_renderVar compute escape name escaped
  | inclusion name placement =>
    rw [renderLeaf, Plain.renderLeaf]
    cases partials name with
    | none => exact gives_pure ""
    | some text => exact hsub _
  | delimiters d => exact gives_pure ""
  | comment => exact gives_pure ""

variable (compute : Compute κ) (escape : String → String) (partials : Partials)
  (source : Option String)

mutual

theorem gives_renderTokens
    (hsub : ∀ views, views ≠ [] → ∀ text, Gives d views (sub text) (sub' views text)) :
    ∀ (ts : List Token) (views : List (Value κ)), views ≠ [] →
      Gives d views (renderTokens compute escape partials sub source ts)
        (Plain.renderTokens compute escape partials sub' source views ts)
  | [], _, _ => by
    rw [renderTokens, Plain.renderTokens]
    exact gives_pure ""
  | t :: ts, views, hne => by
    rw [renderTokens, Plain.renderTokens]
    exact (gives_renderToken hsub t views hne).append (gives_renderTokens hsub ts views hne)

theorem gives_renderToken
    (hsub : ∀ views, views ≠ [] → ∀ text, Gives d views (sub text) (sub' views text)) :
    ∀ (t : Token) (views : List (Value κ)), views ≠ [] →
      Gives d views (renderToken compute escape partials sub source t)
        (Plain.renderToken compute escape partials sub' source views t)
  | .leaf l span, views, hne => by
    rw [renderToken, Plain.renderToken]
    exact gives_renderLeaf (hsub views hne) compute escape partials l
  | .block name inverted span closeStart children, views, hne => by
    have hchildren := gives_renderTokens hsub children
    rw [renderToken, Plain.renderToken]
    refine (gives_lookup compute name).bind (k := fun _ => _) fun v hv => ?_
    rw [Except.ok.inj hv]
    cases inverted with
    | true =>
      simp only [if_true]
      split
      · exact gives_pure ""
      · exact hchildren views hne
    | false =>
      cases v with
      | none => exact gives_pure ""
      | some v =>
        simp only [Bool.false_eq_true, if_false]
        split
        · exact gives_renderBlock (hsub views hne) hne hchildren source span closeStart v
        · exact gives_pure ""

end

end Parts

theorem gives_renderSource (r : Renderer) (compute : Compute κ) (partials : Partials) (depth : Nat)
    {views : List (Value κ)} (hne : views ≠ []) (source : String) :
    Gives r.delimiters views (r.renderSource compute partials depth source)
      (Plain.renderSource r compute partials depth views source) := by
  induction depth generalizing views source with
  | zero => exact gives_throw _
  | succ depth ih =>
    rw [renderSource, Plain.renderSource]
    refine (gives_compileM source).bind fun t _ => ?_
    exact gives_renderTokens compute r.escape partials (some t.source)
      (fun _ hne text => ih hne text) t.tokens views hne

/-- Whatever a faithful state holds, a rendering comes to what it comes to without a state. -/
theorem renderIn_eq_plain (r : Renderer) (compute : Compute κ) (partials : Partials)
    (source : String) {views : List (Value κ)} {s : RenderState Cache κ}
    (h : s.Faithful r.delimiters views) :
    (r.renderIn compute partials source s).1 =
      Plain.renderSource r compute partials r.depth views source := by
  have hne : views ≠ [] := h.views_eq ▸ List.cons_ne_nil _ _
  obtain ⟨s', hs, _⟩ := gives_renderSource r compute partials r.depth hne source s h
  rw [renderIn, hs]

theorem render_eq_plain (r : Renderer) (compute : Compute κ) (partials : Partials)
    (source : String) (view : Value κ) {cache : Cache} (h : cache.Faithful r.delimiters) :
    (r.render compute partials source view cache).1 =
      Plain.renderSource r compute partials r.depth [view] source := by
  have hs : RenderState.Faithful r.delimiters [view] ⟨cache, .ofView view⟩ :=
    ⟨h, Context.faithful_ofView view, rfl⟩
  rw [render, renderIn_eq_plain r compute partials source hs]

end Renderer

end PostalAddress
