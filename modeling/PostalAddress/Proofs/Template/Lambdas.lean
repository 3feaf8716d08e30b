import PostalAddress.Proofs.Template.Faults
import PostalAddress.Proofs.Template.Reaching
import PostalAddress.Proofs.Template.Tracing

/-!
# Lambdas get their source

Whatever a cache holds was put in when it was compiled, together with its own source, though it may
stand under a key that other sources share. So the tokens that are rendered are those of the source
that goes with them, and a lambda is called with the text between the tags of its section there.
-/

namespace PostalAddress

open Text

variable {σ κ α β : Type}

/-- A template stands in the cache, under any key. -/
def TemplateCache.Holds [TemplateCache σ] (c : σ) (t : Template) : Prop :=
  ∃ key, get? c key = some t

/-- A cache that gives back only what was put in. -/
class TemplateCache.Lawful (σ : Type) [TemplateCache σ] : Prop where
  holds_insert : ∀ {key : String} {t t' : Template} {c : σ},
    Holds (insert key t c) t' → t' = t ∨ Holds c t'
  holds_clear : ∀ {t : Template} {c : σ}, Holds (clear c) t → Holds c t

instance : TemplateCache.Lawful Cache where
  holds_insert {key t t' c} h := by
    obtain ⟨key', hget⟩ := h
    cases c with
    | off => exact .inr ⟨key', hget⟩
    | memory ts =>
      have hinsert := Cache.get?_insert_memory ts key key' t
      change ((Cache.memory ts).insert key t).get? key' = some t' at hget
      rw [hinsert] at hget
      split at hget
      · exact .inl (Option.some.inj hget).symm
      · exact .inr ⟨key', hget⟩
  holds_clear {t c} h := by
    obtain ⟨key, hget⟩ := h
    cases c with
    | off => exact ⟨key, hget⟩
    | memory ts => cases hget

namespace Template

/-- The template is what compiling its own source gives. -/
def Genuine (t : Template) : Prop := compile t.source t.delimiters = .ok t

/-- The text stands in the source between the tag that opens a section and the tag that closes
it. -/
def HasBody (t : Template) (name : String) (span : Span) (body : String) : Prop :=
  ∃ before inner close after,
    (Pieces.read t.delimiters 0 0 t.source.toList).list =
        before ++ .tag (.opening name false) span :: (inner ++ .tag (.closing name) close :: after) ∧
      openSections [] inner = .ok [] ∧
      Span.Holds t.source.toList ⟨span.stop, close.start⟩ body.toList

theorem Genuine.exists_body {t : Template} (h : t.Genuine) {name : String} {span : Span}
    {closeStart : Nat} {children : List Token}
    (hmem : .block name false span closeStart children ∈ t.inOrder) :
    ∃ body, sectionSource t.source span closeStart = some body ∧ t.HasBody name span body := by
  obtain ⟨_, harranged⟩ := exists_arranged_of_compile h
  obtain ⟨text, htext⟩ := (harranged.encloses _ hmem closeStart rfl).2.2.holds
  obtain ⟨_, _, _, ps, d', p', hread, hnest⟩ := compile_eq_ok_iff.mp h
  obtain ⟨x, hx, rfl, hplain, rfl, rfl⟩ := hnest.exists_section hmem t.delimiters
  obtain ⟨body, before, qs, after, close, _, hslice, _, rfl, hclose, _, _, hchildren⟩ :=
    hread.exists_body hnest hx
  have hpieces := Pieces.read_of_reads hread
  dsimp only at hpieces
  obtain rfl : text = body := Option.some.inj (htext.sliceBytes_eq.symm.trans hslice)
  have hinner : openSections [] (qs.map (Piece.move x.span.stop)) = .ok [] := by
    rw [openSections_move, openSections_eq_nil_iff.mpr (Nested.of_core_move hchildren)]
    rfl
  refine ⟨String.ofList text, by rw [sectionSource, hslice]; rfl, before, _, close, after, ?_,
    hinner, ?_⟩
  · rw [hpieces, hplain]
  · rw [hclose, String.toList_ofList]
    exact htext

end Template

/-- The lambda itself makes the error: it answers so though nothing it had rendered came to it. -/
def LambdaStep.Makes (e : TemplateError) : LambdaStep → Prop
  | .answer result => result = .error e
  | .render _ next => ∃ outcome, outcome ≠ .error e ∧ (next outcome).Makes e

namespace LambdaSection

/-- The section is one of a template, and its lambda is called with what stands between its tags
in the source that the template was compiled from. -/
structure Sound (x : LambdaSection) : Prop where
  genuine : x.template.Genuine
  stands : ∃ children, .block x.name false x.span x.closeStart children ∈ x.template.inOrder
  called : ∃ body, x.argument = some body ∧ x.template.HasBody x.name x.span body

/-- The lambda was called and makes the error. -/
def Makes (e : TemplateError) (x : LambdaSection) : Prop :=
  ∃ body, x.argument = some body ∧ (x.call body).Makes e

end LambdaSection

namespace TemplateCache

variable [TemplateCache σ]

/-- All that the cache holds is genuine. -/
def Honest (c : σ) : Prop := ∀ t, Holds c t → t.Genuine

/-- What compiling through an honest cache gives is genuine, though it may come from another
source than the one that was asked for. -/
theorem Honest.compile [Lawful σ] {c : σ} (h : Honest c) (source : String) (d : Delimiters) :
    Honest (compile c source d).2 ∧ (compile c source d).1 ≠ .error .missingSource ∧
      ∀ t, (compile c source d).1 = .ok t → t.Genuine := by
  cases hget : get? c (d.cacheKey source) with
  | some t =>
    rw [compile_hit hget]
    exact ⟨h, nofun, fun t' ht' => Except.ok.inj ht' ▸ h t ⟨_, hget⟩⟩
  | none =>
    cases ht : Template.compile source d with
    | ok t =>
      have hgenuine : t.Genuine := by
        obtain ⟨rfl, rfl, _⟩ := Template.compile_eq_ok_iff.mp ht
        exact ht
      rw [compile_miss hget ht]
      refine ⟨fun t' ht' => ?_, nofun, fun t' ht' => Except.ok.inj ht' ▸ hgenuine⟩
      obtain rfl | hheld := Lawful.holds_insert ht'
      · exact hgenuine
      · exact h t' hheld
    | error e =>
      rw [compile_fault hget ht]
      refine ⟨h, ?_, nofun⟩
      intro he
      rw [Except.error.inj he] at ht
      exact Template.compile_ne_missingSource ht

end TemplateCache

namespace Traced

variable [TemplateCache σ] {c d e : Traced σ}

structure Sound (c : Traced σ) : Prop where
  honest : TemplateCache.Honest c.cache
  found : ∀ x ∈ c.found, x.Sound

/-- The trace goes on soundly. -/
structure Grows (c d : Traced σ) : Prop where
  sound : d.Sound
  found : c.found ⊆ d.found

/-- A lambda that was found makes the error. -/
def Blames (c : Traced σ) (e : TemplateError) : Prop := ∃ x ∈ c.found, x.Makes e

theorem Sound.refl (h : c.Sound) : c.Grows c := ⟨h, List.Subset.refl _⟩

theorem Grows.trans (h : c.Grows d) (h' : d.Grows e) : c.Grows e :=
  ⟨h'.sound, List.Subset.trans h.found h'.found⟩

theorem Grows.blames (h : c.Grows d) {err : TemplateError} (hc : c.Blames err) : d.Blames err := by
  obtain ⟨x, hx, hmakes⟩ := hc
  exact ⟨x, h.found hx, hmakes⟩

theorem Sound.note (h : c.Sound) {x : LambdaSection} (hx : x.Sound) : c.Grows (c.note x) where
  sound := ⟨h.honest, List.forall_mem_cons.mpr ⟨hx, h.found⟩⟩
  found := List.subset_cons_self _ _

end Traced

namespace Renderer

variable [TemplateCache σ]

/-- The trace goes on soundly, and a source is missing only where a lambda says so. -/
def Traces (m : RenderM (Traced σ) κ α) (post : α → Prop) : Prop :=
  ∀ c x, c.Sound → ∃ result d y, m ⟨c, x⟩ = (result, ⟨d, y⟩) ∧ c.Grows d ∧
    (result = .error .missingSource → d.Blames .missingSource) ∧ ∀ a, result = .ok a → post a

namespace Traces

variable {post : α → Prop} {post' : β → Prop}

theorem pure {a : α} (h : post a) : Traces (σ := σ) (κ := κ) (pure a) post :=
  fun c x hc => ⟨.ok a, c, x, rfl, hc.refl, nofun, fun _ ha => Except.ok.inj ha ▸ h⟩

theorem throw {e : TemplateError} (h : e ≠ .missingSource) :
    Traces (σ := σ) (κ := κ) (throw e) post :=
  fun c x hc => ⟨.error e, c, x, rfl, hc.refl, fun he => absurd (Except.error.inj he) h, nofun⟩

theorem bind {m : RenderM (Traced σ) κ α} {next : α → RenderM (Traced σ) κ β}
    (h : Traces m post) (hnext : ∀ a, post a → Traces (next a) post') :
    Traces (m >>= next) post' := by
  intro c x hc
  obtain ⟨result, d, y, hm, hd, hblame, hpost⟩ := h c x hc
  cases result with
  | ok a =>
    obtain ⟨result, e, z, hn, he, hblame', hpost'⟩ := hnext a (hpost a rfl) d y hd.sound
    exact ⟨result, e, z, (bind_of_ok hm).trans hn, hd.trans he, hblame', hpost'⟩
  | error err =>
    refine ⟨.error err, d, y, bind_of_error hm, hd, fun herr => hblame ?_, nofun⟩
    rw [Except.error.inj herr]

/-- What is done for its text alone. -/
abbrev Text (m : RenderM (Traced σ) κ String) : Prop := Traces m fun _ => True

theorem append {m m' : RenderM (Traced σ) κ String} (h : Text m) (h' : Text m') :
    Text (do let text ← m; return text ++ (← m')) :=
  h.bind fun _ _ => h'.bind fun _ _ => .pure trivial

theorem lookup (compute : Compute κ) (name : String) :
    Traces (σ := σ) (lookup compute name) fun _ => True :=
  fun c _ hc => ⟨_, c, _, lookup_run compute name _, hc.refl, nofun, fun _ _ => trivial⟩

theorem withView {m : RenderM (Traced σ) κ String} (h : Text m) (v : Value κ) :
    Text (withView v m) := by
  intro c x hc
  obtain ⟨result, d, y, hm, hrest⟩ := h c (x.push v) hc
  exact ⟨result, d, y.pop, withView_run hm, hrest⟩

theorem renderVar (compute : Compute κ) (escape : String → String) (name : String)
    (escaped : Bool) : Text (σ := σ) (renderVar compute escape name escaped) := by
  refine (lookup compute name).bind fun v _ => ?_
  cases v with
  | none => exact .pure trivial
  | some v => cases v <;> exact .pure trivial

variable {sub : String → RenderM (Traced σ) κ String} {children : RenderM (Traced σ) κ String}

/-- Nothing is missing where the lambda is called but what it says itself. -/
theorem runLambda (hsub : ∀ text, Text (sub text)) (step : LambdaStep) (c : Traced σ)
    (x : Context κ) (hc : c.Sound) :
    ∃ result d y, runLambda sub step ⟨c, x⟩ = (result, ⟨d, y⟩) ∧ c.Grows d ∧
      (result = .error .missingSource →
        d.Blames .missingSource ∨ step.Makes .missingSource) := by
  induction step generalizing c x with
  | answer result =>
    cases result with
    | ok text => exact ⟨.ok text, c, x, rfl, hc.refl, nofun⟩
    | error e => exact ⟨.error e, c, x, rfl, hc.refl, .inr⟩
  | render text next ih =>
    obtain ⟨outcome, d, y, hm, hd, hblame, _⟩ := hsub text c x hc
    obtain ⟨result, e, z, hn, he, hmakes⟩ := ih outcome d y hd.sound
    refine ⟨result, e, z, (bind_of_ok (observing_run hm)).trans hn, hd.trans he, fun hresult => ?_⟩
    obtain hblamed | hstep := hmakes hresult
    · exact .inl hblamed
    · by_cases houtcome : outcome = .error .missingSource
      · exact .inl (he.blames (hblame houtcome))
      · exact .inr ⟨outcome, houtcome, hstep⟩

theorem renderItems (h : Text children) (items : List (Value κ)) :
    Text (renderItems children items) := by
  induction items with
  | nil => exact .pure trivial
  | cons v vs ih => exact (h.withView v).append ih

theorem renderLeaf (hsub : ∀ text, Text (sub text)) (compute : Compute κ)
    (escape : String → String) (partials : Partials) (l : Leaf) :
    Text (renderLeaf compute escape partials sub l) := by
  cases l with
  | text s => exact .pure trivial
  | var name escaped => exact renderVar compute escape name escaped
  | inclusion name placement =>
    rw [Renderer.renderLeaf]
    cases partials name with
    | none => exact .pure trivial
    | some text => exact hsub _
  | delimiters d => exact .pure trivial
  | comment => exact .pure trivial

variable {t : Template}

theorem traceBlock (ht : t.Genuine) (hsub : ∀ text, Text (sub text)) (hchildren : Text children)
    {name : String} {span : Span} {closeStart : Nat} {us : List Token}
    (hmem : .block name false span closeStart us ∈ t.inOrder) (v : Value κ) :
    Text (traceBlock sub t children name span closeStart v) := by
  cases v with
  | lambda call =>
    intro c x hc
    obtain ⟨body, hbody, hstands⟩ := ht.exists_body hmem
    let noted : LambdaSection := ⟨t, name, span, closeStart, call, some body⟩
    have hnoted : c.Grows (c.note noted) := hc.note ⟨ht, ⟨us, hmem⟩, body, rfl, hstands⟩
    obtain ⟨result, d, y, hrun, hd, hmakes⟩ :=
      runLambda hsub (call body) (c.note noted) x hnoted.sound
    have hcall : Renderer.traceBlock sub t children name span closeStart (.lambda call) ⟨c, x⟩ =
        Renderer.runLambda sub (call body) ⟨c.note noted, x⟩ := by
      rw [Renderer.traceBlock, hbody]
      exact bind_of_ok (modify_run _ _)
    refine ⟨result, d, y, hcall.trans hrun, hnoted.trans hd, fun hresult => ?_, fun _ _ => trivial⟩
    obtain hblamed | hstep := hmakes hresult
    · exact hblamed
    · exact ⟨noted, hd.found List.mem_cons_self, body, rfl, hstep⟩
  | list items => exact renderItems hchildren items
  | map es => exact hchildren.withView _
  | string s => exact hchildren.withView _
  | number n => exact hchildren.withView _
  | bool b => exact hchildren
  | null => exact hchildren
  | computed k => exact hchildren

variable (compute : Compute κ) (escape : String → String) (partials : Partials)

mutual

theorem traceTokens (ht : t.Genuine) (hsub : ∀ text, Text (sub text)) : ∀ us : List Token,
    Token.inOrderAll us ⊆ t.inOrder → Text (traceTokens compute escape partials sub t us)
  | [], _ => by
    rw [Renderer.traceTokens]
    exact .pure trivial
  | u :: us, hmem => by
    rw [Token.inOrderAll, List.append_subset] at hmem
    rw [Renderer.traceTokens]
    exact (traceToken ht hsub u hmem.1).append (traceTokens ht hsub us hmem.2)

theorem traceToken (ht : t.Genuine) (hsub : ∀ text, Text (sub text)) : ∀ u : Token,
    u.inOrder ⊆ t.inOrder → Text (traceToken compute escape partials sub t u)
  | .leaf l span, _ => by
    rw [Renderer.traceToken]
    exact renderLeaf hsub compute escape partials l
  | .block name inverted span closeStart children, hmem => by
    rw [Token.inOrder, List.cons_subset] at hmem
    have hchildren := traceTokens ht hsub children hmem.2
    rw [Renderer.traceToken]
    refine (lookup compute name).bind fun v _ => ?_
    cases inverted with
    | true =>
      simp only [if_true]
      split
      · exact .pure trivial
      · exact hchildren
    | false =>
      cases v with
      | none => exact .pure trivial
      | some v =>
        simp only [Bool.false_eq_true, if_false]
        split
        · exact traceBlock ht hsub hchildren hmem.1 v
        · exact .pure trivial

end

theorem compileM [TemplateCache.Lawful σ] (d : Delimiters) (source : String) :
    Traces (σ := σ) (κ := κ) (compileM d source) Template.Genuine := by
  intro c x hc
  obtain ⟨hhonest, hne, hgenuine⟩ := hc.honest.compile source d
  have hrun := compileM_run (κ := κ) d source ⟨c, x⟩
  rw [c.compile_eq] at hrun
  refine ⟨_, _, x, hrun, ⟨⟨hhonest, hc.found⟩, List.Subset.refl _⟩, ?_, hgenuine⟩
  exact fun he => absurd he hne

theorem traceSource [TemplateCache.Lawful σ] (r : Renderer) (depth : Nat) (source : String) :
    Text (σ := σ) (r.traceSource compute partials depth source) := by
  induction depth generalizing source with
  | zero => exact .throw (by decide)
  | succ depth ih =>
    rw [Renderer.traceSource]
    refine (compileM r.delimiters source).bind fun t ht => ?_
    exact traceTokens compute r.escape partials ht ih t.tokens (List.Subset.refl _)

end Traces

/-- From an honest cache a rendering leaves a sound trace and an honest cache. -/
theorem exists_traceIn [TemplateCache.Lawful σ] (r : Renderer) (compute : Compute κ)
    (partials : Partials) (source : String) {c : σ} (hc : TemplateCache.Honest c) (x : Context κ) :
    ∃ result d found y, r.renderIn compute partials source ⟨c, x⟩ = (result, ⟨d, y⟩) ∧
      r.traceIn compute partials source ⟨⟨c, []⟩, x⟩ = (result, ⟨⟨d, found⟩, y⟩) ∧
      TemplateCache.Honest d ∧ (∀ z ∈ found, z.Sound) ∧
      (result = .error .missingSource → ∃ z ∈ found, z.Makes .missingSource) := by
  obtain ⟨result, y, d, ⟨d', found⟩, hrender, htrace, hd⟩ :=
    sim_traceSource r compute partials r.depth source c ⟨c, []⟩ x rfl
  obtain rfl : d' = d := hd
  obtain ⟨result', e, y', htrace', hgrows, hblame, _⟩ :=
    Traces.traceSource compute partials r r.depth source ⟨c, []⟩ x ⟨hc, nofun⟩
  obtain ⟨rfl, hstate⟩ := Prod.mk.inj (htrace.symm.trans htrace')
  obtain ⟨rfl, _⟩ := RenderState.mk.inj hstate
  exact ⟨result, d', found, y, hrender, htrace, hgrows.sound.honest, hgrows.sound.found, hblame⟩

end Renderer

namespace Session

variable [TemplateCache σ] [TemplateCache.Lawful σ] (compute : Compute κ)

theorem honest_step {s : Session σ} (h : TemplateCache.Honest s.cache) (q : Request κ) :
    TemplateCache.Honest (s.step compute q).2.cache := by
  have hrender : ∀ partials source x,
      TemplateCache.Honest (s.renderer.renderIn compute partials source ⟨s.cache, x⟩).2.cache := by
    intro partials source x
    obtain ⟨result, d, found, y, hrender, _, hd, _⟩ :=
      s.renderer.exists_traceIn compute partials source h x
    rw [hrender]
    exact hd
  cases q with
  | use r => exact h
  | compile source d => exact (h.compile source d).1
  | render partials source view => exact hrender partials source (.ofView view)
  | renderIn partials source x => exact hrender partials source x
  | clear => exact fun t ht => h t (TemplateCache.Lawful.holds_clear ht)

theorem honest_run {s : Session σ} (h : TemplateCache.Honest s.cache) (qs : List (Request κ)) :
    TemplateCache.Honest (s.run compute qs).2.cache := by
  induction qs generalizing s with
  | nil => exact h
  | cons q qs ih => exact ih (honest_step compute h q)

/-- Whatever was compiled and rendered before, a rendering calls the lambda of every section it
finds with the text between the tags of the section in the source that the section was compiled
from. A source is missing only where a lambda that was called says so itself. -/
theorem sound_traceIn_of_run {c₀ : σ} (h₀ : ∀ t, ¬ TemplateCache.Holds c₀ t) (r₀ r : Renderer)
    (qs : List (Request κ)) (partials : Partials) (source : String) (x : Context κ) :
    ∃ c result d found y, (run compute ⟨r₀, c₀⟩ qs).2.cache = c ∧
      r.renderIn compute partials source ⟨c, x⟩ = (result, ⟨d, y⟩) ∧
      (∀ view, x = .ofView view → r.render compute partials source view c = (result, d)) ∧
      r.traceIn compute partials source ⟨⟨c, []⟩, x⟩ = (result, ⟨⟨d, found⟩, y⟩) ∧
      (∀ z ∈ found, z.Sound) ∧
      (result = .error .missingSource → ∃ z ∈ found, z.Makes .missingSource) := by
  have hempty : TemplateCache.Honest c₀ := fun t ht => absurd ht (h₀ t)
  have hrun := honest_run (s := ⟨r₀, c₀⟩) compute hempty qs
  obtain ⟨result, d, found, y, hrender, htrace, _, hfound, hblame⟩ :=
    r.exists_traceIn compute partials source hrun x
  refine ⟨_, result, d, found, y, rfl, hrender, ?_, htrace, hfound, hblame⟩
  rintro view rfl
  rw [Renderer.render, hrender]

/-- The template that was compiled before stands under the key of the source that is asked for. Its
lambda has a partial rendered in which there is another. -/
theorem sound_traceIn_of_shared_key :
    ∃ c result d found y,
      (run (fun k : Empty => k.elim) ⟨{}, Cache.empty⟩
        [.compile "\x7b\x7b#l\x7d\x7dx:\x7b\x7b>p\x7d\x7d\x7b\x7b/l\x7d\x7d:x" .braces]).2.cache = c ∧
      Renderer.traceIn ⟨⟨"x:\x7b\x7b", "\x7d\x7d"⟩, Escape.html, 4⟩ (fun k : Empty => k.elim)
        (fun _ => some "x:\x7b\x7b#l\x7d\x7d\u00fc x:\x7b\x7b/l\x7d\x7d")
        "\x7b\x7b#l\x7d\x7dx:\x7b\x7b>p\x7d\x7d\x7b\x7b/l\x7d\x7d"
        ⟨⟨c, []⟩, .ofView (.map [("l", .lambda fun body => .render body .answer)])⟩ =
          (result, ⟨⟨d, found⟩, y⟩) ∧
      found.map (fun z => (z.template.source, z.argument)) =
        [("x:\x7b\x7b#l\x7d\x7d\u00fc x:\x7b\x7b/l\x7d\x7d", some "\u00fc "),
          ("\x7b\x7b#l\x7d\x7dx:\x7b\x7b>p\x7d\x7d\x7b\x7b/l\x7d\x7d:x",
            some "x:\x7b\x7b>p\x7d\x7d")] ∧
      ∀ z ∈ found, z.Sound := by
  have hempty : ∀ t, ¬ TemplateCache.Holds Cache.empty t := by
    rintro t ⟨key, hget⟩
    cases hget
  obtain ⟨c, result, d, found, y, hc, _, _, htrace, hsound, _⟩ :=
    sound_traceIn_of_run (fun k : Empty => k.elim) hempty {}
      ⟨⟨"x:\x7b\x7b", "\x7d\x7d"⟩, Escape.html, 4⟩
      [.compile "\x7b\x7b#l\x7d\x7dx:\x7b\x7b>p\x7d\x7d\x7b\x7b/l\x7d\x7d:x" .braces]
      (fun _ => some "x:\x7b\x7b#l\x7d\x7d\u00fc x:\x7b\x7b/l\x7d\x7d")
      "\x7b\x7b#l\x7d\x7dx:\x7b\x7b>p\x7d\x7d\x7b\x7b/l\x7d\x7d"
      (.ofView (.map [("l", .lambda fun body => .render body .answer)]))
  refine ⟨c, result, d, found, y, hc, htrace, ?_, hsound⟩
  have hnoted := congrArg (fun out : _ × RenderState (Traced Cache) Empty =>
    out.2.cache.found.map fun z => (z.template.source, z.argument)) htrace
  subst hc
  exact hnoted.symm.trans (by decide +kernel)

end Session

end PostalAddress
