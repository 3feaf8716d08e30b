import PostalAddress.Proofs.Address.Layout
import PostalAddress.Proofs.Template.Transparency

/-!
# Formatters whose layouts were validated

Whatever calls came before, the cache of a formatter is sound. So a validation that reports nothing
means that every layout compiles; and when no layout sets delimiters, every address can then be
formatted.
-/

namespace PostalAddress

namespace Formatter

/-- What is asked of a formatter. -/
inductive Call
  | format (o : FormatOptions) (input : Fields)
  | render (n : Normalized)
  | validate
  | clear

/-- The cache after a call. -/
def after (fm : Formatter) (cache : Cache) : Call → Cache
  | .format o input => (fm.format o input cache).2
  | .render n => (fm.render n cache).2
  | .validate => (fm.validate cache).2
  | .clear => cache.clear

theorem colonless_renderer : renderer.delimiters.Colonless := by decide

theorem lambdaless_view (f : Fields) : (view f).Lambdaless := by
  refine .map fun e he => ?_
  obtain hvalue | he := Table.mem_put he
  · rw [hvalue]
    exact .computed _
  · obtain ⟨field, _, rfl⟩ := List.mem_map.mp he
    exact .string _

/-- A layout renders to the same text with a sound cache as without, and leaves the cache sound. -/
theorem renderBody_eq {cache : Cache} (h : cache.Sound) (f : Fields) (body : String) :
    (renderBody f body cache).1 = (renderBody f body .off).1 ∧
      (renderBody f body cache).2.Sound := by
  let r : Renderer := { renderer with depth := body.length + 1 }
  have hrelated : (fun c c' : Cache => c.Sound ∧ c' = .off) cache .off := ⟨h, rfl⟩
  obtain ⟨result, d, d', hm, hm', hd⟩ := Renderer.exists_render (r := r) Cache.alike_off
    colonless_renderer Selector.compute Renderer.noPartials body (view f) hrelated
  rw [renderBody, renderBody, hm, hm']
  exact ⟨rfl, hd.1⟩

/-- A steady layout renders, whatever the fields hold. -/
theorem exists_renderBody_eq_ok {cache : Cache} (h : cache.Sound) (f : Fields) {body : String}
    {ps : List Piece} {us : List Token} (hsteady : Steady body.toList ps us) :
    ∃ text, (renderBody f body cache).1 = .ok text := by
  rw [(renderBody_eq h f body).1]
  have hdepth : body.toList.length < body.length + 1 := by
    rw [String.length_toList]
    omega
  obtain ⟨text, y, hrender, _, _⟩ := hsteady.succeeds
    (r := { renderer with depth := body.length + 1 }) rfl hdepth _
    (Context.lambdaless_ofView (lambdaless_view f))
  rw [String.ofList_toList] at hrender
  refine ⟨text, ?_⟩
  rw [renderBody, Renderer.render, Renderer.renderIn, hrender]

theorem check_eq {cache : Cache} (h : cache.Sound) (issues : List TemplateIssue)
    (layout : String × BodyKind × String) :
    (check (issues, cache) layout).2.Sound ∧
      ((check (issues, cache) layout).1 = [] →
        issues = [] ∧ ∃ t, Template.compile layout.2.2 renderer.delimiters = .ok t) := by
  obtain ⟨code, kind, body⟩ := layout
  obtain ⟨hresult, hsound⟩ := h.compile body colonless_renderer
  cases hc : TemplateCache.compile cache body renderer.delimiters with
  | mk result after =>
    rw [hc] at hresult hsound
    cases result with
    | ok t =>
      simp only [check, hc]
      exact ⟨hsound, fun hissues => ⟨hissues, t, hresult.symm⟩⟩
    | error e =>
      simp only [check, hc]
      exact ⟨hsound, fun hissues => absurd hissues (by simp)⟩

theorem foldl_check {layouts : List (String × BodyKind × String)} {issues : List TemplateIssue}
    {cache : Cache} (h : cache.Sound) :
    (layouts.foldl check (issues, cache)).2.Sound ∧
      ((layouts.foldl check (issues, cache)).1 = [] →
        issues = [] ∧ ∀ l ∈ layouts, ∃ t, Template.compile l.2.2 renderer.delimiters = .ok t) := by
  induction layouts generalizing issues cache with
  | nil => exact ⟨h, fun hnil => ⟨hnil, fun _ hl => by cases hl⟩⟩
  | cons layout layouts ih =>
    obtain ⟨hsound, hissues⟩ := check_eq h issues layout
    obtain ⟨hrest, hnil⟩ := @ih (check (issues, cache) layout).1 _ hsound
    refine ⟨hrest, fun hempty => ?_⟩
    obtain ⟨hfirst, hlayouts⟩ := hnil hempty
    obtain ⟨rfl, ht⟩ := hissues hfirst
    exact ⟨rfl, List.forall_mem_cons.mpr ⟨ht, hlayouts⟩⟩

theorem sound_after {cache : Cache} (h : cache.Sound) (fm : Formatter) (c : Call) :
    (fm.after cache c).Sound := by
  have hrender : ∀ n, (fm.render n cache).2.Sound := by
    intro n
    unfold render
    split
    · exact h
    · exact (renderBody_eq h _ _).2
  cases c with
  | format o input => exact hrender _
  | render n => exact hrender n
  | validate => exact (foldl_check h).1
  | clear => exact cache.sound_clear

theorem sound_foldl_after {cache : Cache} (h : cache.Sound) (fm : Formatter) (calls : List Call) :
    (calls.foldl fm.after cache).Sound := by
  induction calls generalizing cache with
  | nil => exact h
  | cons c calls ih => exact ih (sound_after h fm c)

theorem exists_entry_of_body? {t : CountryTable} {key : String} {kind : BodyKind} {body : String}
    (h : t.body? key kind = some body) :
    ∃ code e, (code, e) ∈ t.entries ∧ kind.body? e = some body := by
  rw [CountryTable.body?, Option.orElse_eq_orElse, Option.orElse_eq_or, Option.or_eq_some_iff] at h
  obtain h | ⟨_, h⟩ := h
  · obtain ⟨e, he, hbody⟩ := Option.bind_eq_some_iff.mp h
    exact ⟨key, e, Table.mem_of_find? he, hbody⟩
  · obtain ⟨e, he, hbody⟩ := Option.bind_eq_some_iff.mp h
    exact ⟨_, e, Table.mem_of_find? he, hbody⟩

theorem mem_bodies_of_body? {e : CountryEntry} {kind : BodyKind} {body : String}
    (h : kind.body? e = some body) : (kind, body) ∈ bodies e := by
  cases kind with
  | address =>
    have haddress : e.addressTemplate = some body := h
    simp [bodies, haddress]
  | fallback =>
    have hfallback : e.fallbackTemplate = some body := h
    simp [bodies, hfallback]

theorem mem_layouts_of_body? {fm : Formatter} {key : String} {kind : BodyKind} {body : String}
    (h : fm.data.templates.body? key kind = some body) :
    ∃ code, (code, kind, body) ∈ fm.layouts := by
  obtain ⟨code, e, he, hbody⟩ := exists_entry_of_body? h
  have hmem := List.mem_map_of_mem (f := fun x => (code, x.1, x.2)) (mem_bodies_of_body? hbody)
  exact ⟨code, List.mem_flatMap.mpr ⟨(code, e), he, hmem⟩⟩

theorem exists_render_eq_ok {fm : Formatter} {cache : Cache} (h : cache.Sound)
    (hsteady : ∀ l ∈ fm.layouts, ∃ ps us, Steady l.2.2.toList ps us) (n : Normalized) :
    ∃ text, (fm.render n cache).1 = .ok text := by
  unfold render
  split
  · exact ⟨_, rfl⟩
  · rename_i body hbody
    obtain ⟨code, hlayout⟩ := mem_layouts_of_body? hbody
    obtain ⟨ps, us, hlayout⟩ := hsteady _ hlayout
    obtain ⟨text, htext⟩ := exists_renderBody_eq_ok h n.fields hlayout
    exact ⟨fm.finish n (cleanup text), congrArg (Except.map _) htext⟩

/-- A formatter that reports no issue, and none of whose layouts sets delimiters, formats every
address, whatever calls came before; and what a selector is given compiles at any depth. -/
theorem exists_format_eq_ok (fm : Formatter)
    (hstill : ∀ l ∈ fm.layouts, ∀ p ∈ (Pieces.read renderer.delimiters 0 0 l.2.2.toList).list,
      p.setsDelimiters = false)
    (earlier : List Call) (hvalid : (fm.validate (earlier.foldl fm.after .empty)).1 = [])
    (calls : List Call) (o : FormatOptions) (input : Fields) :
    (∃ out, (fm.format o input (calls.foldl fm.after .empty)).1 = .ok out) ∧
      ∀ l ∈ fm.layouts, ∀ s, Selectable l.2.2 s →
        ∃ t, Template.compile s renderer.delimiters = .ok t := by
  have hearlier : (earlier.foldl fm.after .empty).Sound := sound_foldl_after Cache.sound_empty fm _
  have hcalls : (calls.foldl fm.after .empty).Sound := sound_foldl_after Cache.sound_empty fm _
  have hsteady : ∀ l ∈ fm.layouts, ∃ ps us, Steady l.2.2.toList ps us := by
    intro l hl
    obtain ⟨t, ht⟩ := ((foldl_check hearlier).2 hvalid).2 l hl
    exact Steady.exists_of_compile ht (hstill l hl)
  constructor
  · obtain ⟨text, htext⟩ := exists_render_eq_ok hcalls hsteady (fm.normalize o input)
    exact ⟨output o.output text, congrArg (Except.map (output o.output)) htext⟩
  · intro l hl s hs
    obtain ⟨ps, us, hlayout⟩ := hsteady l hl
    obtain ⟨qs, vs, hselected⟩ := hlayout.of_selectable hs
    have hcompile := hselected.compile
    rw [String.ofList_toList] at hcompile
    exact ⟨_, hcompile⟩

/-- A selector, and a field that holds a delimiter and double bars. -/
theorem exists_format_eq_ok_of_selector :
    ∃ fm : Formatter, fm.layouts = [("default", .fallback,
        "\x7b\x7b#first\x7d\x7d||\x7b\x7by\x7d\x7d\x7b\x7b/first\x7d\x7d")] ∧
      ∃ out, (fm.format {} (.ofList [("y", "\x7b\x7b||")])
        ([Call.format {} ∅, .validate].foldl fm.after .empty)).1 = .ok out := by
  refine ⟨⟨⟨.ofList [("default", { fallbackTemplate :=
      "\x7b\x7b#first\x7d\x7d||\x7b\x7by\x7d\x7d\x7b\x7b/first\x7d\x7d" })],
    .ofList [], ∅, ∅, ∅, ∅, ∅⟩, ∅, ∅, ∅⟩, rfl, ?_⟩
  exact (exists_format_eq_ok _ (by decide +kernel) [] (by decide +kernel) _ {} _).1

end Formatter

end PostalAddress
