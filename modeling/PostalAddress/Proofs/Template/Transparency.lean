import PostalAddress.Proofs.Template.Simulation

/-!
# Sessions with a cache and without

A session answers the same whether it keeps compiled templates or not, and what it keeps is what
compiling gives, once for every source and delimiters that were compiled since the cache was last
cleared.
-/

namespace PostalAddress

variable {σ σ' κ : Type}

/-- The delimiters that a request brings along hold no colon. -/
def Request.Colonless : Request κ → Prop
  | .use r => r.delimiters.Colonless
  | .compile _ d => d.Colonless
  | .render _ _ _ => True
  | .renderIn _ _ _ => True
  | .clear => True

instance : DecidablePred (Request.Colonless (κ := κ))
  | .use r => inferInstanceAs (Decidable r.delimiters.Colonless)
  | .compile _ d => inferInstanceAs (Decidable d.Colonless)
  | .render _ _ _ => .isTrue trivial
  | .renderIn _ _ _ => .isTrue trivial
  | .clear => .isTrue trivial

namespace Cache

theorem alike_off : Alike fun c c' : Cache => c.Sound ∧ c' = .off where
  compile source d h hd := by
    obtain ⟨hc, rfl⟩ := h
    obtain ⟨hresult, hsound⟩ := hc.compile source hd
    obtain ⟨hoff, _⟩ := sound_off.compile source hd
    refine ⟨hresult.trans hoff.symm, hsound, ?_⟩
    have hnone : TemplateCache.get? Cache.off (d.cacheKey source) = none := rfl
    cases ht : Template.compile source d with
    | ok t => rw [TemplateCache.compile_miss hnone ht]; rfl
    | error e => rw [TemplateCache.compile_fault hnone ht]
  clear h := by
    obtain ⟨_, rfl⟩ := h
    exact ⟨sound_clear _, rfl⟩

theorem alike_journal : Alike Tracks where
  compile source _ h hd := h.compile source hd
  clear h := h.clear

end Cache

namespace Session

variable [TemplateCache σ] [TemplateCache σ'] {R : σ → σ' → Prop} {s : Session σ} {s' : Session σ'}

/-- Two sessions with one renderer and related caches. -/
structure Related (R : σ → σ' → Prop) (s : Session σ) (s' : Session σ') : Prop where
  renderer : s'.renderer = s.renderer
  colonless : s.renderer.delimiters.Colonless
  cache : R s.cache s'.cache

theorem Related.step (hR : Alike R) (h : Related R s s') (compute : Compute κ) {q : Request κ}
    (hq : q.Colonless) :
    (s'.step compute q).1 = (s.step compute q).1 ∧
      Related R (s.step compute q).2 (s'.step compute q).2 := by
  obtain ⟨r, c⟩ := s
  obtain ⟨r', c'⟩ := s'
  obtain ⟨rfl, hr, hc⟩ := h
  cases q with
  | use r => exact ⟨rfl, rfl, hq, hc⟩
  | compile source d =>
    obtain ⟨hresult, hcaches⟩ := hR.compile source hc hq
    exact ⟨congrArg Reply.template hresult.symm, rfl, hr, hcaches⟩
  | render partials source view =>
    obtain ⟨result, d, d', hm, hm', hd⟩ :=
      Renderer.exists_render hR hr compute partials source view hc
    rw [Session.step, Session.step, hm, hm']
    exact ⟨rfl, rfl, hr, hd⟩
  | renderIn partials source context =>
    obtain ⟨result, x, d, d', hm, hm', hd⟩ :=
      Renderer.sim_renderIn hR hr compute partials source c c' context hc
    rw [Session.step, Session.step, hm, hm']
    exact ⟨rfl, rfl, hr, hd⟩
  | clear => exact ⟨rfl, rfl, hr, hR.clear hc⟩

theorem Related.run (hR : Alike R) (h : Related R s s') (compute : Compute κ)
    {qs : List (Request κ)} (hqs : ∀ q ∈ qs, q.Colonless) :
    (s'.run compute qs).1 = (s.run compute qs).1 ∧
      Related R (s.run compute qs).2 (s'.run compute qs).2 := by
  induction qs generalizing s s' with
  | nil => exact ⟨rfl, h⟩
  | cons q qs ih =>
    obtain ⟨hq, hqs⟩ := List.forall_mem_cons.mp hqs
    obtain ⟨hreply, hstep⟩ := h.step hR compute hq
    obtain ⟨hreplies, hrun⟩ := ih hstep hqs
    exact ⟨congrArg₂ List.cons hreply hreplies, hrun⟩

/-- A session answers the same with a cache as without, and a rendering in a context leaves the same
context. Each entry of the cache is what compiling gives for its own source and delimiters, under
their key; what does not compile leaves the cache alone; and there is one entry for each source and
delimiters compiled since the cache was last cleared. -/
theorem run_memory (compute : Compute κ) (r : Renderer) (hr : r.delimiters.Colonless)
    (qs : List (Request κ)) (hqs : ∀ q ∈ qs, q.Colonless) :
    ∃ replies s, run compute ⟨r, Cache.empty⟩ qs = (replies, s) ∧
      (run compute ⟨r, Cache.off⟩ qs).1 = replies ∧
      (∀ partials source x, ∃ result y c c',
        s.renderer.renderIn compute partials source ⟨s.cache, x⟩ = (result, ⟨c, y⟩) ∧
        s.renderer.renderIn compute partials source ⟨Cache.off, x⟩ = (result, ⟨c', y⟩)) ∧
      (∀ key t, s.cache.get? key = some t → key = t.delimiters.cacheKey t.source ∧
        Template.compile t.source t.delimiters = .ok t) ∧
      (∀ source d e c, TemplateCache.compile s.cache source d = (.error e, c) → c = s.cache) ∧
      s.cache.size = (run compute ⟨r, Journal.empty⟩ qs).2.cache.requests.dedup.length := by
  have hoff : Related (fun c c' : Cache => c.Sound ∧ c' = .off)
      ⟨r, Cache.empty⟩ ⟨r, Cache.off⟩ :=
    ⟨rfl, hr, Cache.sound_empty, rfl⟩
  have hjournal : Related Cache.Tracks ⟨r, Cache.empty⟩ ⟨r, Journal.empty⟩ :=
    ⟨rfl, hr, Cache.tracks_empty⟩
  obtain ⟨hreplies, hrun⟩ := hoff.run Cache.alike_off compute hqs
  obtain ⟨_, hcount⟩ := hjournal.run Cache.alike_journal compute hqs
  refine ⟨_, _, rfl, hreplies, ?_, ?_, ?_, hcount.cache.size⟩
  · intro partials source x
    obtain ⟨result, y, c, c', hm, hm', _⟩ := Renderer.sim_renderIn Cache.alike_off
      hrun.colonless compute partials source _ Cache.off x ⟨hrun.cache.1, rfl⟩
    exact ⟨result, y, c, c', hm, hm'⟩
  · intro key t hget
    exact (hrun.cache.1 key t hget).2
  · intro source d e c hcompile
    exact TemplateCache.eq_of_compile_error hcompile

/-- A colon in a source, other delimiters, and a partial: four templates are kept. -/
theorem run_memory_of_partial :
    ∃ replies s, run (κ := Empty) (fun k _ => k.elim) ⟨{}, Cache.empty⟩
        [.compile "a:<:>" .braces, .compile "a" ⟨"<", ">"⟩,
          .render (fun _ => some "b") "\x7b\x7b>p\x7d\x7d" .null] = (replies, s) ∧
      (run (κ := Empty) (fun k _ => k.elim) ⟨{}, Cache.off⟩
        [.compile "a:<:>" .braces, .compile "a" ⟨"<", ">"⟩,
          .render (fun _ => some "b") "\x7b\x7b>p\x7d\x7d" .null]).1 = replies ∧
      s.cache.size = 4 := by
  obtain ⟨replies, s, hrun, hoff, _, _, _, hsize⟩ := run_memory (κ := Empty) (fun k _ => k.elim) {}
    (by decide)
    [.compile "a:<:>" .braces, .compile "a" ⟨"<", ">"⟩,
      .render (fun _ => some "b") "\x7b\x7b>p\x7d\x7d" .null]
    (by decide)
  exact ⟨replies, s, hrun, hoff, hsize.trans (by decide +kernel)⟩

end Session

end PostalAddress
