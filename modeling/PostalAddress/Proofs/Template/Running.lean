import PostalAddress.Template.Renderer

/-!
# What the operations of rendering do to the state

One equation for each operation, from the outcome of its parts in a state to its own.
-/

namespace PostalAddress.Renderer

variable {σ κ α β : Type}

section Basic

variable {m : RenderM σ κ α} {next : α → RenderM σ κ β} {s s' : RenderState σ κ}

theorem bind_of_ok {a : α} (h : m s = (.ok a, s')) : (m >>= next) s = next a s' := by
  simp only [bind, ExceptT.bind, ExceptT.mk, StateT.bind, h, ExceptT.bindCont]

theorem bind_of_error {e : TemplateError} (h : m s = (.error e, s')) :
    (m >>= next) s = (.error e, s') := by
  simp only [bind, ExceptT.bind, ExceptT.mk, StateT.bind, h, ExceptT.bindCont]
  rfl

theorem pure_run (a : α) (s : RenderState σ κ) : (pure a : RenderM σ κ α) s = (.ok a, s) := rfl

theorem lookup_run (compute : Compute κ) (name : String) (s : RenderState σ κ) :
    (lookup compute name : RenderM σ κ _) s =
      (.ok (s.context.lookup compute name).1, ⟨s.cache, (s.context.lookup compute name).2⟩) := rfl

theorem compileM_run [TemplateCache σ] (d : Delimiters) (source : String) (s : RenderState σ κ) :
    (compileM d source : RenderM σ κ _) s =
      ((TemplateCache.compile s.cache source d).1,
        ⟨(TemplateCache.compile s.cache source d).2, s.context⟩) := by
  change compileM.liftExcept (TemplateCache.compile s.cache source d).1 _ = _
  cases (TemplateCache.compile s.cache source d).1 with
  | ok t => rfl
  | error e => rfl

theorem modify_run (f : RenderState σ κ → RenderState σ κ) (s : RenderState σ κ) :
    (modify f : RenderM σ κ _) s = (.ok (), f s) := rfl

theorem tryCatch_of_ok {handle : TemplateError → RenderM σ κ α} {a : α} (h : m s = (.ok a, s')) :
    (tryCatch m handle) s = (.ok a, s') := by
  simp only [tryCatch, tryCatchThe, MonadExceptOf.tryCatch, ExceptT.tryCatch, ExceptT.mk, bind,
    StateT.bind, h]
  rfl

theorem tryCatch_of_error {handle : TemplateError → RenderM σ κ α} {e : TemplateError}
    (h : m s = (.error e, s')) : (tryCatch m handle) s = handle e s' := by
  simp only [tryCatch, tryCatchThe, MonadExceptOf.tryCatch, ExceptT.tryCatch, ExceptT.mk, bind,
    StateT.bind, h]

theorem withView_run {v : Value κ} {m : RenderM σ κ String} {s : RenderState σ κ}
    {result : Except TemplateError String} {c : σ} {x : Context κ}
    (h : m ⟨s.cache, s.context.push v⟩ = (result, ⟨c, x⟩)) :
    withView v m s = (result, ⟨c, x.pop⟩) := by
  rw [withView, bind_of_ok (modify_run _ s)]
  cases result with
  | ok text =>
    refine tryCatch_of_ok ?_
    rw [bind_of_ok h, bind_of_ok (modify_run _ _)]
    rfl
  | error e =>
    rw [tryCatch_of_error (bind_of_error h), bind_of_ok (modify_run _ _)]
    rfl

theorem observing_run {m : RenderM σ κ String} {s s' : RenderState σ κ}
    {result : Except TemplateError String} (h : m s = (result, s')) :
    runLambda.observing m s = (.ok result, s') := by
  rw [runLambda.observing, map_eq_pure_bind]
  cases result with
  | ok text => exact tryCatch_of_ok (bind_of_ok h)
  | error e => rw [tryCatch_of_error (bind_of_error h), pure_run]

end Basic

end PostalAddress.Renderer
