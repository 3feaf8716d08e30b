import PostalAddress.Address.Alternatives
import PostalAddress.Proofs.Template.Escaped
import PostalAddress.Proofs.Template.Reaching

/-!
# Views that cannot be told apart

A template asks a view for the names of its tags, or for their first segments where they are paths.
Two views without lambdas that have the same values there are rendered alike, whatever else they
hold, and although either may come to stand on top of the context as a whole.
-/

namespace PostalAddress

namespace Context

/-- What a view is asked for where a name is looked up: the first segment of a path. -/
def keyOf (name : String) : String := (segments name).headD name

variable {κ : Type} {es es' : List (String × Value κ)} {name : String}

theorem resolveIn_map_congr (h : Table.find? (keyOf name) es = Table.find? (keyOf name) es') :
    resolveIn name (.map es) = resolveIn name (.map es') := by
  unfold resolveIn
  rw [keyOf] at h
  cases hsegments : segments name with
  | nil => rwa [hsegments] at h
  | cons segment rest =>
    rw [hsegments] at h
    have hstep : step? (.map es) segment = step? (.map es') segment := congrArg (· <|> none) h
    dsimp only
    rw [walk?, walk?, hstep]

end Context

namespace Value

/-- Values at one place in two contexts that differ by the views they begin with. -/
inductive Twin {κ : Type} (es es' : List (String × Value κ)) : Value κ → Value κ → Prop
  | same {v : Value κ} (h : v.Lambdaless) : Twin es es' v v
  | view (h : ∀ e ∈ es, e.2.Lambdaless) : Twin es es' (.map es) (.map es')

theorem Twin.lambdaless {κ : Type} {es es' : List (String × Value κ)} {v v' : Value κ}
    (h : v.Twin es es' v') : v.Lambdaless := by
  cases h with
  | same h => exact h
  | view h => exact .map h

theorem Data.lambdaless {κ : Type} {v : Value κ} (h : v.Data) : v.Lambdaless := by
  induction h with
  | null => exact .null
  | bool b => exact .bool b
  | number x => exact .number x
  | string s => exact .string s
  | list _ ih => exact .list ih
  | map _ ih => exact .map ih

end Value

/-- What a name stands for in two contexts that differ by the views they begin with. -/
inductive Answers (es es' : List (String × Value Selector)) :
    Option (Value Selector) → Option (Value Selector) → Prop
  | missing : Answers es es' none none
  | twin {v v' : Value Selector} (h : v.Twin es es' v') : Answers es es' (some v) (some v')
  | choice : Answers es es' (some (.lambda Alternatives.choose)) (some (.lambda Alternatives.choose))

namespace Answers

variable {es es' : List (String × Value Selector)} {views views' : List (Value Selector)}

/-- The selector answers for itself. -/
theorem settle (view view' : Value Selector) {o : Option (Value Selector)}
    (h : ∀ v ∈ o, v.Lambdaless) :
    Answers es es' (Context.settle Selector.compute view o)
      (Context.settle Selector.compute view' o) := by
  cases o with
  | none => exact .missing
  | some v =>
    have hv := h v rfl
    cases v with
    | computed k => exact .choice
    | _ => exact .twin (.same hv)

theorem settle_twin (view view' : Value Selector) {v v' : Value Selector}
    (h : v.Twin es es' v') :
    Answers es es' (Context.settle Selector.compute view (some v))
      (Context.settle Selector.compute view' (some v')) := by
  cases h with
  | same h => exact settle view view' fun w hw => Option.some.inj hw ▸ h
  | view h => exact .twin (.view h)

variable (hviews : List.Forall₂ (Value.Twin es es') views views') {name : String}

include hviews

theorem resolve_eq (hname : name ≠ ".")
    (hagree : Table.find? (Context.keyOf name) es = Table.find? (Context.keyOf name) es') :
    Context.resolve name views = Context.resolve name views' := by
  rw [Context.resolve, Context.resolve, if_neg hname, if_neg hname]
  induction hviews with
  | nil => rfl
  | cons h _ ih =>
    rw [List.findSome?_cons, List.findSome?_cons, ih]
    cases h with
    | same => rfl
    | view => rw [Context.resolveIn_map_congr hagree]

theorem lambdaless_of_mem : ∀ v ∈ views, v.Lambdaless := by
  induction hviews with
  | nil => exact nofun
  | cons h _ ih => exact List.forall_mem_cons.mpr ⟨h.lambdaless, ih⟩

theorem valueOf (hagree : name ≠ "." →
      Table.find? (Context.keyOf name) es = Table.find? (Context.keyOf name) es') :
    Answers es es' (Context.valueOf Selector.compute name views)
      (Context.valueOf Selector.compute name views') := by
  have hlambdaless := lambdaless_of_mem hviews
  cases hviews with
  | nil => exact .missing
  | @cons v v' views views' htop hrest =>
    by_cases hname : name = "."
    · subst hname
      exact settle_twin v v' htop
    · rw [Context.valueOf, Context.valueOf,
        ← resolve_eq (.cons htop hrest) hname (hagree hname)]
      exact settle v v' fun w hw =>
        Context.resolve_of_hereditary Value.hereditary_lambdaless hlambdaless hw

end Answers

namespace Plain

variable {es es' : List (String × Value Selector)} {views views' : List (Value Selector)}

theorem renderVar_congr (escape : String → String) {name : String} (escaped : Bool)
    (h : Answers es es' (Context.valueOf Selector.compute name views)
      (Context.valueOf Selector.compute name views')) :
    renderVar Selector.compute escape views name escaped =
      renderVar Selector.compute escape views' name escaped := by
  unfold renderVar
  generalize Context.valueOf Selector.compute name views = o at h ⊢
  generalize Context.valueOf Selector.compute name views' = o' at h ⊢
  cases h with
  | missing => rfl
  | twin h =>
    cases h with
    | same => rfl
    -- No view has a text of its own.
    | view => rfl
  | choice => rfl

/-- Texts that render alike in contexts with twin views. -/
def Renders (es es' : List (String × Value Selector))
    (sub : List (Value Selector) → String → Rendered) (text : String) : Prop :=
  ∀ views views', List.Forall₂ (Value.Twin es es') views views' → sub views text = sub views' text

section Sections

variable {sub : List (Value Selector) → String → Rendered}
  (hviews : List.Forall₂ (Value.Twin es es') views views')

include hviews

theorem renderItems_congr {children : List (Value Selector) → Rendered}
    (hchildren : ∀ views views', List.Forall₂ (Value.Twin es es') views views' →
      children views = children views') {items : List (Value Selector)}
    (hitems : ∀ v ∈ items, v.Lambdaless) :
    renderItems (fun v => children (v :: views)) items =
      renderItems (fun v => children (v :: views')) items := by
  induction items with
  | nil => rfl
  | cons v items ih =>
    obtain ⟨hv, hitems⟩ := List.forall_mem_cons.mp hitems
    rw [renderItems, renderItems, hchildren _ _ (.cons (.same hv) hviews), ih hitems]

/-- The selector has nothing rendered but the source of its section. -/
theorem renderBlock_congr {source : Option String} {children : List (Value Selector) → Rendered}
    (hchildren : ∀ views views', List.Forall₂ (Value.Twin es es') views views' →
      children views = children views') {span : Span} {closeStart : Nat}
    (hbody : ∀ s ∈ source, ∀ body ∈ Template.sectionSource s span closeStart,
      Renders es es' sub body)
    {v v' : Value Selector} (h : Answers es es' (some v) (some v')) :
    renderBlock (sub views) source children views span closeStart v =
      renderBlock (sub views') source children views' span closeStart v' := by
  have hpushed : ∀ {v v' : Value Selector}, v.Twin es es' v' →
      children (v :: views) = children (v' :: views') := fun h => hchildren _ _ (.cons h hviews)
  cases h with
  | twin h =>
    cases h with
    | view h => exact hpushed (.view h)
    | same h =>
      cases h with
      | list h => exact renderItems_congr hviews hchildren h
      | map h => exact hpushed (.same (.map h))
      | string s => exact hpushed (.same (.string s))
      | number x => exact hpushed (.same (.number x))
      | bool b => exact hchildren _ _ hviews
      | null => exact hchildren _ _ hviews
      | computed k => exact hchildren _ _ hviews
  | choice =>
    rw [renderBlock, renderBlock]
    cases hslice : source.bind fun s => Template.sectionSource s span closeStart with
    | none => rfl
    | some body =>
      obtain ⟨s, hs, hslice⟩ := Option.bind_eq_some_iff.mp hslice
      dsimp only
      rw [Alternatives.choose, runLambda, runLambda, hbody s hs body hslice _ _ hviews]
      cases sub views' body <;> rfl

end Sections

section Tokens

variable {sub : List (Value Selector) → String → Rendered}

/-- The views agree on the name. -/
def Agrees (es es' : List (String × Value Selector)) (name : String) : Prop :=
  name ≠ "." → Table.find? (Context.keyOf name) es = Table.find? (Context.keyOf name) es'

/-- The views agree on what the token asks for, and the sources that it has rendered render alike. -/
def IsMatched (es es' : List (String × Value Selector)) (partials : Partials)
    (sub : List (Value Selector) → String → Rendered) (source : Option String) : Token → Prop
  | .leaf (.var name _) _ => Agrees es es' name
  | .leaf (.inclusion name placement) _ => ∀ text ∈ partials name,
      Renders es es' sub (Renderer.partialText text placement)
  | .leaf _ _ => True
  | .block name _ span closeStart _ => Agrees es es' name ∧
      ∀ s ∈ source, ∀ body ∈ Template.sectionSource s span closeStart, Renders es es' sub body

variable (escape : String → String) (partials : Partials) (source : Option String)

theorem renderLeaf_congr (hviews : List.Forall₂ (Value.Twin es es') views views') {l : Leaf}
    {span : Span} (h : IsMatched es es' partials sub source (.leaf l span)) :
    renderLeaf Selector.compute escape partials sub views l =
      renderLeaf Selector.compute escape partials sub views' l := by
  cases l with
  | text s => rfl
  | var name escaped =>
    exact congrArg Except.ok (renderVar_congr escape escaped (Answers.valueOf hviews h))
  | inclusion name placement =>
    rw [renderLeaf, renderLeaf]
    cases htext : partials name with
    | none => rfl
    | some text => exact h text htext _ _ hviews
  | delimiters d => rfl
  | comment => rfl

mutual

theorem renderTokens_congr : ∀ (ts : List Token) (views views' : List (Value Selector)),
    List.Forall₂ (Value.Twin es es') views views' →
    (∀ t ∈ Token.inOrderAll ts, IsMatched es es' partials sub source t) →
    renderTokens Selector.compute escape partials sub source views ts =
      renderTokens Selector.compute escape partials sub source views' ts
  | [], _, _, _, _ => rfl
  | t :: ts, views, views', hviews, h => by
    rw [renderTokens, renderTokens,
      renderToken_congr t views views' hviews fun u hu => h u (List.mem_append_left _ hu),
      renderTokens_congr ts views views' hviews fun u hu => h u (List.mem_append_right _ hu)]

theorem renderToken_congr : ∀ (t : Token) (views views' : List (Value Selector)),
    List.Forall₂ (Value.Twin es es') views views' →
    (∀ u ∈ Token.inOrder t, IsMatched es es' partials sub source u) →
    renderToken Selector.compute escape partials sub source views t =
      renderToken Selector.compute escape partials sub source views' t
  | .leaf l span, views, views', hviews, h => by
    rw [renderToken, renderToken]
    exact renderLeaf_congr escape partials source hviews (h _ List.mem_cons_self)
  | .block name inverted span closeStart children, views, views', hviews, h => by
    obtain ⟨hname, hbody⟩ := h _ List.mem_cons_self
    have hchildren : ∀ views views' : List (Value Selector),
        List.Forall₂ (Value.Twin es es') views views' →
        renderTokens Selector.compute escape partials sub source views children =
          renderTokens Selector.compute escape partials sub source views' children :=
      fun views views' hviews => renderTokens_congr children views views' hviews fun u hu =>
        h u (List.mem_cons_of_mem _ hu)
    rw [renderToken, renderToken]
    have hanswers := Answers.valueOf hviews hname
    generalize Context.valueOf Selector.compute name views = o at hanswers ⊢
    generalize Context.valueOf Selector.compute name views' = o' at hanswers ⊢
    have hshown : o.any Value.isTruthy = o'.any Value.isTruthy := by
      cases hanswers with
      | missing => rfl
      | twin h => cases h <;> rfl
      | choice => rfl
    rw [hshown]
    cases inverted with
    | true =>
      simp only [if_true]
      split
      · rfl
      · exact hchildren _ _ hviews
    | false =>
      simp only [Bool.false_eq_true, if_false]
      cases o with
      | none =>
        cases hanswers
        rfl
      | some v =>
        cases o' with
        | none => cases hanswers
        | some v' =>
          dsimp only
          split
          · exact renderBlock_congr hviews hchildren hbody hanswers
          · rfl

end

end Tokens

end Plain

namespace Value

end Value

namespace Renderer

end Renderer

end PostalAddress
