import PostalAddress.Proofs.Template.Inert
import PostalAddress.Proofs.Template.Lambdaless
import PostalAddress.Proofs.Template.Memory
import PostalAddress.Proofs.Template.Placing

/-!
# Escaped rendering

A template is safe when its literal texts hold no markup and its insertions are escaped. When the
template and every partial that it comes to are safe, and the view holds nothing but data, the
rendered text is inert: what the values hold can bring no markup about.
-/

namespace PostalAddress

variable {κ : Type}

namespace Value

/-- A value as JSON has it, with neither computed values nor lambdas in it. -/
inductive Data : Value κ → Prop
  | null : Data .null
  | bool (b : Bool) : Data (.bool b)
  | number (x : Float) : Data (.number x)
  | string (s : String) : Data (.string s)
  | list {items : List (Value κ)} (h : ∀ v ∈ items, Data v) : Data (.list items)
  | map {es : List (String × Value κ)} (h : ∀ e ∈ es, Data e.2) : Data (.map es)

theorem hereditary_data : Hereditary (Data (κ := κ)) where
  property {v w name} h hw := by
    cases h with
    | list h =>
      rw [Value.property] at hw
      split at hw
      · obtain rfl := Option.some.inj hw
        exact .number _
      · obtain ⟨i, _, hi⟩ := Option.bind_eq_some_iff.mp hw
        exact h w (List.mem_of_getElem? hi)
    | map h => exact h _ (Table.mem_of_find? hw)
    | null => cases hw
    | bool => cases hw
    | number => cases hw
    | string => cases hw
  primitive {v w name} _ hw := by
    obtain ⟨x, rfl⟩ | ⟨s, rfl⟩ := eq_of_primitiveProperty hw
    · exact .number x
    · exact .string s

mutual

theorem data_ofJson : ∀ j : Json, (ofJson j : Value κ).Data
  | .null => .null
  | .bool b => .bool b
  | .whole _ => .number _
  | .real x => .number x
  | .string s => .string s
  | .array js => by
    rw [ofJson]
    exact .list (data_ofItems js)
  | .object ms => by
    rw [ofJson]
    refine .map fun e he => ?_
    exact data_ofMembers ms e (Table.mem_of_get?_ofList (Table.get?_eq_some_iff.mpr he))

theorem data_ofItems : ∀ js : List Json, ∀ v ∈ (ofItems js : List (Value κ)), v.Data
  | [] => by
    rw [ofItems]
    exact nofun
  | j :: js => by
    rw [ofItems, List.forall_mem_cons]
    exact ⟨data_ofJson j, data_ofItems js⟩

theorem data_ofMembers :
    ∀ ms : List (String × Json), ∀ e ∈ (ofMembers ms : List (String × Value κ)), e.2.Data
  | [] => by
    rw [ofMembers]
    exact nofun
  | (_, j) :: ms => by
    rw [ofMembers, List.forall_mem_cons]
    exact ⟨data_ofJson j, data_ofMembers ms⟩

end

end Value

namespace Context

/-- Data is what it is whatever computed values give. -/
theorem settle_of_data (compute : Compute κ) (view : Value κ) {v : Value κ} (h : v.Data) :
    settle compute view (some v) = some v := by
  cases h <;> rfl

theorem data_valueOf (compute : Compute κ) {views : List (Value κ)}
    (h : ∀ v ∈ views, v.Data) {name : String} {v : Value κ}
    (hv : valueOf compute name views = some v) : v.Data := by
  cases views with
  | nil => cases hv
  | cons top views =>
    rw [valueOf] at hv
    cases hresolve : resolve name (top :: views) with
    | none =>
      rw [hresolve] at hv
      cases hv
    | some w =>
      have hw : w.Data := resolve_of_hereditary Value.hereditary_data h hresolve
      rw [hresolve, settle_of_data compute top hw] at hv
      exact Option.some.inj hv ▸ hw

end Context

/-- A literal text without markup, an escaped insertion, or what inserts nothing by itself. -/
def Leaf.IsSafe : Leaf → Prop
  | .text s => ∀ c ∈ s.toList, c ∉ Escape.markup
  | .var _ escaped => escaped = true
  | _ => True

instance : DecidablePred Leaf.IsSafe
  | .text s => inferInstanceAs (Decidable (∀ c ∈ s.toList, c ∉ Escape.markup))
  | .var _ escaped => inferInstanceAs (Decidable (escaped = true))
  | .inclusion .. => .isTrue trivial
  | .delimiters _ => .isTrue trivial
  | .comment => .isTrue trivial

/-- The sources that rendering a source comes to: the source itself, and the partials that its tags
and theirs ask for, indented as the tags stand. -/
inductive Partials.Includes (partials : Partials) (d : Delimiters) (source : String) :
    String → Prop
  | whole : Includes partials d source source
  | inclusion {s text name : String} {placement : Placement} {span : Span} {t : Template}
      (outer : Includes partials d source s) (compiled : Template.compile s d = .ok t)
      (mem : .leaf (.inclusion name placement) span ∈ Token.inOrderAll t.tokens)
      (found : partials name = some text) :
      Includes partials d source (Renderer.partialText text placement)

namespace Plain

/-- Whatever comes out, if anything does, is inert. -/
def IsInert (result : Rendered) : Prop :=
  ∀ text, result = .ok text → Escape.Inert text.toList

theorem isInert_ok {text : String} (h : Escape.Inert text.toList) : IsInert (.ok text) :=
  fun _ heq => Except.ok.inj heq ▸ h

theorem isInert_empty : IsInert (.ok "") := isInert_ok Escape.inert_nil

theorem IsInert.followedBy {a b : Rendered} (ha : IsInert a) (hb : IsInert b) :
    IsInert (a.followedBy b) := by
  intro text h
  obtain ⟨x, y, hx, hy, rfl⟩ := Rendered.followedBy_eq_ok_iff.mp h
  rw [String.toList_append]
  exact (ha x hx).append (hb y hy)

section Tokens

variable (compute : Compute κ) {partials : Partials} {sub : List (Value κ) → String → Rendered}
  (source : Option String)

theorem inert_renderVar (views : List (Value κ)) (name : String) :
    Escape.Inert (renderVar compute Escape.html views name true).toList := by
  unfold renderVar
  split
  · exact Escape.inert_nil
  · exact Escape.inert_nil
  · exact Value.inert_numberText _
  · exact Escape.inert_html _

theorem isInert_renderItems {children : Value κ → Rendered} {items : List (Value κ)}
    (h : ∀ v ∈ items, IsInert (children v)) : IsInert (renderItems children items) := by
  induction items with
  | nil => exact isInert_empty
  | cons v vs ih =>
    obtain ⟨hv, hvs⟩ := List.forall_mem_cons.mp h
    exact hv.followedBy (ih hvs)

/-- Data is no lambda, so a section comes to what its children do. -/
theorem isInert_renderBlock {sub : String → Rendered} {children : List (Value κ) → Rendered}
    (hchildren : ∀ views, (∀ v ∈ views, v.Data) → IsInert (children views))
    {views : List (Value κ)} (hviews : ∀ v ∈ views, v.Data) (span : Span) (closeStart : Nat)
    {v : Value κ} (hv : v.Data) :
    IsInert (renderBlock sub source children views span closeStart v) := by
  have hpushed : ∀ {v : Value κ}, v.Data → IsInert (children (v :: views)) := fun hv =>
    hchildren _ (List.forall_mem_cons.mpr ⟨hv, hviews⟩)
  cases hv with
  | list h => exact isInert_renderItems fun v hv => hpushed (h v hv)
  | map h => exact hpushed (.map h)
  | string s => exact hpushed (.string s)
  | number x => exact hpushed (.number x)
  | bool b => exact hchildren views hviews
  | null => exact hchildren views hviews

theorem isInert_renderLeaf {views : List (Value κ)} {l : Leaf} (h : l.IsSafe)
    (hsub : ∀ name placement, l = .inclusion name placement → ∀ text ∈ partials name,
      IsInert (sub views (Renderer.partialText text placement))) :
    IsInert (renderLeaf compute Escape.html partials sub views l) := by
  cases l with
  | text s => exact isInert_ok (Escape.inert_of_not_mem_markup h)
  | var name escaped =>
    obtain rfl : escaped = true := h
    exact isInert_ok (inert_renderVar compute views name)
  | inclusion name placement =>
    rw [renderLeaf]
    cases htext : partials name with
    | none => exact isInert_empty
    | some text => exact hsub name placement rfl text htext
  | delimiters d => exact isInert_empty
  | comment => exact isInert_empty

mutual

theorem isInert_renderTokens : ∀ (ts : List Token) (views : List (Value κ)),
    (∀ v ∈ views, v.Data) →
    (∀ l span, .leaf l span ∈ Token.inOrderAll ts → l.IsSafe ∧
      ∀ name placement, l = .inclusion name placement → ∀ text ∈ partials name,
        ∀ views, (∀ v ∈ views, v.Data) →
          IsInert (sub views (Renderer.partialText text placement))) →
    IsInert (renderTokens compute Escape.html partials sub source views ts)
  | [], _, _, _ => isInert_empty
  | t :: ts, views, hviews, h => by
    rw [renderTokens]
    exact (isInert_renderToken t views hviews fun l span hl =>
      h l span (List.mem_append_left _ hl)).followedBy
        (isInert_renderTokens ts views hviews fun l span hl =>
          h l span (List.mem_append_right _ hl))

theorem isInert_renderToken : ∀ (t : Token) (views : List (Value κ)),
    (∀ v ∈ views, v.Data) →
    (∀ l span, .leaf l span ∈ Token.inOrder t → l.IsSafe ∧
      ∀ name placement, l = .inclusion name placement → ∀ text ∈ partials name,
        ∀ views, (∀ v ∈ views, v.Data) →
          IsInert (sub views (Renderer.partialText text placement))) →
    IsInert (renderToken compute Escape.html partials sub source views t)
  | .leaf l span, views, hviews, h => by
    obtain ⟨hsafe, hsub⟩ := h l span List.mem_cons_self
    exact isInert_renderLeaf compute hsafe fun name placement hl text htext =>
      hsub name placement hl text htext views hviews
  | .block name inverted span closeStart children, views, hviews, h => by
    have hchildren : ∀ views : List (Value κ), (∀ v ∈ views, v.Data) →
        IsInert (renderTokens compute Escape.html partials sub source views children) :=
      fun views hviews => isInert_renderTokens children views hviews fun l span hl =>
        h l span (List.mem_cons_of_mem _ hl)
    rw [renderToken]
    cases inverted with
    | true =>
      simp only [if_true]
      split
      · exact isInert_empty
      · exact hchildren views hviews
    | false =>
      simp only [Bool.false_eq_true, if_false]
      split
      · rename_i v hv
        split
        · exact isInert_renderBlock source hchildren hviews span closeStart
            (Context.data_valueOf compute hviews hv)
        · exact isInert_empty
      · exact isInert_empty

end

end Tokens

theorem isInert_renderSource {r : Renderer} (hescape : r.escape = Escape.html)
    (compute : Compute κ) {partials : Partials} {source : String}
    (hsafe : ∀ s t, partials.Includes r.delimiters source s →
      Template.compile s r.delimiters = .ok t →
        ∀ l span, .leaf l span ∈ Token.inOrderAll t.tokens → l.IsSafe)
    (depth : Nat) {views : List (Value κ)} (hviews : ∀ v ∈ views, v.Data) {s : String}
    (hs : partials.Includes r.delimiters source s) :
    IsInert (renderSource r compute partials depth views s) := by
  induction depth generalizing views s with
  | zero =>
    intro text h
    cases h
  | succ depth ih =>
    rw [renderSource]
    cases ht : Template.compile s r.delimiters with
    | error e =>
      intro text h
      cases h
    | ok t =>
      rw [Except.bind, hescape]
      refine isInert_renderTokens compute _ t.tokens views hviews fun l span hl => ?_
      refine ⟨hsafe s t hs ht l span hl, ?_⟩
      rintro name placement rfl text htext views hviews
      exact ih hviews (.inclusion hs ht hl htext)

end Plain

namespace Renderer

/-- Escaping keeps markup out: when a template and all partials that it comes to hold no markup of
their own and insert nothing unescaped, then what is rendered against data has no character of
markup but ampersands, and each of them begins an entity. -/
theorem ampersand_of_render {r : Renderer} (hescape : r.escape = Escape.html) (compute : Compute κ)
    (partials : Partials) (source : String)
    (hsafe : ∀ s t, partials.Includes r.delimiters source s →
      Template.compile s r.delimiters = .ok t →
        ∀ l span, .leaf l span ∈ Token.inOrderAll t.tokens → l.IsSafe)
    {view : Value κ} (hview : view.Data) {cache : Cache} (hcache : cache.Faithful r.delimiters)
    {text : String} (h : (r.render compute partials source view cache).1 = .ok text) :
    (∀ c ∈ text.toList,
      c ∈ ['&', '<', '>', '\x22', '\x27', '/', '\x60', '='] → c = '&') ∧
    ∀ s u, text.toList = s ++ '&' :: u →
      ∃ e ∈ ["&amp;", "&lt;", "&gt;", "&quot;", "&#x27;", "&#x2F;", "&#x60;", "&#x3D;"],
        e.toList <+: '&' :: u := by
  rw [render_eq_plain r compute partials source view hcache] at h
  have hviews : ∀ v ∈ [view], v.Data := fun v hv => List.mem_singleton.mp hv ▸ hview
  have hinert := Plain.isInert_renderSource hescape compute hsafe r.depth hviews .whole text h
  exact ⟨hinert.ampersand, hinert.entity⟩

/-- Markup in a list that a section and an indented partial insert. -/
theorem ampersand_of_render_of_partial :
    ∃ text, (({} : Renderer).render (fun k : Empty => k.elim)
        (fun name => if name = "q" then some "\x7b\x7bp.0\x7d\x7d!" else none)
        "\x7b\x7b#p\x7d\x7d[\x7b\x7b.\x7d\x7d]\x7b\x7b/p\x7d\x7d\n \x7b\x7b>q\x7d\x7d"
        (.ofJson (.object [("p", .array [.string "<a b='&lt;'>"])])) Cache.empty).1 = .ok text ∧
      text = "[&lt;a b&#x3D;&#x27;&amp;lt;&#x27;&gt;]\n &lt;a b&#x3D;&#x27;&amp;lt;&#x27;&gt;!" ∧
      (∀ c ∈ text.toList,
        c ∈ ['&', '<', '>', '\x22', '\x27', '/', '\x60', '='] → c = '&') ∧
      ∀ s u, text.toList = s ++ '&' :: u →
        ∃ e ∈ ["&amp;", "&lt;", "&gt;", "&quot;", "&#x27;", "&#x2F;", "&#x60;", "&#x3D;"],
          e.toList <+: '&' :: u := by
  have hrun : (({} : Renderer).render (fun k : Empty => k.elim)
      (fun name => if name = "q" then some "\x7b\x7bp.0\x7d\x7d!" else none)
      "\x7b\x7b#p\x7d\x7d[\x7b\x7b.\x7d\x7d]\x7b\x7b/p\x7d\x7d\n \x7b\x7b>q\x7d\x7d"
      (.ofJson (.object [("p", .array [.string "<a b='&lt;'>"])])) Cache.empty).1 =
        .ok "[&lt;a b&#x3D;&#x27;&amp;lt;&#x27;&gt;]\n &lt;a b&#x3D;&#x27;&amp;lt;&#x27;&gt;!" := by
    decide +kernel
  refine ⟨_, hrun, rfl, ?_⟩
  refine ampersand_of_render rfl _ _ _ ?_ (Value.data_ofJson _) (Cache.faithful_empty _) hrun
  have hwhole : Template.compile
      "\x7b\x7b#p\x7d\x7d[\x7b\x7b.\x7d\x7d]\x7b\x7b/p\x7d\x7d\n \x7b\x7b>q\x7d\x7d" .braces = .ok
        ⟨"\x7b\x7b#p\x7d\x7d[\x7b\x7b.\x7d\x7d]\x7b\x7b/p\x7d\x7d\n \x7b\x7b>q\x7d\x7d", .braces,
          [.block "p" false ⟨0, 6⟩ 13
            [.leaf (.text "[") ⟨6, 7⟩, .leaf (.var "." true) ⟨7, 12⟩, .leaf (.text "]") ⟨12, 13⟩],
          .leaf (.text "\n") ⟨19, 20⟩, .leaf (.inclusion "q" ⟨" ", 0, false⟩) ⟨21, 27⟩]⟩ := by
    rw [Template.compile_of_proper Delimiters.proper_braces, flatTokens_eq]
    rfl
  have hpartial : Template.compile " \x7b\x7bp.0\x7d\x7d!" .braces = .ok
      ⟨" \x7b\x7bp.0\x7d\x7d!", .braces, [.leaf (.text " ") ⟨0, 1⟩, .leaf (.var "p.0" true) ⟨1, 8⟩,
        .leaf (.text "!") ⟨8, 9⟩]⟩ := by
    rw [Template.compile_of_proper Delimiters.proper_braces, flatTokens_eq]
    rfl
  have hsources : ∀ s, Partials.Includes
      (fun name => if name = "q" then some "\x7b\x7bp.0\x7d\x7d!" else none) .braces
      "\x7b\x7b#p\x7d\x7d[\x7b\x7b.\x7d\x7d]\x7b\x7b/p\x7d\x7d\n \x7b\x7b>q\x7d\x7d" s →
        s = "\x7b\x7b#p\x7d\x7d[\x7b\x7b.\x7d\x7d]\x7b\x7b/p\x7d\x7d\n \x7b\x7b>q\x7d\x7d" ∨
          s = " \x7b\x7bp.0\x7d\x7d!" := by
    intro s hs
    induction hs with
    | whole => exact .inl rfl
    | inclusion outer compiled mem found ih =>
      obtain rfl | rfl := ih
      · obtain rfl := Except.ok.inj (hwhole.symm.trans compiled)
        simp only [Token.inOrderAll, Token.inOrder, List.mem_cons, List.mem_append,
          List.not_mem_nil, Token.leaf.injEq, Leaf.inclusion.injEq, reduceCtorEq, false_and,
          or_false, false_or] at mem
        obtain ⟨⟨rfl, rfl⟩, -⟩ := mem
        obtain rfl := Option.some.inj found
        exact .inr rfl
      · obtain rfl := Except.ok.inj (hpartial.symm.trans compiled)
        simp [Token.inOrderAll, Token.inOrder] at mem
  intro s t hs ht l span hl
  obtain rfl | rfl := hsources s hs
  · obtain rfl := Except.ok.inj (hwhole.symm.trans ht)
    simp only [Token.inOrderAll, Token.inOrder, List.mem_cons, List.mem_append,
      List.not_mem_nil, Token.leaf.injEq, reduceCtorEq, or_false, false_or] at hl
    rcases hl with (⟨rfl, -⟩ | ⟨rfl, -⟩ | ⟨rfl, -⟩) | ⟨rfl, -⟩ | ⟨rfl, -⟩ <;> decide
  · obtain rfl := Except.ok.inj (hpartial.symm.trans ht)
    simp only [Token.inOrderAll, Token.inOrder, List.mem_cons, List.mem_append,
      List.not_mem_nil, Token.leaf.injEq, or_false] at hl
    rcases hl with ⟨rfl, -⟩ | ⟨rfl, -⟩ | ⟨rfl, -⟩ <;> decide

end Renderer

end PostalAddress
