import PostalAddress.Template.Renderer

/-!
# Rendering without a state

What tokens render to depends on the views alone: neither what names led to before nor what was
compiled before changes it. `Plain` says so in functions, where a text is followed by another or the
first of their errors is the outcome.
-/

namespace PostalAddress

variable {κ : Type}

/-- What a name stands for, with the innermost view first. -/
def Context.valueOf (compute : Compute κ) (name : String) : List (Value κ) → Option (Value κ)
  | [] => none
  | v :: vs => settle compute v (resolve name (v :: vs))

abbrev Rendered := Except TemplateError String

namespace Rendered

/-- One text after the other, or the first error of the two. -/
def followedBy (a b : Rendered) : Rendered := a.bind fun s => b.map (s ++ ·)

@[simp] theorem ok_followedBy_ok (s s' : String) :
    followedBy (.ok s) (.ok s') = .ok (s ++ s') := rfl

@[simp] theorem error_followedBy (e : TemplateError) (b : Rendered) :
    followedBy (.error e) b = .error e := rfl

@[simp] theorem empty_followedBy (b : Rendered) : followedBy (.ok "") b = b := by
  cases b with
  | error e => rfl
  | ok s => rw [ok_followedBy_ok, String.empty_append]

@[simp] theorem followedBy_empty (a : Rendered) : followedBy a (.ok "") = a := by
  cases a with
  | error e => rfl
  | ok s => rw [ok_followedBy_ok, String.append_empty]

theorem followedBy_assoc (a b c : Rendered) :
    (a.followedBy b).followedBy c = a.followedBy (b.followedBy c) := by
  cases a with
  | error e => rfl
  | ok s =>
    cases b with
    | error e => rfl
    | ok s' =>
      cases c with
      | error e => rfl
      | ok s'' => exact congrArg Except.ok String.append_assoc

theorem followedBy_eq_ok_iff {a b : Rendered} {s : String} :
    a.followedBy b = .ok s ↔ ∃ x y, a = .ok x ∧ b = .ok y ∧ s = x ++ y := by
  cases a with
  | error e => simp
  | ok x =>
    cases b with
    | error e => simp [followedBy, Except.bind, Except.map]
    | ok y => simp [eq_comm]

end Rendered

namespace Plain

def renderVar (compute : Compute κ) (escape : String → String) (views : List (Value κ))
    (name : String) (escaped : Bool) : String :=
  match Context.valueOf compute name views with
  | none => ""
  | some .null => ""
  | some (.number x) => Value.numberText x
  | some v => if escaped then escape v.toText else v.toText

def runLambda (sub : String → Rendered) : LambdaStep → Rendered
  | .answer result => result
  | .render text next => runLambda sub (next (sub text))

def renderItems (children : Value κ → Rendered) : List (Value κ) → Rendered
  | [] => .ok ""
  | v :: vs => (children v).followedBy (renderItems children vs)

def renderBlock (sub : String → Rendered) (source : Option String)
    (children : List (Value κ) → Rendered) (views : List (Value κ)) (span : Span)
    (closeStart : Nat) : Value κ → Rendered
  | .list items => renderItems (fun v => children (v :: views)) items
  | .lambda call =>
    match source.bind fun s => Template.sectionSource s span closeStart with
    | none => .error .missingSource
    | some body => runLambda sub (call body)
  | .map es => children (.map es :: views)
  | .string s => children (.string s :: views)
  | .number x => children (.number x :: views)
  | .bool _ => children views
  | .null => children views
  | .computed _ => children views

section Tokens

variable (compute : Compute κ) (escape : String → String) (partials : Partials)
  (sub : List (Value κ) → String → Rendered) (source : Option String)

def renderLeaf (views : List (Value κ)) : Leaf → Rendered
  | .text s => .ok s
  | .var name escaped => .ok (renderVar compute escape views name escaped)
  | .inclusion name placement =>
    match partials name with
    | none => .ok ""
    | some text => sub views (Renderer.partialText text placement)
  | .delimiters _ => .ok ""
  | .comment => .ok ""

mutual

def renderTokens (views : List (Value κ)) : List Token → Rendered
  | [] => .ok ""
  | t :: ts => (renderToken views t).followedBy (renderTokens views ts)

def renderToken (views : List (Value κ)) : Token → Rendered
  | .leaf l _ => renderLeaf compute escape partials sub views l
  | .block name inverted span closeStart children =>
    let v := Context.valueOf compute name views
    let shown := v.any Value.isTruthy
    if inverted then
      if shown then .ok "" else renderTokens views children
    else
      match v with
      | some v =>
        if shown then
          renderBlock (sub views) source (fun views => renderTokens views children) views span
            closeStart v
        else .ok ""
      | none => .ok ""

end

end Tokens

/-- Renders a source, with at most `depth` sources inside each other. -/
def renderSource (r : Renderer) (compute : Compute κ) (partials : Partials) :
    (depth : Nat) → List (Value κ) → String → Rendered
  | 0, _, _ => .error .nestedTooDeeply
  | depth + 1, views, source =>
    (Template.compile source r.delimiters).bind fun t =>
      renderTokens compute r.escape partials (renderSource r compute partials depth)
        (some t.source) views t.tokens

end Plain

end PostalAddress
