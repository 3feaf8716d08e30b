import PostalAddress.Template.Compile

/-!
# Nesting flat tokens

`Nested ts us` says that the flat tokens `ts` nest to the tokens `us`, with every section closed
under its own name. Flat tokens of which none is left open nest in exactly one way, which is what
`nest` finds; and where the tree has a section, the flat tokens have its tags with the section's
own nested tokens between them.
-/

namespace PostalAddress

namespace FlatToken

/-- The names of the open sections after a token, innermost first. -/
def opened : List String → FlatToken → Option (List String)
  | names, .leaf _ _ => some names
  | names, .opening name _ _ => some (name :: names)
  | [], .closing _ _ => none
  | last :: names, .closing name _ => if last = name then some names else none

def delimitersAfter (d : Delimiters) : FlatToken → Delimiters
  | .leaf (.delimiters d') _ => d'
  | _ => d

end FlatToken

/-- A section of a template, and the delimiters in force after its opening tag. -/
structure Section where
  name : String
  inverted : Bool
  span : Span
  closeStart : Nat
  children : List Token
  delimiters : Delimiters

namespace Token

mutual

def delimitersAfter (d : Delimiters) : Token → Delimiters
  | .leaf (.delimiters d') _ => d'
  | .leaf _ _ => d
  | .block _ _ _ _ children => delimitersAfterAll d children

def delimitersAfterAll (d : Delimiters) : List Token → Delimiters
  | [] => d
  | t :: ts => delimitersAfterAll (delimitersAfter d t) ts

end

mutual

/-- The sections of a token at any depth, where `d` is in force before it. -/
def sections (d : Delimiters) : Token → List Section
  | .leaf _ _ => []
  | .block name inverted span closeStart children =>
    ⟨name, inverted, span, closeStart, children, d⟩ :: sectionsIn d children

def sectionsIn (d : Delimiters) : List Token → List Section
  | [] => []
  | t :: ts => sections d t ++ sectionsIn (delimitersAfter d t) ts

end

end Token

/-- The sections of a template at any depth. -/
def Template.sections (t : Template) : List Section := Token.sectionsIn t.delimiters t.tokens

inductive Nested : List FlatToken → List Token → Prop
  | nil : Nested [] []
  | leaf (l : Leaf) (span : Span) {ts : List FlatToken} {us : List Token} (rest : Nested ts us) :
      Nested (.leaf l span :: ts) (.leaf l span :: us)
  | block (name : String) (inverted : Bool) (span close : Span) {body ts : List FlatToken}
      {children us : List Token} (inner : Nested body children) (rest : Nested ts us) :
      Nested (.opening name inverted span :: (body ++ .closing name close :: ts))
        (.block name inverted span close.start children :: us)

namespace Nested

variable {ts : List FlatToken} {us : List Token}

theorem opened_eq (h : Nested ts us) (names : List String) :
    ts.foldlM FlatToken.opened names = some names := by
  induction h generalizing names with
  | nil => rfl
  | leaf l span rest ih => exact ih names
  | @block name inverted span close body ts children us inner rest ihb iht =>
    have hopen :
        (FlatToken.opening name inverted span :: (body ++ .closing name close :: ts)).foldlM
          FlatToken.opened names = (body ++ .closing name close :: ts).foldlM FlatToken.opened
          (name :: names) := rfl
    rw [hopen, List.foldlM_append, ihb]
    simpa [FlatToken.opened] using iht names

theorem delimitersAfterAll_eq (h : Nested ts us) (d : Delimiters) :
    Token.delimitersAfterAll d us = ts.foldl FlatToken.delimitersAfter d := by
  induction h generalizing d with
  | nil => rfl
  | leaf l span rest ih =>
    rw [Token.delimitersAfterAll, ih]
    cases l <;> rfl
  | block name inverted span close inner rest ihb iht =>
    rw [Token.delimitersAfterAll, Token.delimitersAfter, ihb, iht]
    simp only [List.foldl_cons, List.foldl_append]
    rfl

/-- Puts tokens at the end of the innermost open section, or of the root. -/
def attachAll (us : List Token) (root : List Token) :
    List OpenBlock → List Token × List OpenBlock
  | [] => (root ++ us, [])
  | b :: bs => (root, { b with children := b.children ++ us } :: bs)

theorem attachAll_nil (root : List Token) (blocks : List OpenBlock) :
    attachAll [] root blocks = (root, blocks) := by
  cases blocks <;> simp [attachAll]

theorem attachAll_cons (t : Token) (us root : List Token) (blocks : List OpenBlock) :
    attachAll (t :: us) root blocks =
      attachAll us (Token.attach t root blocks).1 (Token.attach t root blocks).2 := by
  cases blocks <;> simp [attachAll, Token.attach]

theorem nestFrom_append (h : Nested ts us) (root : List Token) (blocks : List OpenBlock)
    (rest : List FlatToken) :
    Token.nestFrom root blocks (ts ++ rest) =
      Token.nestFrom (attachAll us root blocks).1 (attachAll us root blocks).2 rest := by
  induction h generalizing root blocks rest with
  | nil =>
    rw [attachAll_nil]
    rfl
  | leaf l span _ ih =>
    rw [List.cons_append, Token.nestFrom, attachAll_cons]
    exact ih _ _ rest
  | block name inverted span close _ _ ihb iht =>
    rw [List.cons_append, Token.nestFrom, List.append_assoc, ihb, List.cons_append,
      attachAll_cons, attachAll, Token.nestFrom]
    exact iht _ _ rest

theorem nest_eq (h : Nested ts us) : Token.nest ts = .ok us := by
  have hnest := h.nestFrom_append [] [] []
  rw [List.append_nil] at hnest
  exact hnest

theorem unique {us' : List Token} (h : Nested ts us) (h' : Nested ts us') : us = us' := by
  have heq := h.nest_eq.symm.trans h'.nest_eq
  exact Except.ok.inj heq

/-- The tokens before the first closing tag of a section opened earlier nest by themselves. -/
theorem exists_before_closing {names : List String}
    (h : ts.foldlM FlatToken.opened names = some []) :
    ∃ body us rest, ts = body ++ rest ∧ Nested body us ∧
      (rest = [] ∨ ∃ name span rest', rest = .closing name span :: rest') := by
  generalize hn : ts.length = n
  induction n using Nat.strongRecOn generalizing ts names with
  | ind n ih =>
    cases ts with
    | nil => exact ⟨[], [], [], rfl, .nil, .inl rfl⟩
    | cons t ts =>
      simp only [List.length_cons] at hn
      cases t with
      | leaf l span =>
        have hin : ts.foldlM FlatToken.opened names = some [] := h
        obtain ⟨body, us, rest, rfl, hb, hrest⟩ := ih ts.length (by omega) hin rfl
        exact ⟨.leaf l span :: body, .leaf l span :: us, rest, rfl, .leaf l span hb, hrest⟩
      | closing name span => exact ⟨[], [], _, rfl, .nil, .inr ⟨name, span, ts, rfl⟩⟩
      | opening name inverted span =>
        have hin : ts.foldlM FlatToken.opened (name :: names) = some [] := h
        obtain ⟨body, us, rest, rfl, hb, hrest⟩ := ih ts.length (by omega) hin rfl
        rw [List.foldlM_append, hb.opened_eq] at hin
        obtain rfl | ⟨name', close, rest', rfl⟩ := hrest
        · cases hin
        · simp only [List.length_append, List.length_cons] at hn
          by_cases hname : name = name'
          · subst hname
            have hout : rest'.foldlM FlatToken.opened names = some [] := by
              simpa [FlatToken.opened] using hin
            obtain ⟨after, vs, rest, rfl, ha, hrest⟩ := ih rest'.length (by omega) hout rfl
            refine ⟨.opening name inverted span :: (body ++ .closing name close :: after), _,
              rest, ?_, .block name inverted span close hb ha, hrest⟩
            simp only [List.cons_append, List.append_assoc]
          · simp [FlatToken.opened, hname] at hin

theorem exists_of_opened (h : ts.foldlM FlatToken.opened [] = some []) : ∃ us, Nested ts us := by
  obtain ⟨body, us, rest, rfl, hb, hrest⟩ := exists_before_closing h
  rw [List.foldlM_append, hb.opened_eq] at h
  obtain rfl | ⟨name, span, rest', rfl⟩ := hrest
  · exact ⟨us, by rwa [List.append_nil]⟩
  · cases h

/-- The tags of a section stand around its nested tokens. -/
theorem exists_of_section (h : Nested ts us) {d : Delimiters} {x : Section}
    (hx : x ∈ Token.sectionsIn d us) :
    ∃ before body after close,
      ts = before ++ .opening x.name x.inverted x.span :: (body ++ .closing x.name close :: after) ∧
      close.start = x.closeStart ∧ Nested body x.children ∧
      x.delimiters = before.foldl FlatToken.delimitersAfter d := by
  induction h generalizing d with
  | nil => cases hx
  | leaf l span rest ih =>
    rw [Token.sectionsIn, Token.sections, List.nil_append] at hx
    obtain ⟨before, body, after, close, rfl, hclose, hbody, hd⟩ := ih hx
    refine ⟨.leaf l span :: before, body, after, close, rfl, hclose, hbody, ?_⟩
    rw [hd]
    cases l <;> rfl
  | @block name inverted span close body ts children us inner rest ihb iht =>
    rw [Token.sectionsIn, Token.sections, List.mem_append, List.mem_cons] at hx
    obtain (rfl | hx) | hx := hx
    · exact ⟨[], body, ts, close, rfl, rfl, inner, rfl⟩
    · obtain ⟨before, body', after, close', rfl, hclose, hbody, hd⟩ := ihb hx
      refine ⟨.opening name inverted span :: before, body', after ++ .closing name close :: ts,
        close', ?_, hclose, hbody, hd⟩
      simp only [List.cons_append, List.append_assoc]
    · obtain ⟨before, body', after, close', rfl, hclose, hbody, hd⟩ := iht hx
      refine ⟨.opening name inverted span :: (body ++ .closing name close :: before), body', after,
        close', ?_, hclose, hbody, ?_⟩
      · simp only [List.cons_append, List.append_assoc]
      · rw [hd, Token.delimitersAfter, inner.delimitersAfterAll_eq]
        simp only [List.foldl_cons, List.foldl_append]
        rfl

end Nested

end PostalAddress
