import PostalAddress.Proofs.Template.Joining
import PostalAddress.Proofs.Template.Spans

/-!
# Nesting and joining lose nothing

Nesting compares no names, and leaves out a section that stays open. Tokens are `Balanced` when
every closing token closes an open one and none stays open; the tree they nest to, read in the order
of the document, has one sign for each of them. The sections of a source are checked while it is
read, and white space is dropped and texts are joined after that: what is nested in the end is
balanced all the same, and the tags of a section have one name.
-/

namespace PostalAddress

/-- What a tree keeps of a flat token. A section is named once, and of its closing tag only the
beginning is kept. -/
inductive Sign
  | leaf (l : Leaf) (span : Span)
  | opening (name : String) (inverted : Bool) (span : Span)
  | closing (start : Nat)

namespace FlatToken

def sign : FlatToken → Sign
  | .leaf l span => .leaf l span
  | .opening name inverted span => .opening name inverted span
  | .closing _ span => .closing span.start

def isOpening : FlatToken → Bool
  | .opening _ _ _ => true
  | _ => false

def isClosing : FlatToken → Bool
  | .closing _ _ => true
  | _ => false

/-- Every closing token closes one that is open before it, of which there are `n` at first, and none
stays open. -/
structure Balanced (n : Nat) (ts : List FlatToken) : Prop where
  closes : ∀ before, before <+: ts → before.countP isClosing ≤ n + before.countP isOpening
  closed : ts.countP isClosing = n + ts.countP isOpening

namespace Balanced

variable {n : Nat} {ts : List FlatToken}

theorem nil_iff : Balanced n [] ↔ n = 0 := by
  constructor
  · intro h
    exact h.closed.symm
  · rintro rfl
    exact ⟨fun before hbefore => by simp [List.prefix_nil.mp hbefore], rfl⟩

/-- In front of the first token nothing is closed, so a count may begin after it. -/
theorem cons_iff {t : FlatToken} : Balanced n (t :: ts) ↔
    (∀ before, before <+: ts →
      (t :: before).countP isClosing ≤ n + (t :: before).countP isOpening) ∧
    (t :: ts).countP isClosing = n + (t :: ts).countP isOpening := by
  constructor
  · intro h
    exact ⟨fun before hbefore => h.closes _ (List.cons_prefix_cons.mpr ⟨rfl, hbefore⟩), h.closed⟩
  · rintro ⟨hcloses, hclosed⟩
    refine ⟨fun before hbefore => ?_, hclosed⟩
    obtain rfl | ⟨rest, rfl, hrest⟩ := List.prefix_cons_iff.mp hbefore
    · exact Nat.zero_le _
    · exact hcloses rest hrest

theorem leaf_iff (l : Leaf) (span : Span) : Balanced n (.leaf l span :: ts) ↔ Balanced n ts :=
  cons_iff.trans ⟨fun h => ⟨h.1, h.2⟩, fun h => ⟨h.closes, h.closed⟩⟩

theorem opening_iff (name : String) (inverted : Bool) (span : Span) :
    Balanced n (.opening name inverted span :: ts) ↔ Balanced (n + 1) ts := by
  rw [cons_iff]
  simp only [List.countP_cons, isOpening, isClosing, Bool.false_eq_true, if_true, if_false,
    Nat.add_zero]
  constructor
  · rintro ⟨hcloses, hclosed⟩
    refine ⟨fun before hbefore => ?_, by omega⟩
    have hle := hcloses before hbefore
    omega
  · rintro ⟨hcloses, hclosed⟩
    refine ⟨fun before hbefore => ?_, by omega⟩
    have hle := hcloses before hbefore
    omega

theorem closing_iff (name : String) (span : Span) :
    Balanced n (.closing name span :: ts) ↔ ∃ m, n = m + 1 ∧ Balanced m ts := by
  rw [cons_iff]
  simp only [List.countP_cons, isOpening, isClosing, Bool.false_eq_true, if_true, if_false,
    Nat.add_zero]
  constructor
  · rintro ⟨hcloses, hclosed⟩
    have hpos : 1 ≤ n := hcloses [] List.nil_prefix
    refine ⟨n - 1, by omega, fun before hbefore => ?_, by omega⟩
    have hle := hcloses before hbefore
    omega
  · rintro ⟨m, rfl, hcloses, hclosed⟩
    refine ⟨fun before hbefore => ?_, by omega⟩
    have hle := hcloses before hbefore
    omega

/-- Balanced tokens close the sections `inner` and those they open themselves, and none around
them. -/
theorem opened_eq (inner : List String) {names after : List String} (h : Balanced inner.length ts)
    (hopen : ts.foldlM opened (inner ++ names) = some after) : after = names := by
  induction ts generalizing inner with
  | nil =>
    obtain rfl := List.length_eq_zero_iff.mp (nil_iff.mp h)
    exact (Option.some.inj hopen).symm
  | cons t ts ih =>
    cases t with
    | leaf l span => exact ih inner ((leaf_iff l span).mp h) hopen
    | opening name inverted span =>
      exact ih (name :: inner) ((opening_iff name inverted span).mp h) hopen
    | closing name span =>
      obtain ⟨m, hm, hrest⟩ := (closing_iff name span).mp h
      obtain ⟨last, inner, rfl⟩ := List.exists_cons_of_length_eq_add_one hm
      obtain rfl : inner.length = m := by simpa using hm
      rw [List.cons_append, List.foldlM_cons, opened] at hopen
      split at hopen
      · exact ih inner hrest hopen
      · cases hopen

/-- The check by names is also one by numbers. -/
theorem of_opened {names : List String} (h : ts.foldlM opened names = some []) :
    Balanced names.length ts := by
  induction ts generalizing names with
  | nil =>
    obtain rfl := Option.some.inj h
    exact nil_iff.mpr rfl
  | cons t ts ih =>
    cases t with
    | leaf l span => exact (leaf_iff l span).mpr (ih h)
    | opening name inverted span =>
      exact (opening_iff name inverted span).mpr (@ih (name :: names) h)
    | closing name span =>
      cases names with
      | nil => cases h
      | cons last names =>
        rw [List.foldlM_cons, opened] at h
        split at h
        · exact (closing_iff name span).mpr ⟨names.length, rfl, ih h⟩
        · cases h

end Balanced

end FlatToken

namespace Token

mutual

/-- The signs of a token in the order of the document. -/
def signs : Token → List Sign
  | .leaf l span => [.leaf l span]
  | .block name inverted span closeStart children =>
    .opening name inverted span :: (signsIn children ++ [.closing closeStart])

def signsIn : List Token → List Sign
  | [] => []
  | t :: ts => signs t ++ signsIn ts

end

theorem signsIn_append (ts us : List Token) : signsIn (ts ++ us) = signsIn ts ++ signsIn us := by
  induction ts with
  | nil => rfl
  | cons t ts ih => rw [List.cons_append, signsIn, ih, signsIn, List.append_assoc]

theorem signsIn_concat (ts : List Token) (t : Token) :
    signsIn (ts ++ [t]) = signsIn ts ++ signs t := by
  rw [signsIn_append, signsIn, signsIn, List.append_nil]

/-- The signs of what is nested so far, with the opening tags of the sections that are open. -/
def signsSoFar (root : List Token) : List OpenBlock → List Sign
  | [] => signsIn root
  | b :: bs => signsSoFar root bs ++ .opening b.name b.inverted b.span :: signsIn b.children

theorem signsSoFar_attach (t : Token) (root : List Token) (blocks : List OpenBlock) :
    signsSoFar (attach t root blocks).1 (attach t root blocks).2 =
      signsSoFar root blocks ++ signs t := by
  cases blocks with
  | nil => exact signsIn_concat root t
  | cons b bs =>
    rw [attach, signsSoFar, signsIn_concat, signsSoFar, List.append_assoc, List.cons_append]

theorem length_attach (t : Token) (root : List Token) (blocks : List OpenBlock) :
    (attach t root blocks).2.length = blocks.length := by
  cases blocks <;> rfl

/-- Nesting goes through balanced tokens to the end. As many sections are open as the tokens close
beyond those they open, so a closing token finds one and in the end none is left. -/
theorem exists_nestFrom (root : List Token) (blocks : List OpenBlock) {ts : List FlatToken}
    (h : FlatToken.Balanced blocks.length ts) :
    ∃ us, nestFrom root blocks ts = .ok us ∧
      signsIn us = signsSoFar root blocks ++ ts.map FlatToken.sign := by
  induction ts generalizing root blocks with
  | nil =>
    obtain rfl := List.length_eq_zero_iff.mp (FlatToken.Balanced.nil_iff.mp h)
    exact ⟨root, rfl, (List.append_nil _).symm⟩
  | cons t ts ih =>
    cases t with
    | leaf l span =>
      have hrest := (FlatToken.Balanced.leaf_iff l span).mp h
      rw [← length_attach (.leaf l span) root blocks] at hrest
      obtain ⟨us, hnest, hsigns⟩ := ih (attach (.leaf l span) root blocks).1 _ hrest
      refine ⟨us, hnest, ?_⟩
      rw [hsigns, signsSoFar_attach, List.append_assoc]
      rfl
    | opening name inverted span =>
      have hrest := (FlatToken.Balanced.opening_iff name inverted span).mp h
      obtain ⟨us, hnest, hsigns⟩ := ih root (⟨name, inverted, span, []⟩ :: blocks) hrest
      refine ⟨us, hnest, ?_⟩
      rw [hsigns, signsSoFar, signsIn, List.append_assoc]
      rfl
    | closing name span =>
      obtain ⟨m, hm, hrest⟩ := (FlatToken.Balanced.closing_iff name span).mp h
      obtain ⟨b, bs, rfl⟩ := List.exists_cons_of_length_eq_add_one hm
      obtain rfl : bs.length = m := Nat.succ.inj hm
      rw [← length_attach (.block b.name b.inverted b.span span.start b.children) root bs] at hrest
      obtain ⟨us, hnest, hsigns⟩ :=
        ih (attach (.block b.name b.inverted b.span span.start b.children) root bs).1 _ hrest
      refine ⟨us, hnest, ?_⟩
      rw [hsigns, signsSoFar_attach, signs, signsSoFar]
      simp only [List.append_assoc, List.cons_append, List.nil_append]
      rfl

end Token

namespace FlatToken

/-- The texts in front of the first token that is not a text, between any two such tokens and behind
the last. -/
def gaps (ts : List FlatToken) : List (List FlatToken) := ts.splitOnP fun t => !t.isText

/-- Texts as one, from where the first begins to where the last ends; no text as none. -/
def merged : List FlatToken → List FlatToken
  | [] => []
  | t :: ts =>
    [.leaf (.text (String.join ((t :: ts).filterMap text?)))
      ⟨t.span.start, (ts.getLastD t).span.stop⟩]

theorem gaps_cons_text (s : String) (a : Span) (ts : List FlatToken) :
    gaps (.leaf (.text s) a :: ts) = (gaps ts).modifyHead (.leaf (.text s) a :: ·) :=
  List.splitOnP_cons_eq_if_modifyHead _ _

theorem gaps_cons_other {t : FlatToken} (no : t.isText = false) (ts : List FlatToken) :
    gaps (t :: ts) = [] :: gaps ts := by
  rw [gaps, List.splitOnP_cons_eq_if_modifyHead, no]
  rfl

theorem exists_gaps (ts : List FlatToken) : ∃ g gs, gaps ts = g :: gs :=
  List.exists_cons_of_ne_nil (List.splitOnP_ne_nil _ ts)

theorem exists_gaps_of_not_textFirst {ts : List FlatToken} (no : textFirst ts = false) :
    ∃ gs, gaps ts = [] :: gs := by
  cases ts with
  | nil => exact ⟨[], rfl⟩
  | cons t ts => exact ⟨gaps ts, gaps_cons_other no ts⟩

theorem merged_eq_nil {g : List FlatToken} (h : merged g = []) : g = [] := by
  cases g with
  | nil => rfl
  | cons t g => cases h

theorem merged_singleton (s : String) (a : Span) :
    merged [.leaf (.text s) a] = [.leaf (.text s) a] := by
  simp [merged, text?, span]

theorem merged_cons (s : String) (a : Span) {s' : String} {b : Span} {g us : List FlatToken}
    (h : merged g = .leaf (.text s') b :: us) :
    us = [] ∧ merged (.leaf (.text s) a :: g) = [.leaf (.text (s ++ s')) ⟨a.start, b.stop⟩] := by
  cases g with
  | nil => cases h
  | cons t g =>
    obtain ⟨htext, rfl⟩ := List.cons_eq_cons.mp h
    obtain ⟨hs, rfl⟩ := FlatToken.leaf.inj htext
    have htexts : (FlatToken.leaf (.text s) a :: t :: g).filterMap text? =
        s :: (t :: g).filterMap text? := rfl
    rw [← Leaf.text.inj hs, merged, htexts, String.join_cons, List.getLastD_cons]
    exact ⟨rfl, rfl⟩

namespace Squashed

variable {ts us : List FlatToken}

theorem filter_eq (h : Squashed ts us) : us.filter (!·.isText) = ts.filter (!·.isText) := by
  induction h with
  | nil => rfl
  | other no rest ih => simp [no, ih]
  | alone s a no rest ih => simpa [isText] using ih
  | joined s s' a b rest ih => simpa [isText] using ih

theorem gaps_eq (h : Squashed ts us) : gaps us = (gaps ts).map merged := by
  induction h with
  | nil => rfl
  | other no rest ih =>
    rw [gaps_cons_other no, gaps_cons_other no, ih]
    rfl
  | @alone s a ts us no rest ih =>
    -- No text follows once the rest is joined, so none does before.
    obtain ⟨gs, hgs⟩ := exists_gaps_of_not_textFirst no
    obtain ⟨g, hs, hg⟩ := exists_gaps ts
    rw [hgs, hg] at ih
    obtain ⟨hnil, rfl⟩ := List.cons_eq_cons.mp ih
    obtain rfl := merged_eq_nil hnil.symm
    rw [gaps_cons_text, gaps_cons_text, hgs, hg, List.modifyHead_cons, List.modifyHead_cons,
      List.map_cons, merged_singleton]
  | @joined s s' a b ts us rest ih =>
    -- The text that follows is the first gap of the rest, made one.
    obtain ⟨k, ks, hk⟩ := exists_gaps us
    obtain ⟨g, gs, hg⟩ := exists_gaps ts
    rw [gaps_cons_text, hk, hg] at ih
    obtain ⟨hmerged, rfl⟩ := List.cons_eq_cons.mp ih
    obtain ⟨rfl, hjoined⟩ := merged_cons s a hmerged.symm
    rw [gaps_cons_text, gaps_cons_text, hk, hg, List.modifyHead_cons, List.modifyHead_cons,
      List.map_cons, hjoined]

end Squashed

/-- Where every closing token closes the name opened last, the tags around balanced tokens have one
name. -/
theorem name_eq_of_opened {before body after : List FlatToken} {name name' : String}
    {inverted : Bool} {span close : Span} {names names' : List String}
    (h : (before ++ .opening name inverted span :: (body ++ .closing name' close :: after)).foldlM
      opened names = some names') (hbody : Balanced 0 body) : name = name' := by
  rw [List.foldlM_append] at h
  obtain ⟨outer, _, h⟩ := Option.bind_eq_some_iff.mp h
  rw [List.foldlM_cons] at h
  have hinside : (body ++ .closing name' close :: after).foldlM opened (name :: outer) =
      some names' := h
  rw [List.foldlM_append] at hinside
  obtain ⟨inner, hinner, hclose⟩ := Option.bind_eq_some_iff.mp hinside
  obtain rfl := hbody.opened_eq [] hinner
  rw [List.foldlM_cons, opened] at hclose
  split at hclose
  · assumption
  · cases hclose

end FlatToken

/-- Balanced tokens nest to a tree with a sign for each of them, whatever the closing tags say.
Joining keeps the tokens that are no texts and makes the texts between two of them one text. The
tokens of a source are balanced, with one name at the tags of each section, and so nest without an
error and with nothing left out. -/
theorem Template.nest_and_squash_lose_nothing :
    (∀ ts, FlatToken.Balanced 0 ts →
      ∃ us, Token.nest ts = .ok us ∧ Token.signsIn us = ts.map FlatToken.sign) ∧
    (∀ ts, (FlatToken.squash ts).filter (!·.isText) = ts.filter (!·.isText) ∧
      FlatToken.gaps (FlatToken.squash ts) = (FlatToken.gaps ts).map FlatToken.merged) ∧
    ∀ (source : String) (d : Delimiters) (ts : List FlatToken),
      flatTokens source.toList d = .ok ts →
        FlatToken.Balanced 0 ts ∧
        (∀ before body after name inverted span name' close,
          ts = before ++ .opening name inverted span :: (body ++ .closing name' close :: after) →
            FlatToken.Balanced 0 body → name = name') ∧
        ∃ us, Token.nest ts = .ok us ∧ Token.signsIn us = ts.map FlatToken.sign ∧
          (d.Proper → compile source d = .ok ⟨source, d, us⟩) := by
  have hnested : ∀ ts, FlatToken.Balanced 0 ts →
      ∃ us, Token.nest ts = .ok us ∧ Token.signsIn us = ts.map FlatToken.sign :=
    fun ts h => Token.exists_nestFrom [] [] h
  refine ⟨hnested, fun ts => ?_, fun source d ts hflat => ?_⟩
  · have hsquashed := FlatToken.squashed ts
    exact ⟨hsquashed.filter_eq, hsquashed.gaps_eq⟩
  · obtain ⟨vs, hvs⟩ := exists_nested_of_flatTokens hflat
    have hopened := hvs.opened_eq []
    have hbalanced := FlatToken.Balanced.of_opened hopened
    obtain ⟨us, hnest, hsigns⟩ := hnested ts hbalanced
    refine ⟨hbalanced, ?_, us, hnest, hsigns, fun hd => ?_⟩
    · rintro before body after name inverted span name' close rfl hbody
      exact FlatToken.name_eq_of_opened hopened hbody
    · rw [compile_of_proper hd, hflat, Except.bind, hnest]
      rfl

/-- Of a section on three lines the white space of its tags' lines is dropped and the letters
between them are joined; and no name is compared where tokens are nested. -/
theorem Template.nest_and_squash_section :
    flatTokens "\x7b\x7b#a\x7d\x7d\n x\n\x7b\x7b/a\x7d\x7d\n".toList .braces =
        .ok [.opening "a" false ⟨0, 6⟩, .leaf (.text " x\n") ⟨7, 10⟩, .closing "a" ⟨10, 16⟩] ∧
      (∃ t, compile "\x7b\x7b#a\x7d\x7d\n x\n\x7b\x7b/a\x7d\x7d\n" .braces = .ok t ∧
        Token.signsIn t.tokens =
          [.opening "a" false ⟨0, 6⟩, .leaf (.text " x\n") ⟨7, 10⟩, .closing 10]) ∧
      ∃ us, Token.nest [.opening "a" false ⟨0, 6⟩, .closing "b" ⟨6, 12⟩] = .ok us ∧
        Token.signsIn us = [.opening "a" false ⟨0, 6⟩, .closing 6] := by
  have hflat : flatTokens "\x7b\x7b#a\x7d\x7d\n x\n\x7b\x7b/a\x7d\x7d\n".toList .braces =
      .ok [.opening "a" false ⟨0, 6⟩, .leaf (.text " x\n") ⟨7, 10⟩, .closing "a" ⟨10, 16⟩] := by
    rw [flatTokens_eq]
    rfl
  have hother : FlatToken.Balanced 0 [.opening "a" false ⟨0, 6⟩, .closing "b" ⟨6, 12⟩] :=
    (FlatToken.Balanced.opening_iff _ _ _).mpr
      ((FlatToken.Balanced.closing_iff _ _).mpr ⟨0, rfl, FlatToken.Balanced.nil_iff.mpr rfl⟩)
  obtain ⟨hnest, _, hsource⟩ := nest_and_squash_lose_nothing
  obtain ⟨_, _, us, _, hsigns, hcompile⟩ := hsource _ _ _ hflat
  exact ⟨hflat, ⟨_, hcompile Delimiters.proper_braces, hsigns⟩, hnest _ hother⟩

end PostalAddress
