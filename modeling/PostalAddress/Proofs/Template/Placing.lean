import PostalAddress.Proofs.Template.Spans

/-!
# Where the tokens of a template stand in its source

In the order in which they stand in the source the tokens of a template follow each other without
overlap. A section encloses the tokens within it: they stand between its tags, and all tokens after
it behind its closing tag.
-/

namespace PostalAddress

open Text

namespace Token

def span : Token → Span
  | .leaf _ a => a
  | .block _ _ a _ _ => a

def text? : Token → Option String
  | .leaf (.text s) _ => some s
  | _ => none

def closeStart? : Token → Option Nat
  | .leaf _ _ => none
  | .block _ _ _ closeStart _ => some closeStart

mutual

/-- A token and all tokens within it, in the order in which they stand in the source. -/
def inOrder : Token → List Token
  | .leaf l a => [.leaf l a]
  | .block name inverted a closeStart children =>
    .block name inverted a closeStart children :: inOrderAll children

def inOrderAll : List Token → List Token
  | [] => []
  | t :: ts => inOrder t ++ inOrderAll ts

end

/-- The tokens within a token, in order. -/
def descendants : Token → List Token
  | .leaf _ _ => []
  | .block _ _ _ _ children => inOrderAll children

theorem inOrderAll_append (ts us : List Token) :
    inOrderAll (ts ++ us) = inOrderAll ts ++ inOrderAll us := by
  induction ts with
  | nil => rfl
  | cons t ts ih => rw [List.cons_append, inOrderAll, inOrderAll, ih, List.append_assoc]

/-- A section with its closing tag at `c`, among all tokens in order: its descendants stand between
its tags, and what comes after them stands after its closing tag. -/
structure Encloses (source : List Char) (all : List Token) (b : Token) (c : Nat) : Prop where
  stop_le : b.span.stop ≤ c
  within : ∀ v ∈ b.descendants, b.span.stop ≤ v.span.start ∧ v.span.stop ≤ c ∧
    ∀ c' ∈ v.closeStart?, b.span.stop ≤ c' ∧ c' ≤ c
  after : ∃ before after, all = before ++ b :: (b.descendants ++ after) ∧
    ∀ v ∈ after, c < v.span.start
  holds : ∃ body, Span.Holds source ⟨b.span.stop, c⟩ body

/-- Tokens that stand in the source between `start` and `stop`. -/
structure Arranged (source : List Char) (start : Nat) (ts : List Token) (stop : Nat) : Prop where
  stands : ∀ v ∈ inOrderAll ts, v.span.Stands source v.text?
  bounds : ∀ v ∈ inOrderAll ts, start ≤ v.span.start ∧ v.span.stop ≤ stop
  ordered : (inOrderAll ts).Pairwise fun u v => u.span.stop ≤ v.span.start
  encloses : ∀ b ∈ inOrderAll ts, ∀ c ∈ b.closeStart?,
    start ≤ c ∧ c < stop ∧ b.Encloses source (inOrderAll ts) c

theorem Encloses.widen {source : List Char} {all : List Token} {b : Token} {c : Nat}
    (h : b.Encloses source all c) (before after : List Token)
    (hafter : ∀ v ∈ after, c < v.span.start) : b.Encloses source (before ++ (all ++ after)) c where
  stop_le := h.stop_le
  within := h.within
  holds := h.holds
  after := by
    obtain ⟨xs, ys, rfl, hys⟩ := h.after
    refine ⟨before ++ xs, ys ++ after, by simp, fun v hv => ?_⟩
    obtain hv | hv := List.mem_append.mp hv
    · exact hys v hv
    · exact hafter v hv

namespace Arranged

variable {source : List Char} {start mid stop : Nat} {ts us : List Token}

theorem nil (source : List Char) (start stop : Nat) : Arranged source start [] stop where
  stands _ hv := by cases hv
  bounds _ hv := by cases hv
  ordered := .nil
  encloses _ hb := by cases hb

theorem append (ht : Arranged source start ts mid) (hu : Arranged source mid us stop)
    (hstart : start ≤ mid) (hstop : mid ≤ stop) : Arranged source start (ts ++ us) stop where
  stands v hv := by
    rw [inOrderAll_append] at hv
    obtain hv | hv := List.mem_append.mp hv
    · exact ht.stands v hv
    · exact hu.stands v hv
  bounds v hv := by
    rw [inOrderAll_append] at hv
    obtain hv | hv := List.mem_append.mp hv
    · have hbounds := ht.bounds v hv
      omega
    · have hbounds := hu.bounds v hv
      omega
  ordered := by
    rw [inOrderAll_append, List.pairwise_append]
    refine ⟨ht.ordered, hu.ordered, fun u hmem v hv => ?_⟩
    have hbefore := (ht.bounds u hmem).2
    have hafter := (hu.bounds v hv).1
    omega
  encloses b hb c hc := by
    rw [inOrderAll_append] at hb ⊢
    obtain hb | hb := List.mem_append.mp hb
    · obtain ⟨hle, hlt, hencloses⟩ := ht.encloses b hb c hc
      refine ⟨hle, Nat.lt_of_lt_of_le hlt hstop, hencloses.widen [] _ fun v hv => ?_⟩
      exact Nat.lt_of_lt_of_le hlt (hu.bounds v hv).1
    · obtain ⟨hle, hlt, hencloses⟩ := hu.encloses b hb c hc
      refine ⟨Nat.le_trans hstart hle, hlt, ?_⟩
      have hwide := hencloses.widen (inOrderAll ts) [] (by simp)
      rwa [List.append_nil] at hwide

theorem leaf {l : Leaf} {a : Span} (hstart : start ≤ a.start) (hstop : a.stop ≤ stop)
    (h : a.Stands source (Token.leaf l a).text?) : Arranged source start [.leaf l a] stop where
  stands v hv := by
    obtain rfl := List.mem_singleton.mp hv
    exact h
  bounds v hv := by
    obtain rfl := List.mem_singleton.mp hv
    exact ⟨hstart, hstop⟩
  ordered := List.pairwise_singleton _ _
  encloses b hb c hc := by
    obtain rfl := List.mem_singleton.mp hb
    cases hc

/-- A section whose descendants stand between its tags. -/
theorem block (name : String) (inverted : Bool) {a close : Span} {children : List Token}
    {m n : Nat} (h : Arranged source m children n) (hstart : start ≤ a.start) (hm : a.stop ≤ m)
    (hmn : m ≤ n) (hn : n ≤ close.start) (hstop : close.stop ≤ stop) (hopen : a.Stands source none)
    (hclose : close.Stands source none) :
    Arranged source start [.block name inverted a close.start children] stop := by
  have hall : inOrderAll [.block name inverted a close.start children] =
      .block name inverted a close.start children :: inOrderAll children := by
    simp [inOrderAll, inOrder]
  have ha := hopen.start_lt_stop
  have hc := hclose.start_lt_stop
  constructor
  · rw [hall]
    exact List.forall_mem_cons.mpr ⟨hopen, h.stands⟩
  · rw [hall]
    refine List.forall_mem_cons.mpr ⟨⟨hstart, ?_⟩, fun v hv => ?_⟩
    · change a.stop ≤ stop
      omega
    · have hbounds := h.bounds v hv
      omega
  · rw [hall]
    refine List.pairwise_cons.mpr ⟨fun v hv => ?_, h.ordered⟩
    exact Nat.le_trans hm (h.bounds v hv).1
  · rw [hall]
    refine List.forall_mem_cons.mpr ⟨fun c hc => ?_, fun b hb c hc => ?_⟩
    · obtain rfl := Option.some.inj hc
      refine ⟨by omega, by omega, ?_, fun v hv => ?_, ⟨[], [], by simp [descendants], by simp⟩, ?_⟩
      · change a.stop ≤ close.start
        omega
      · have hbounds := h.bounds v hv
        refine ⟨Nat.le_trans hm hbounds.1, Nat.le_trans hbounds.2 hn, fun c' hc' => ?_⟩
        have hinner := h.encloses v hv c' hc'
        change a.stop ≤ c' ∧ c' ≤ close.start
        omega
      · obtain ⟨_, _, hopen, _⟩ := hopen
        obtain ⟨_, _, hclose, _⟩ := hclose
        exact hopen.between hclose (by omega)
    · obtain ⟨hle, hlt, hencloses⟩ := h.encloses b hb c hc
      have hwide := hencloses.widen [.block name inverted a close.start children] []
        (by simp)
      rw [List.append_nil] at hwide
      exact ⟨by omega, by omega, hwide⟩

end Arranged

end Token

theorem Nested.arranged {source : List Char} {ts : List FlatToken} {us : List Token}
    (h : Nested ts us) {start stop : Nat} (hlaid : FlatToken.Laid source start ts stop) :
    Token.Arranged source start us stop := by
  induction h generalizing start stop with
  | nil => exact .nil source start stop
  | @leaf l a ts us rest ih =>
    obtain ⟨hstart, hstands, n, hn, hrest⟩ := hlaid.cons_inv
    have htext : (FlatToken.leaf l a).text? = (Token.leaf l a).text? := by cases l <;> rfl
    rw [htext] at hstands
    have hlt := hstands.start_lt_stop
    exact (Token.Arranged.leaf hstart hn hstands).append (ih hrest) (by omega) hrest.le
  | @block name inverted a close body ts children us inner rest ihb iht =>
    obtain ⟨hstart, hopen, m, hm, hlaid⟩ := hlaid.cons_inv
    obtain ⟨n, hbody, hlaid⟩ := hlaid.split
    obtain ⟨hn, hclose, k, hk, hrest⟩ := hlaid.cons_inv
    have hopen' := hopen.start_lt_stop
    have hclose' := hclose.start_lt_stop
    have hbody' := hbody.le
    have hblock := (ihb hbody).block name inverted hstart hm hbody.le hn hk hopen hclose
    exact hblock.append (iht hrest) (by omega) hrest.le

namespace Template

/-- All tokens of a template in the order in which they stand in its source. -/
def inOrder (t : Template) : List Token := Token.inOrderAll t.tokens

/-- Every token points at its own part of the source, the text of a text. In order the parts follow
each other without overlap, and a section's source is what stands between its tags. -/
structure InPlace (source : String) (t : Template) : Prop where
  stands : ∀ v ∈ t.inOrder, v.span.Stands source.toList v.text?
  ordered : t.inOrder.Pairwise fun u v => u.span.stop ≤ v.span.start
  encloses : ∀ b ∈ t.inOrder, ∀ c ∈ b.closeStart?, b.Encloses source.toList t.inOrder c
  source_eq : ∀ b ∈ t.inOrder, ∀ c ∈ b.closeStart?, ∃ body,
    sectionSource source b.span c = some body ∧
      Span.Holds source.toList ⟨b.span.stop, c⟩ body.toList

theorem exists_arranged_of_compile {source : String} {d : Delimiters} {t : Template}
    (h : compile source d = .ok t) : ∃ stop, Token.Arranged source.toList 0 t.tokens stop := by
  obtain ⟨_, _, _, ps, d', p', hread, hnest⟩ := compile_eq_ok_iff.mp h
  have hfilled := Piece.Filled.of_reads [] hread rfl
  exact ⟨p', hnest.arranged (FlatToken.Laid.flat hfilled)⟩

theorem inPlace_of_compile {source : String} {d : Delimiters} {t : Template}
    (h : compile source d = .ok t) : t.InPlace source := by
  obtain ⟨stop, harranged⟩ := exists_arranged_of_compile h
  refine ⟨harranged.stands, harranged.ordered, fun b hb c hc => ?_, fun b hb c hc => ?_⟩
  · exact (harranged.encloses b hb c hc).2.2
  · obtain ⟨body, hbody⟩ := (harranged.encloses b hb c hc).2.2.holds
    refine ⟨String.ofList body, ?_, by rwa [String.toList_ofList]⟩
    have hslice : sliceBytes b.span.stop c source.toList = some body := hbody.sliceBytes_eq
    rw [sectionSource, hslice]
    rfl

/-- Two standalone lines, one with a tag that sets delimiters, and letters of two bytes. -/
theorem inPlace_of_standalone :
    ∃ t, compile "é\x7b\x7b#x\x7d\x7d\n  \x7b\x7b=| |=\x7d\x7d \nß|^y|a\n|/y|\n b|/x|" .braces =
        .ok t ∧
      t.inOrder.map Token.span =
        [⟨0, 2⟩, ⟨2, 8⟩, ⟨8, 9⟩, ⟨11, 20⟩, ⟨22, 24⟩, ⟨24, 28⟩, ⟨28, 30⟩, ⟨35, 37⟩] ∧
      t.InPlace "é\x7b\x7b#x\x7d\x7d\n  \x7b\x7b=| |=\x7d\x7d \nß|^y|a\n|/y|\n b|/x|" := by
  have hcompile :
      compile "é\x7b\x7b#x\x7d\x7d\n  \x7b\x7b=| |=\x7d\x7d \nß|^y|a\n|/y|\n b|/x|" .braces =
        .ok ⟨"é\x7b\x7b#x\x7d\x7d\n  \x7b\x7b=| |=\x7d\x7d \nß|^y|a\n|/y|\n b|/x|", .braces,
          [.leaf (.text "é") ⟨0, 2⟩,
            .block "x" false ⟨2, 8⟩ 37
              [.leaf (.text "\n") ⟨8, 9⟩, .leaf (.delimiters ⟨"|", "|"⟩) ⟨11, 20⟩,
                .leaf (.text "ß") ⟨22, 24⟩,
                .block "y" true ⟨24, 28⟩ 30 [.leaf (.text "a\n") ⟨28, 30⟩],
                .leaf (.text " b") ⟨35, 37⟩]]⟩ := by
    rw [compile_of_proper Delimiters.proper_braces, flatTokens_eq]
    rfl
  exact ⟨_, hcompile, rfl, inPlace_of_compile hcompile⟩

end Template

end PostalAddress
