import PostalAddress.Proofs.Template.Indenting
import PostalAddress.Proofs.Template.Placing

/-!
# The tags that a rendering comes to

A rendering comes to the partials that the tags of the template ask for, and those of theirs, but
also to their indented texts and to what stands in their sections. None of these has tags of its own:
a source is covered when every tag of it stands in the template or in one of the partials as they
are.
-/

namespace PostalAddress

open Text

/-- The template and the partials that its tags and theirs ask for. -/
inductive Partials.Reaches (partials : Partials) (d : Delimiters) (source : String) :
    String → Prop
  | whole : Reaches partials d source source
  | inclusion {s name text : String} (outer : Reaches partials d source s)
      (mem : .inclusion name ∈ Template.tags s d) (found : partials name = some text) :
      Reaches partials d source text

/-- Every tag of the text stands in a source that is reached. -/
def Partials.Covers (partials : Partials) (d : Delimiters) (source s : String) : Prop :=
  ∀ tag ∈ Template.tags s d, ∃ s₀, partials.Reaches d source s₀ ∧ tag ∈ Template.tags s₀ d

namespace Piece

theorem tag?_move (n : Nat) (p : Piece) : (p.move n).tag? = p.tag? := by
  cases p <;> rfl

theorem mem_filterMap_tag?_iff {ps : List Piece} {t : Tag} :
    t ∈ ps.filterMap tag? ↔ ∃ span, .tag t span ∈ ps := by
  rw [List.mem_filterMap]
  constructor
  · rintro ⟨p, hp, ht⟩
    cases p with
    | letter c span => cases ht
    | tag t' span =>
      obtain rfl := Option.some.inj ht
      exact ⟨span, hp⟩
  · rintro ⟨span, h⟩
    exact ⟨_, h, rfl⟩

end Piece

namespace Nested

variable {ts : List FlatToken} {us : List Token} (h : Nested ts us)

include h

theorem leaf_mem {l : Leaf} {span : Span} (hmem : .leaf l span ∈ Token.inOrderAll us) :
    .leaf l span ∈ ts := by
  induction h with
  | nil => cases hmem
  | leaf l' span' rest ih =>
    obtain heq | hmem := List.mem_cons.mp hmem
    · obtain ⟨rfl, rfl⟩ := Token.leaf.inj heq
      exact List.mem_cons_self
    · exact List.mem_cons_of_mem _ (ih hmem)
  | block name inverted span' close inner rest ihb iht =>
    obtain heq | hmem := List.mem_cons.mp hmem
    · cases heq
    · obtain hmem | hmem := List.mem_append.mp hmem
      · exact List.mem_cons_of_mem _ (List.mem_append_left _ (ihb hmem))
      · exact List.mem_cons_of_mem _ (List.mem_append_right _ (List.mem_cons_of_mem _ (iht hmem)))

/-- A section in the tree is one of the sections. -/
theorem exists_section {name : String} {inverted : Bool} {span : Span} {closeStart : Nat}
    {children : List Token} (hmem : .block name inverted span closeStart children ∈
      Token.inOrderAll us) (d : Delimiters) :
    ∃ x ∈ Token.sectionsIn d us, x.name = name ∧ x.inverted = inverted ∧ x.span = span ∧
      x.closeStart = closeStart := by
  induction h generalizing d with
  | nil => cases hmem
  | leaf l span' rest ih =>
    obtain heq | hmem := List.mem_cons.mp hmem
    · cases heq
    · obtain ⟨x, hx, hfields⟩ := ih hmem _
      exact ⟨x, List.mem_append_right _ hx, hfields⟩
  | block name' inverted' span' close inner rest ihb iht =>
    obtain heq | hmem := List.mem_cons.mp hmem
    · obtain ⟨rfl, rfl, rfl, rfl, rfl⟩ := Token.block.inj heq
      exact ⟨_, List.mem_append_left _ List.mem_cons_self, rfl, rfl, rfl, rfl⟩
    · obtain hmem | hmem := List.mem_append.mp hmem
      · obtain ⟨x, hx, hfields⟩ := ihb hmem d
        exact ⟨x, List.mem_append_left _ (List.mem_cons_of_mem _ hx), hfields⟩
      · obtain ⟨x, hx, hfields⟩ := iht hmem _
        exact ⟨x, List.mem_append_right _ hx, hfields⟩

end Nested

namespace Template

variable {source : String} {d : Delimiters} {t : Template} (h : compile source d = .ok t)

include h

/-- The opening tag of a section is one of the source, and so are the tags between it and the closing
tag, when none of the source sets delimiters. -/
theorem tags_section {name : String} {inverted : Bool} {span : Span} {closeStart : Nat}
    {children : List Token} (hmem : .block name inverted span closeStart children ∈
      Token.inOrderAll t.tokens) (hsteady : ∀ tag ∈ tags source d, tag.IsSteady) :
    .opening name inverted ∈ tags source d ∧
      ∀ body ∈ sectionSource source span closeStart, tags body d ⊆ tags source d := by
  obtain ⟨_, _, _, ps, d', p', hread, hnest⟩ := compile_eq_ok_iff.mp h
  obtain ⟨x, hx, rfl, rfl, rfl, rfl⟩ := hnest.exists_section hmem d
  obtain ⟨body, before, qs, after, close, d'', hslice, _, rfl, _, hbody, ⟨s, hbefore⟩, _⟩ :=
    hread.exists_body hnest hx
  have htags := Pieces.read_of_reads hread
  dsimp only at htags
  rw [tags, htags] at hsteady ⊢
  have hstill : ∀ p ∈ before, p.setsDelimiters = false := by
    intro p hp
    cases p with
    | letter c a => rfl
    | tag tag a =>
      have htag : tag.IsSteady := hsteady tag
        (Piece.mem_filterMap_tag?_iff.mpr ⟨a, List.mem_append_left _ hp⟩)
      cases tag with
      | delimiters d' => exact htag.elim
      | _ => rfl
  have hdelims : x.delimiters = d := by
    rw [hbefore.delimiters_eq, Piece.foldl_delimitersAfter hstill]
  rw [hdelims] at hbody
  have hread' := Pieces.read_of_reads hbody
  dsimp only at hread'
  refine ⟨Piece.mem_filterMap_tag?_iff.mpr ⟨x.span, by simp⟩, fun text htext tag htag => ?_⟩
  rw [sectionSource, hslice] at htext
  obtain rfl := Option.some.inj htext
  rw [tags, String.toList_ofList, hread', Pieces.tags] at htag
  obtain ⟨q, hq, hqt⟩ := List.mem_filterMap.mp htag
  refine List.mem_filterMap.mpr ⟨q.move x.span.stop, ?_, by rw [Piece.tag?_move, hqt]⟩
  exact List.mem_append_right _ (List.mem_cons_of_mem _
    (List.mem_append_left _ (List.mem_map_of_mem hq)))

end Template

namespace Partials

variable {partials : Partials} {d : Delimiters} {source s : String}

theorem Reaches.covers (h : partials.Reaches d source s) : partials.Covers d source s :=
  fun _ htag => ⟨s, h, htag⟩

variable (hsteady : ∀ s, partials.Reaches d source s → ∀ tag ∈ Template.tags s d, tag.IsSteady)
  (h : partials.Covers d source s)

include hsteady h

theorem Covers.isSteady {tag : Tag} (htag : tag ∈ Template.tags s d) : tag.IsSteady := by
  obtain ⟨s₀, hs₀, hmem⟩ := h tag htag
  exact hsteady s₀ hs₀ tag hmem

/-- What a covered source includes is covered, wherever it is included. -/
theorem Covers.partialText (hd : d.Blankless) (hne : d.Proper) {name text : String}
    (hmem : .inclusion name ∈ Template.tags s d) (htext : partials name = some text)
    (placement : Placement) : partials.Covers d source (Renderer.partialText text placement) := by
  obtain ⟨s₀, hs₀, hinclusion⟩ := h _ hmem
  have htextReached := hs₀.inclusion hinclusion htext
  rw [Covers, Template.tags_partialText hd hne text (hsteady text htextReached)]
  exact htextReached.covers

/-- So is what stands in a section of a covered source. -/
theorem Covers.sectionSource {t : Template} (ht : Template.compile s d = .ok t) {name : String}
    {inverted : Bool} {span : Span} {closeStart : Nat} {children : List Token}
    (hmem : .block name inverted span closeStart children ∈ Token.inOrderAll t.tokens)
    {body : String} (hbody : Template.sectionSource s span closeStart = some body) :
    partials.Covers d source body := by
  obtain ⟨_, hsub⟩ := Template.tags_section ht hmem fun tag htag => h.isSteady hsteady htag
  exact fun tag htag => h tag (hsub body hbody htag)

end Partials

end PostalAddress
