import PostalAddress.Proofs.Text.Parts
import PostalAddress.Template.Escape
import PostalAddress.Template.Value

/-!
# Texts that are inert in markup

An inert text holds none of the characters that mean something in markup or in attribute values,
but for ampersands that begin one of the entities they are written as. Inert texts stay so side by
side, an escaped text is inert, and so is the text of a number.
-/

namespace PostalAddress

namespace Escape

/-- The characters that mean something in markup or in attribute values. -/
def markup : List Char := ['&', '<', '>', '\x22', '\x27', '/', '\x60', '=']

/-- What stands for the characters of markup in an escaped text. -/
def entities : List String :=
  ["&amp;", "&lt;", "&gt;", "&quot;", "&#x27;", "&#x2F;", "&#x60;", "&#x3D;"]

/-- No character of markup but ampersands, each at the beginning of an entity. -/
structure Inert (t : List Char) : Prop where
  ampersand : ∀ c ∈ t, c ∈ markup → c = '&'
  entity : ∀ s u, t = s ++ '&' :: u → ∃ e ∈ entities, e.toList <+: '&' :: u

theorem inert_of_not_mem_markup {t : List Char} (h : ∀ c ∈ t, c ∉ markup) : Inert t where
  ampersand c hc hmarkup := absurd hmarkup (h c hc)
  entity s u ht := by
    have hmem : '&' ∈ t := by
      rw [ht]
      exact List.mem_append_right s List.mem_cons_self
    exact absurd (by decide) (h '&' hmem)

theorem inert_nil : Inert [] := inert_of_not_mem_markup nofun

theorem Inert.append {s t : List Char} (hs : Inert s) (ht : Inert t) : Inert (s ++ t) where
  ampersand c hc := by
    obtain hc | hc := List.mem_append.mp hc
    · exact hs.ampersand c hc
    · exact ht.ampersand c hc
  entity a u h := by
    -- The ampersand stands in one of the two texts, and what begins in the first goes on.
    obtain ⟨b, rfl, hb⟩ | ⟨b, rfl, hb⟩ := List.append_eq_append_iff.mp h
    · exact ht.entity b u hb
    · cases b with
      | nil => exact ht.entity [] u hb.symm
      | cons c b =>
        obtain ⟨rfl, rfl⟩ := List.cons_eq_cons.mp hb
        obtain ⟨e, he, hprefix⟩ := hs.entity a b rfl
        exact ⟨e, he, hprefix.trans (List.prefix_append _ _)⟩

theorem inert_entity {e : String} (h : e ∈ entities) : Inert e.toList := by
  have hshape : ∀ e ∈ entities, ∃ r, e.toList = '&' :: r ∧ ∀ c ∈ r, c ∉ markup := by
    intro e he
    have htail : ∀ e ∈ entities, e.toList = '&' :: e.toList.tail ∧
        ∀ c ∈ e.toList.tail, c ∉ markup := by decide
    exact ⟨_, htail e he⟩
  obtain ⟨r, he, hr⟩ := hshape e h
  constructor
  · intro c hc hmarkup
    rw [he] at hc
    obtain rfl | hc := List.mem_cons.mp hc
    · rfl
    · exact absurd hmarkup (hr c hc)
  · intro s u ht
    rw [he] at ht
    cases s with
    | nil => exact ⟨e, h, by rw [he, ht]; exact List.prefix_refl _⟩
    | cons c s =>
      obtain ⟨_, rfl⟩ := List.cons_eq_cons.mp ht
      exact absurd (by decide) (hr '&' (List.mem_append_right s List.mem_cons_self))

section Html

/-- What all passes together make of a character. -/
def htmlChar (c : Char) : List Char :=
  match c.toNat with
  | 0x26 => "&amp;".toList
  | 0x3c => "&lt;".toList
  | 0x3e => "&gt;".toList
  | 0x22 => "&quot;".toList
  | 0x27 => "&#x27;".toList
  | 0x2f => "&#x2F;".toList
  | 0x60 => "&#x60;".toList
  | 0x3d => "&#x3D;".toList
  | _ => [c]

theorem toNat_ne_of_not_mem_markup {c : Char} (h : c ∉ markup) :
    ∀ n, Char.ofNat n ∈ markup → ¬ c.toNat = n := by
  rintro n hn rfl
  rw [Char.ofNat_toNat] at hn
  exact h hn

theorem htmlChar_of_not_mem_markup {c : Char} (h : c ∉ markup) : htmlChar c = [c] := by
  have hne := toNat_ne_of_not_mem_markup h
  unfold htmlChar
  split
  all_goals first | rfl | exact absurd ‹_› (hne _ (by decide))

theorem safeChar_of_not_mem_markup {c : Char} (h : c ∉ markup) : safeChar c = [c] := by
  have hne := toNat_ne_of_not_mem_markup h
  unfold safeChar
  split
  all_goals first | rfl | exact absurd ‹_› (hne _ (by decide))

theorem replaceChar_flatMap (old : Char) (new : List Char) (f : Char → List Char) (t : List Char) :
    replaceChar old new (t.flatMap f) = t.flatMap fun c => replaceChar old new (f c) :=
  List.flatMap_assoc

theorem replaceChar_singleton_of_ne {old c : Char} (h : c ≠ old) (new : List Char) :
    replaceChar old new [c] = [c] := by
  simp [replaceChar, h]

/-- No pass finds anything in what an earlier one has written. -/
theorem replaceChar_safeChar (c : Char) :
    replaceChar '=' "&#x3D;".toList (replaceChar '\x60' "&#x60;".toList (safeChar c)) =
      htmlChar c := by
  have hmarkup : ∀ c ∈ markup, replaceChar '=' "&#x3D;".toList
      (replaceChar '\x60' "&#x60;".toList (safeChar c)) = htmlChar c := by
    decide
  by_cases hc : c ∈ markup
  · exact hmarkup c hc
  · have hgrave : c ≠ '\x60' := fun heq => hc (heq ▸ by decide)
    have hequals : c ≠ '=' := fun heq => hc (heq ▸ by decide)
    rw [safeChar_of_not_mem_markup hc, replaceChar_singleton_of_ne hgrave,
      replaceChar_singleton_of_ne hequals, htmlChar_of_not_mem_markup hc]

/-- The passes come to one table of characters. -/
theorem toList_html (s : String) : (html s).toList = s.toList.flatMap htmlChar := by
  dsimp only [html]
  rw [String.toList_ofList, safe, replaceChar_flatMap, replaceChar_flatMap]
  exact congrArg (s.toList.flatMap ·) (funext replaceChar_safeChar)

theorem inert_htmlChar (c : Char) : Inert (htmlChar c) := by
  have hentity : ∀ c ∈ markup, ∃ e ∈ entities, htmlChar c = e.toList := by decide
  by_cases hc : c ∈ markup
  · obtain ⟨e, he, hchar⟩ := hentity c hc
    rw [hchar]
    exact inert_entity he
  · rw [htmlChar_of_not_mem_markup hc]
    exact inert_of_not_mem_markup fun c' hc' => List.mem_singleton.mp hc' ▸ hc

theorem inert_html (s : String) : Inert (html s).toList := by
  rw [toList_html]
  induction s.toList with
  | nil => exact inert_nil
  | cons c r ih =>
    rw [List.flatMap_cons]
    exact (inert_htmlChar c).append ih

end Html

end Escape

namespace Decimal

open Escape

theorem digitChar_not_mem_markup (n : Nat) : Nat.digitChar n ∉ markup := by
  have hdigit : ∀ n < 16, Nat.digitChar n ∉ markup := by decide
  by_cases hn : n < 16
  · exact hdigit n hn
  · have hstar : Nat.digitChar n = '*' := by
      unfold Nat.digitChar
      repeat' rw [if_neg (by omega)]
    rw [hstar]
    decide

theorem not_mem_markup_of_mem_digitText {ds : List Nat} : ∀ c ∈ digitText ds, c ∉ markup := by
  intro c hc
  obtain ⟨n, _, rfl⟩ := List.mem_map.mp hc
  exact digitChar_not_mem_markup n

theorem not_mem_markup_of_mem_replicate {n : Nat} :
    ∀ c ∈ List.replicate n '0', c ∉ markup := by
  intro c hc
  obtain rfl := List.eq_of_mem_replicate hc
  decide

theorem not_mem_markup_of_mem_positional (d : Digits) :
    ∀ c ∈ positional false d, c ∉ markup := by
  have hdigits := @not_mem_markup_of_mem_digitText
  have hzeros := @not_mem_markup_of_mem_replicate
  unfold positional
  dsimp only
  split
  · rw [List.forall_mem_append, List.forall_mem_append]
    exact ⟨⟨by decide, hzeros⟩, hdigits⟩
  · split
    · rw [List.forall_mem_append, List.forall_mem_append]
      exact ⟨⟨hdigits, hzeros⟩, nofun⟩
    · rw [List.forall_mem_append, List.forall_mem_cons]
      exact ⟨hdigits, by decide, hdigits⟩

theorem not_mem_markup_of_mem_plain {x : Float} : ∀ c ∈ Layout.plain.text x, c ∉ markup := by
  have hbody : ∀ c ∈ (if x.isInf then "inf".toList
      else Layout.plain.digits (shortest (.ofBits x.toBits))), c ∉ markup := by
    split
    · decide
    · exact not_mem_markup_of_mem_positional _
  unfold Layout.text
  split
  · decide
  · dsimp only
    split
    · exact List.forall_mem_cons.mpr ⟨by decide, hbody⟩
    · exact hbody

end Decimal

namespace Value

theorem inert_numberText (x : Float) : Escape.Inert (numberText x).toList := by
  refine Escape.inert_of_not_mem_markup ?_
  unfold numberText
  split
  · decide
  · rw [String.toList_ofList]
    exact Decimal.not_mem_markup_of_mem_plain

end Value

end PostalAddress
