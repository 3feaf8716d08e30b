import PostalAddress.Bundled.Data
import PostalAddress.Proofs.Address.Steps
import PostalAddress.Proofs.Address.Validated
import PostalAddress.Proofs.Template.Plain

/-!
# How the bundled layouts open

Every bundled layout opens with a line for the attention, one for the house, and one for the road
and the house number, in either order. Such a line holds nothing but fields with a separator between
them. Whichever entry is chosen for an address, its layout is a bundled one.
-/

namespace PostalAddress

section Fields

/-- A name that is no path and not bound to the selector. -/
def Fields.IsName (name : String) : Prop :=
  name ≠ Alternatives.key ∧ name ≠ "." ∧ Context.segments name = []

instance (name : String) : Decidable (Fields.IsName name) :=
  inferInstanceAs (Decidable (_ ∧ _ ∧ _))

theorem Formatter.valueOf_view {name : String} (h : Fields.IsName name) (f : Fields) :
    Context.valueOf Selector.compute name [view f] = (Table.get? f name).map Value.string := by
  obtain ⟨hkey, hdot, hsegments⟩ := h
  have hresolve : Context.resolve name [view f] = (Table.get? f name).map Value.string := by
    rw [Context.resolve, if_neg hdot, List.findSome?_singleton, Context.resolveIn, hsegments]
    change Table.get? (Table.insert _ _ _) name = _
    rw [Table.get?_insert, if_neg hkey.symm, Table.get?_mapValues]
  rw [Context.valueOf, hresolve]
  cases Table.get? f name <;> rfl

theorem Formatter.renderVar_view {name : String} (h : Fields.IsName name) (f : Fields)
    (escape : String → String) :
    Plain.renderVar Selector.compute escape [view f] name false = f.textOf name := by
  rw [Plain.renderVar, valueOf_view h, Fields.textOf]
  cases Table.get? f name <;> rfl

end Fields

section Lines

/-- A line of fields, with the same text between each two of them. -/
structure FieldLine where
  separator : String
  names : List String

namespace FieldLine

def items (l : FieldLine) : List LayoutItem :=
  (l.names.map .insert).intersperse (.text l.separator)

/-- The lines of a layout for the road and the house number. -/
def roads : List FieldLine :=
  [⟨" ", ["road", "house_number"]⟩, ⟨" ", ["house_number", "road"]⟩,
   ⟨", ", ["road", "house_number"]⟩, ⟨", ", ["house_number", "road"]⟩]

/-- The lines with which layouts open. -/
def openings : List FieldLine := ⟨" ", ["attention"]⟩ :: ⟨" ", ["house"]⟩ :: roads

end FieldLine

end Lines

section Layouts

/-- The fields that have a place in every layout. -/
def Fields.placed : List String := ["attention", "house", "house_number", "road"]

/-- Lines of fields come first, and every field with a place is in one of them. -/
def Layout.Opens (l : Layout) : Prop :=
  ∃ lines rest, l = lines.map FieldLine.items ++ rest ∧ lines ⊆ FieldLine.openings ∧
    ∀ name ∈ Fields.placed, ∃ line ∈ lines, name ∈ line.names

theorem Layout.opens_of_mem_roads {line : FieldLine} (h : line ∈ FieldLine.roads)
    (rest : Layout) :
    Layout.Opens ([.insert "attention"] :: [.insert "house"] :: line.items :: rest) := by
  have hnames : ∀ line ∈ FieldLine.roads, "road" ∈ line.names ∧ "house_number" ∈ line.names := by
    decide
  refine ⟨[⟨" ", ["attention"]⟩, ⟨" ", ["house"]⟩, line], rest, rfl, ?_, ?_⟩
  · simp [FieldLine.openings, h]
  · simp [Fields.placed, hnames line h]

end Layouts

namespace Bundled

/-- The layouts of the entries. -/
def allLayouts : List Layout :=
  [generic1, generic2, generic3, generic4, generic5, generic6, generic7, generic8, fallback1,
   fallback2, fallback3, brazil, spain, india, newZealand]

theorem opens_of_mem_allLayouts {l : Layout} (h : l ∈ allLayouts) : l.Opens := by
  have hopens : ∀ l ∈ allLayouts, ∃ line ∈ FieldLine.roads,
      l.take 3 = [[.insert "attention"], [.insert "house"], line.items] := by decide
  obtain ⟨line, hline, hl⟩ := hopens l h
  rw [← List.take_append_drop 3 l, hl]
  exact Layout.opens_of_mem_roads hline (l.drop 3)

theorem exists_layout_of_mem_bodies : ∀ e ∈ templates.entries, ∀ x ∈ Formatter.bodies e.2,
    ∃ l ∈ allLayouts, x.2 = l.source := by
  decide +kernel

/-- Whichever entry is chosen, the default entry has a layout where that one has none. -/
theorem exists_layout (key : String) (kind : BodyKind) :
    ∃ l ∈ allLayouts, templates.body? key kind = some l.source := by
  have hdefault : (templates.default?.bind kind.body?).isSome := by
    cases kind with
    | address => rfl
    | fallback => rfl
  obtain ⟨body, hbody⟩ : ∃ body, templates.body? key kind = some body := by
    rw [← Option.isSome_iff_exists, CountryTable.body?, Option.orElse_eq_orElse,
      Option.orElse_eq_or, Option.isSome_or, hdefault, Bool.or_true]
  obtain ⟨code, e, he, hkind⟩ := Formatter.exists_entry_of_body? hbody
  obtain ⟨l, hl, hsource⟩ := exists_layout_of_mem_bodies _ he _
    (Formatter.mem_bodies_of_body? hkind)
  exact ⟨l, hl, hbody.trans (congrArg some hsource)⟩

end Bundled

end PostalAddress
