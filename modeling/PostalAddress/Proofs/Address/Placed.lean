import PostalAddress.Proofs.Address.Output
import PostalAddress.Proofs.Address.Shown
import PostalAddress.Proofs.Cleanup.Words

/-!
# Fields that always reach the output

The attention, the house, the road and the house number have a place in every bundled layout, so
their words are words of the text that the layout shows, and cleaning keeps words. So each word of
these fields is a word of the formatted address, unless the entry that was chosen has rules for
output. A text that stays blank has no words, and then the fields have none either.
-/

namespace PostalAddress

open Cleanup

section Lines

variable (f : Fields)

/-- A line of fields shows their values with the separator between them. -/
theorem FieldLine.join_shown (l : FieldLine) :
    String.join (l.items.map (LayoutItem.shown f)) =
      l.separator.intercalate (l.names.map f.textOf) := by
  obtain ⟨sep, names⟩ := l
  rw [items]
  dsimp only
  induction names with
  | nil => rfl
  | cons name names ih =>
    cases names with
    | nil => rfl
    | cons name' names =>
      simp only [List.map_cons, List.intersperse_cons_cons, String.join_cons, LayoutItem.shown,
        String.intercalate_cons_cons, String.append_assoc] at ih ⊢
      rw [ih]

theorem FieldLine.mem_bareWords_join_shown {l : FieldLine} (h : l ∈ openings) {name : String}
    (hname : name ∈ l.names) {w : List Char} (hw : w ∈ bareWords (f.textOf name).toList) :
    w ∈ bareWords (String.join (l.items.map (LayoutItem.shown f))).toList := by
  have hseparators : ∀ l ∈ openings, l.separator.toList ≠ [] ∧
      l.separator.toList.all isLeading := by
    decide
  obtain ⟨hne, hsep⟩ := hseparators l h
  rw [join_shown, String.toList_intercalate, mem_bareWords_intercalate hne hsep]
  exact ⟨_, List.mem_map_of_mem (List.mem_map_of_mem hname), hw⟩

/-- A layout that opens with lines of fields shows the words of the fields. -/
theorem Layout.mem_bareWords_shown {lines : List FieldLine} (rest : Layout)
    (hlines : lines ⊆ FieldLine.openings) {line : FieldLine} (hline : line ∈ lines) {name : String}
    (hname : name ∈ line.names) {w : List Char} (hw : w ∈ bareWords (f.textOf name).toList) :
    w ∈ bareWords (Layout.shown f (lines.map FieldLine.items ++ rest)).toList := by
  induction lines with
  | nil => cases hline
  | cons first lines ih =>
    obtain ⟨hfirst, hlines⟩ := List.cons_subset.mp hlines
    have hwords : bareWords (Layout.shown f ((first :: lines).map FieldLine.items ++ rest)).toList =
        bareWords (String.join (first.items.map (LayoutItem.shown f))).toList ++
          bareWords (Layout.shown f (lines.map FieldLine.items ++ rest)).toList := by
      rw [List.map_cons, List.cons_append, Layout.shown, List.map_cons, String.join_cons,
        String.toList_append, String.toList_append, List.append_assoc]
      exact bareWords_append_cons (by decide) _ _
    rw [hwords, List.mem_append]
    obtain rfl | hline := List.mem_cons.mp hline
    · exact .inl (FieldLine.mem_bareWords_join_shown f hfirst hname hw)
    · exact .inr (ih hlines hline)

end Lines

namespace Formatter

theorem mem_bareWords_concat_newline (text : String) {w : List Char} :
    w ∈ bareWords (text ++ "\n").toList ↔ w ∈ bareWords text.toList := by
  rw [String.toList_append]
  exact iff_of_eq (congrArg _ (bareWords_concat (by decide) text.toList))

/-- Without rules for output, and whether the text is blank or not, its words stay. -/
theorem mem_bareWords_finish {fm : Formatter} {n : Normalized} {text : String}
    (hrules : fm.postformatted n.templateKey text = text) {w : List Char}
    (hw : w ∈ bareWords text.toList) : w ∈ bareWords (fm.finish n text).toList := by
  have hfilled : (Text.trim text.toList).isEmpty = false := by
    rw [← bareWords_trim] at hw
    cases hnil : Text.trim text.toList with
    | nil =>
      rw [hnil, bareWords_nil] at hw
      cases hw
    | cons => rfl
  simp only [finish, hrules, hfilled, Bool.false_eq_true, if_false]
  exact (mem_bareWords_concat_newline text).mpr hw

/-- A text given as lines has the words it has as a text. -/
theorem mem_bareWords_display_output (kind : OutputKind) (text : String) {w : List Char} :
    w ∈ bareWords (output kind text).display.toList ↔ w ∈ bareWords text.toList := by
  cases kind with
  | string => rfl
  | array =>
    have hlines : (output .array text).display.toList =
        ['\n'].intercalate ((Text.splitOn '\n' text.toList).filter (!·.isEmpty)) := by
      simp [output, Formatted.display, nonEmptyLines, Function.comp_def]
    have hparts := @mem_bareWords_intercalate w ['\n'] (by decide) (by decide)
    rw [hlines, hparts]
    nth_rewrite 2 [← Text.intercalate_splitOn '\n' text.toList]
    rw [hparts]
    constructor
    · rintro ⟨l, hl, hw⟩
      exact ⟨l, List.mem_of_mem_filter hl, hw⟩
    · rintro ⟨l, hl, hw⟩
      refine ⟨l, List.mem_filter.mpr ⟨hl, ?_⟩, hw⟩
      cases l with
      | nil => cases hw
      | cons => rfl

/-- With the bundled tables, and whatever calls came before, the words of the fields that have a
place are words of the address, when the entry that was chosen has no rules for output. -/
theorem mem_bareWords_format {fm : Formatter} (hfm : make .bundled = .ok fm) (calls : List Call)
    (o : FormatOptions) (input : Fields) {e : CountryEntry}
    (he : Table.get? Bundled.templates (fm.normalize o input).templateKey = some e)
    (hrules : e.postformatReplace = []) {out : Formatted}
    (hout : (fm.format o input (calls.foldl fm.after .empty)).1 = .ok out) :
    ∀ name ∈ ["attention", "house", "house_number", "road"],
      ∀ value, Table.get? (fm.normalize o input).fields name = some value →
        ∀ w ∈ bareWords value.toList, w ∈ bareWords out.display.toList := by
  intro name hname value hvalue w hw
  have hfield : w ∈ bareWords ((fm.normalize o input).fields.textOf name).toList := by
    rwa [Fields.textOf, hvalue]
  obtain ⟨l, hl, hbody⟩ := Bundled.exists_layout (fm.normalize o input).templateKey
    (.ofFields (fm.normalize o input).fields)
  rw [format_eq_shown hfm (sound_foldl_after Cache.sound_empty fm calls) hl hbody] at hout
  obtain rfl := Except.ok.inj hout
  obtain ⟨lines, rest, rfl, hlines, hplaced⟩ := Bundled.opens_of_mem_allLayouts hl
  obtain ⟨line, hline, hmem⟩ := hplaced name hname
  rw [mem_bareWords_display_output]
  refine mem_bareWords_finish (postformatted_of_make hfm he hrules _) ?_
  rw [mem_bareWords_cleanup]
  exact Layout.mem_bareWords_shown _ rest hlines hline hmem hfield

/-- Separators, a braced word and double bars. -/
theorem mem_bareWords_format_of_separators :
    ∃ (fm : Formatter) (n : Normalized), make .bundled = .ok fm ∧
      fm.normalize {} (.ofList [("country_code", "AW"), ("house", "- a, a\x7d,\n"),
        ("road", "\x7b\x7bx\x7d\x7d||")]) = n ∧ n.templateKey = "AW" ∧
      (fm.format {} (.ofList [("country_code", "AW"), ("house", "- a, a\x7d,\n"),
        ("road", "\x7b\x7bx\x7d\x7d||")]) ([Call.clear].foldl fm.after .empty)).1 =
        .ok (.text "a, a\x7d\n\x7b\x7bx\x7d\x7d||\n") ∧
      ∀ name ∈ ["attention", "house", "house_number", "road"],
        ∀ value, Table.get? n.fields name = some value → ∀ w ∈ bareWords value.toList,
          w ∈ bareWords "a, a\x7d\n\x7b\x7bx\x7d\x7d||\n".toList := by
  have hsettled : bundled.normalize {} (.ofList [("country_code", "AW"), ("house", "- a, a\x7d,\n"),
      ("road", "\x7b\x7bx\x7d\x7d||")]) =
      ⟨.ofList [("country_code", "AW"), ("house", "- a, a\x7d,\n"), ("road", "\x7b\x7bx\x7d\x7d||")],
        some "AW", "AW", none⟩ :=
    Normalized.eq_of_parts (by decide +kernel)
  have hcache := sound_foldl_after Cache.sound_empty bundled [.clear]
  have hout := bundled_format_eq hsettled hcache (l := Bundled.generic7) (by decide)
    (by decide +kernel) (by decide +kernel : _ = "a, a\x7d\n\x7b\x7bx\x7d\x7d||\n")
  refine ⟨bundled, _, make_bundled, rfl, congrArg Normalized.templateKey hsettled, hout, ?_⟩
  exact mem_bareWords_format make_bundled [.clear] {} _ (e := Bundled.layouts Bundled.generic7
    Bundled.generic7) (by rw [hsettled]; rfl) rfl hout

end Formatter

end PostalAddress
