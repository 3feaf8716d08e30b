import PostalAddress.Proofs.Address.Opening
import PostalAddress.Proofs.Address.Rules
import PostalAddress.Proofs.Template.LineEnds
import PostalAddress.Proofs.Template.Printed

/-!
# What a layout shows

A layout denotes a text for every address: fields in order, plain text as it stands, and for a
choice the first of its fields that is not blank. Rendering the source of the layout gives this
text, whatever the fields hold.
-/

namespace PostalAddress

open Text

namespace Mark

/-- A text, or a tag that inserts a field as it is. -/
def IsLeaf : Mark → Prop
  | .text _ => True
  | .tag sigil name => sigil = some '\x7b' ∧ Fields.IsName name

def shown (f : Fields) : Mark → String
  | .text s => s
  | .tag _ name => f.textOf name

end Mark

namespace LayoutItem

/-- The text of which a choice keeps the first part that is not blank. -/
def choiceText (f : Fields) (names : List String) : String :=
  " " ++ " || ".intercalate (names.map f.textOf) ++ " "

def shown (f : Fields) : LayoutItem → String
  | .insert name => f.textOf name
  | .firstOf names => String.ofList (Alternatives.firstAvailable (choiceText f names).toList)
  | .text s => s

/-- The names of a choice, with bars between them and a blank after them. -/
def choiceRest : List String → List Mark
  | [] => [.text " "]
  | [name] => [.tag (some '\x7b') name, .text " "]
  | name :: names => .tag (some '\x7b') name :: .text " || " :: choiceRest names

/-- What stands between the tags of a choice. -/
def choiceMarks (names : List String) : List Mark := .text " " :: choiceRest names

def marks : LayoutItem → List Mark
  | .insert name => [.tag (some '\x7b') name]
  | .firstOf names =>
    .tag (some '#') Alternatives.key :: (choiceMarks names ++ [.tag (some '/') Alternatives.key])
  | .text s => [.text s]

/-- A name of a field that can be written in a tag. -/
def IsInsertable (name : String) : Prop := Fields.IsName name ∧ Mark.IsPlainName name

instance (name : String) : Decidable (IsInsertable name) := inferInstanceAs (Decidable (_ ∧ _))

def IsPlain : LayoutItem → Prop
  | .insert name => IsInsertable name
  | .firstOf names => names ≠ [] ∧ ∀ name ∈ names, IsInsertable name
  | .text s => s ≠ "" ∧ '\x7b' ∉ s.toList

instance : DecidablePred IsPlain
  | .insert name => inferInstanceAs (Decidable (IsInsertable name))
  | .firstOf names =>
    inferInstanceAs (Decidable (names ≠ [] ∧ ∀ name ∈ names, IsInsertable name))
  | .text s => inferInstanceAs (Decidable (s ≠ "" ∧ '\x7b' ∉ s.toList))

section Choices

theorem mem_choiceRest {names : List String} {m : Mark} (h : m ∈ choiceRest names) :
    m = .text " " ∨ m = .text " || " ∨ ∃ name ∈ names, m = .tag (some '\x7b') name := by
  fun_induction choiceRest names with
  | case1 => exact .inl (List.mem_singleton.mp h)
  | case2 name =>
    rw [List.mem_cons, List.mem_singleton] at h
    exact h.elim (fun h => .inr (.inr ⟨name, List.mem_singleton.mpr rfl, h⟩)) .inl
  | case3 name names _ ih =>
    rw [List.mem_cons, List.mem_cons] at h
    obtain h | h | h := h
    · exact .inr (.inr ⟨name, List.mem_cons_self, h⟩)
    · exact .inr (.inl h)
    · obtain h | h | ⟨name', hname', h⟩ := ih h
      · exact .inl h
      · exact .inr (.inl h)
      · exact .inr (.inr ⟨name', List.mem_cons_of_mem name hname', h⟩)

theorem mem_choiceMarks {names : List String} {m : Mark} (h : m ∈ choiceMarks names) :
    m = .text " " ∨ m = .text " || " ∨ ∃ name ∈ names, m = .tag (some '\x7b') name := by
  obtain h | h := List.mem_cons.mp h
  · exact .inl h
  · exact mem_choiceRest h

theorem isLeaf_choiceMarks {names : List String} (h : ∀ name ∈ names, Fields.IsName name) :
    ∀ m ∈ choiceMarks names, m.IsLeaf := by
  intro m hm
  obtain rfl | rfl | ⟨name, hname, rfl⟩ := mem_choiceMarks hm
  · trivial
  · trivial
  · exact ⟨rfl, h name hname⟩

theorem staysOnLine_of_mem_choiceMarks (names : List String) :
    ∀ m ∈ choiceMarks names, m.StaysOnLine := by
  intro m hm
  obtain rfl | rfl | ⟨name, _, rfl⟩ := mem_choiceMarks hm
  · decide
  · decide
  · trivial

theorem apart_choiceRest {names : List String} (h : names ≠ []) :
    Mark.Apart (choiceRest names) ∧ ∀ m ∈ (choiceRest names).head?, m.isText = false := by
  fun_induction choiceRest names with
  | case1 => exact absurd rfl h
  | case2 name => exact ⟨⟨nofun, fun _ => nofun, trivial⟩, fun m hm => Option.some.inj hm ▸ rfl⟩
  | case3 name names hne ih =>
    obtain ⟨hapart, hhead⟩ := ih hne
    exact ⟨⟨nofun, fun _ => hhead, hapart⟩, fun m hm => Option.some.inj hm ▸ rfl⟩

theorem apart_choiceMarks {names : List String} (h : names ≠ []) :
    Mark.Apart (choiceMarks names) := by
  obtain ⟨hapart, hhead⟩ := apart_choiceRest h
  exact ⟨fun _ => hhead, hapart⟩

theorem exists_isVar_choiceMarks {names : List String} (h : names ≠ []) :
    ∃ m ∈ choiceMarks names, m.IsVar := by
  obtain ⟨name, names, rfl⟩ := List.exists_cons_of_ne_nil h
  refine ⟨.tag (some '\x7b') name, List.mem_cons_of_mem _ ?_, by simp [Mark.IsVar]⟩
  cases names <;> exact List.mem_cons_self

theorem printAll_choiceMarks (names : List String) :
    Mark.printAll (choiceMarks names) =
      (" " ++ " || ".intercalate (names.map insertion) ++ " ").toList := by
  have hrest : Mark.printAll (choiceRest names) =
      (" || ".intercalate (names.map insertion) ++ " ").toList := by
    fun_induction choiceRest names with
    | case1 => rfl
    | case2 name => simp [Mark.printAll, Mark.print, insertion, Mark.closing]
    | case3 name names hne ih =>
      obtain ⟨name', names, rfl⟩ := List.exists_cons_of_ne_nil hne
      rw [Mark.printAll_cons, Mark.printAll_cons, ih]
      simp [Mark.print, insertion, Mark.closing, String.intercalate_cons_cons]
  rw [choiceMarks, Mark.printAll_cons, hrest]
  simp [Mark.print]

theorem join_choiceMarks (f : Fields) (names : List String) :
    String.join ((choiceMarks names).map (Mark.shown f)) = choiceText f names := by
  have hrest : String.join ((choiceRest names).map (Mark.shown f)) =
      " || ".intercalate (names.map f.textOf) ++ " " := by
    fun_induction choiceRest names with
    | case1 => rfl
    | case2 name => simp [Mark.shown]
    | case3 name names hne ih =>
      obtain ⟨name', names, rfl⟩ := List.exists_cons_of_ne_nil hne
      rw [List.map_cons, List.map_cons, String.join_cons, String.join_cons, ih]
      simp [Mark.shown, String.intercalate_cons_cons, String.append_assoc]
  rw [choiceMarks, List.map_cons, String.join_cons, hrest, choiceText, String.append_assoc]
  rfl

end Choices

theorem printAll_marks (i : LayoutItem) : Mark.printAll i.marks = i.source.toList := by
  cases i with
  | insert name => simp [marks, Mark.printAll, Mark.print, source, insertion, Mark.closing]
  | firstOf names =>
    rw [marks, Mark.printAll_cons, Mark.printAll_append, printAll_choiceMarks, source]
    simp [Mark.printAll, Mark.print, Mark.closing, Alternatives.key]
  | text s => simp [marks, Mark.printAll, Mark.print, source]

section Rendering

variable {r : Renderer} (partials : Partials) (f : Fields)

/-- Without sections the tokens of marks show one after the other. -/
theorem exists_nested_of_leaves (escape : String → String)
    (sub : List (Value Selector) → String → Rendered) {ms : List Mark}
    (h : ∀ m ∈ ms, m.IsLeaf) (before : Placement) (p : Nat) :
    ∃ us, Nested (Mark.flats before p ms) us ∧ ∀ source,
      Plain.renderTokens Selector.compute escape partials sub source [Formatter.view f] us =
        .ok (String.join (ms.map (Mark.shown f))) := by
  induction ms generalizing before p with
  | nil => exact ⟨[], .nil, fun _ => rfl⟩
  | cons m ms ih =>
    obtain ⟨hm, hms⟩ := List.forall_mem_cons.mp h
    obtain ⟨us, hnest, hrender⟩ := ih hms ((m.pieces p).foldl .after before)
      (p + byteLength m.print)
    cases m with
    | text s =>
      refine ⟨_, .leaf (.text s) _ hnest, fun source => ?_⟩
      rw [Plain.renderTokens, hrender, List.map_cons, String.join_cons]
      rfl
    | tag sigil name =>
      obtain ⟨rfl, hname⟩ := hm
      refine ⟨_, .leaf (.var name false) _ hnest, fun source => ?_⟩
      rw [Plain.renderTokens, hrender, Plain.renderToken, Plain.renderLeaf,
        Formatter.renderVar_view hname, List.map_cons, String.join_cons]
      rfl

/-- The choice is the value that its section stands for, with what it is to choose from as its
source. -/
theorem renderBlock_choice {sub : String → Rendered} {source body text : String}
    (hsub : sub body = .ok text) {span : Span} {closeStart : Nat}
    (hbody : Template.sectionSource source span closeStart = some body)
    (children : List (Value Selector) → Rendered) (views : List (Value Selector)) :
    Plain.renderBlock sub (some source) children views span closeStart
        (.lambda Alternatives.choose) =
      .ok (String.ofList (Alternatives.firstAvailable text.toList)) := by
  simp only [Plain.renderBlock, Option.bind_some, hbody, Alternatives.choose, Plain.runLambda,
    hsub]

theorem valueOf_key : Context.valueOf Selector.compute Alternatives.key [Formatter.view f] =
    some (.lambda Alternatives.choose) := by
  have hresolve : Context.resolve Alternatives.key [Formatter.view f] =
      some (.computed Selector.first) := by
    rw [Context.resolve, if_neg (by decide), List.findSome?_singleton, Context.resolveIn]
    change Table.get? (Table.insert _ _ _) Alternatives.key = _
    rw [Table.get?_insert, if_pos rfl]
  rw [Context.valueOf, hresolve]
  rfl

theorem sectionSource_choice {start stop : List Char} (names : List String)
    (opening closing : Mark) :
    Template.sectionSource
        (String.ofList (start ++
          (Mark.printAll (opening :: (choiceMarks names ++ [closing])) ++ stop)))
        ⟨byteLength start, byteLength start + byteLength opening.print⟩
        (byteLength start + byteLength opening.print +
          byteLength (Mark.printAll (choiceMarks names))) =
      some (String.ofList (Mark.printAll (choiceMarks names))) := by
  have hslice := sliceBytes_append (start ++ opening.print) (Mark.printAll (choiceMarks names))
    (Mark.printAll [closing] ++ stop)
  rw [byteLength_append] at hslice
  rw [Template.sectionSource, String.toList_ofList, Mark.printAll_cons, Mark.printAll_append]
  simp only [List.append_assoc] at hslice ⊢
  rw [hslice]
  rfl

/-- An item nests to one token, which shows what the item does wherever its source stands. -/
theorem exists_nested_marks (escape : String → String)
    (sub : List (Value Selector) → String → Rendered) {i : LayoutItem} (hi : i.IsPlain)
    (hsub : ∀ names, i = .firstOf names →
      sub [Formatter.view f] (String.ofList (Mark.printAll (choiceMarks names))) =
        .ok (choiceText f names))
    (start : List Char) (before : Placement) {ts : List FlatToken} {us : List Token}
    (hnest : Nested ts us) :
    ∃ t, Nested (Mark.flats before (byteLength start) i.marks ++ ts) (t :: us) ∧ ∀ stop,
      Plain.renderToken Selector.compute escape partials sub
          (some (String.ofList (start ++ (Mark.printAll i.marks ++ stop)))) [Formatter.view f] t =
        .ok (i.shown f) := by
  cases i with
  | text s => exact ⟨_, .leaf (.text s) _ hnest, fun _ => rfl⟩
  | insert name =>
    refine ⟨_, .leaf (.var name false) _ hnest, fun _ => ?_⟩
    rw [Plain.renderToken, Plain.renderLeaf, Formatter.renderVar_view hi.1]
    rfl
  | firstOf names =>
    have hleaves := isLeaf_choiceMarks fun name hname => (hi.2 name hname).1
    let opening : Mark := .tag (some '#') Alternatives.key
    let closing : Mark := .tag (some '/') Alternatives.key
    let inside := (opening.pieces (byteLength start)).foldl .after before
    let bodyStart := byteLength start + byteLength opening.print
    let bodyStop := bodyStart + byteLength (Mark.printAll (choiceMarks names))
    -- The opening tag stands before the marks to choose from, and the closing tag after them.
    obtain ⟨after, hflats⟩ := Mark.exists_flats_append inside bodyStart (choiceMarks names) [closing]
    obtain ⟨children, hchildren, _⟩ := exists_nested_of_leaves partials f escape sub hleaves inside
      bodyStart
    have hmarks : Mark.flats before (byteLength start) (marks (.firstOf names)) =
        .opening Alternatives.key false ⟨byteLength start, bodyStart⟩ ::
          (Mark.flats inside bodyStart (choiceMarks names) ++
            [.closing Alternatives.key ⟨bodyStop, bodyStop + byteLength closing.print⟩]) :=
      congrArg (List.cons _) hflats
    refine ⟨.block Alternatives.key false ⟨byteLength start, bodyStart⟩ bodyStop children, ?_,
      fun stop => ?_⟩
    · rw [hmarks, List.cons_append, List.append_assoc]
      exact .block _ _ _ ⟨bodyStop, bodyStop + byteLength closing.print⟩ hchildren hnest
    · rw [Plain.renderToken, valueOf_key]
      dsimp only
      rw [if_neg Bool.false_ne_true, Option.any_some, Value.isTruthy, if_pos rfl]
      exact renderBlock_choice (hsub names rfl) (sectionSource_choice names opening closing) _ _

/-- Items nest and show one after the other, when every choice among them is rendered from its own
source. -/
theorem exists_nested_of_items (escape : String → String)
    (sub : List (Value Selector) → String → Rendered) {items : List LayoutItem}
    (h : ∀ i ∈ items, i.IsPlain)
    (hsub : ∀ names, .firstOf names ∈ items →
      sub [Formatter.view f] (String.ofList (Mark.printAll (choiceMarks names))) =
        .ok (choiceText f names))
    (start : List Char) (before : Placement) :
    ∃ us, Nested (Mark.flats before (byteLength start) (items.flatMap marks)) us ∧
      Plain.renderTokens Selector.compute escape partials sub
          (some (String.ofList (start ++ Mark.printAll (items.flatMap marks))))
          [Formatter.view f] us =
        .ok (String.join (items.map (shown f))) := by
  induction items generalizing start before with
  | nil => exact ⟨[], .nil, rfl⟩
  | cons i items ih =>
    obtain ⟨hi, hitems⟩ := List.forall_mem_cons.mp h
    obtain ⟨after, hflats⟩ := Mark.exists_flats_append before (byteLength start) i.marks
      (items.flatMap marks)
    obtain ⟨us, hnest, hrest⟩ := ih hitems
      (fun names hnames => hsub names (List.mem_cons_of_mem i hnames))
      (start ++ Mark.printAll i.marks) after
    rw [byteLength_append] at hnest
    obtain ⟨t, ht, hfirst⟩ := exists_nested_marks partials f escape sub hi
      (fun names hnames => hsub names (hnames ▸ List.mem_cons_self)) start before hnest
    rw [List.append_assoc] at hrest
    refine ⟨t :: us, ?_, ?_⟩
    · rwa [List.flatMap_cons, hflats]
    · rw [List.flatMap_cons, Mark.printAll_append, Plain.renderTokens, hfirst, hrest, List.map_cons,
        String.join_cons]
      rfl

theorem isPlain_of_mem_choiceMarks {names : List String}
    (h : ∀ name ∈ names, IsInsertable name) : ∀ m ∈ choiceMarks names, m.IsPlain := by
  intro m hm
  obtain rfl | rfl | ⟨name, hname, rfl⟩ := mem_choiceMarks hm
  · decide
  · decide
  · exact ⟨by decide, (h name hname).2⟩

theorem isPlain_of_mem_marks {i : LayoutItem} (hi : i.IsPlain) : ∀ m ∈ i.marks, m.IsPlain := by
  cases i with
  | insert name =>
    intro m hm
    obtain rfl := List.mem_singleton.mp hm
    exact ⟨by decide, hi.2⟩
  | text s =>
    intro m hm
    obtain rfl := List.mem_singleton.mp hm
    exact hi
  | firstOf names =>
    rw [marks, List.forall_mem_cons, List.forall_mem_append, List.forall_mem_singleton]
    exact ⟨by decide, isPlain_of_mem_choiceMarks hi.2, by decide⟩

/-- What a choice is to choose from is rendered to the text that it keeps a part of. -/
theorem renderSource_choiceMarks (hr : r.delimiters = .braces) {names : List String}
    (h : (LayoutItem.firstOf names).IsPlain) (depth : Nat) :
    Plain.renderSource r Selector.compute partials (depth + 1) [Formatter.view f]
        (String.ofList (Mark.printAll (choiceMarks names))) =
      .ok (choiceText f names) := by
  obtain ⟨hne, hnames⟩ := h
  obtain ⟨us, hnest, hrender⟩ := exists_nested_of_leaves partials f r.escape
    (Plain.renderSource r Selector.compute partials depth)
    (isLeaf_choiceMarks fun name hname => (hnames name hname).1) .start 0
  have hloud := Mark.exists_isLoud (exists_isVar_choiceMarks hne)
  have hline := Mark.lines_piecesAll (staysOnLine_of_mem_choiceMarks names) hloud (.inl rfl)
  rw [List.append_nil] at hline
  have hcompile := Template.compile_printAll (isPlain_of_mem_choiceMarks hnames)
    (apart_choiceMarks hne) hline hloud hnest
  rw [Plain.renderSource, hr, hcompile, Except.bind]
  dsimp only
  rw [hrender, join_choiceMarks]

/-- Items that stand on one line show one after the other. -/
theorem renderSource_items (hr : r.delimiters = .braces) {items : List LayoutItem}
    (h : ∀ i ∈ items, i.IsPlain) (hapart : Mark.Apart (items.flatMap marks))
    (hline : Piece.lines (Mark.piecesAll 0 (items.flatMap marks)) =
      [Mark.piecesAll 0 (items.flatMap marks)])
    (hvar : ∃ m ∈ items.flatMap marks, m.IsVar) (depth : Nat) :
    (∃ t, Template.compile (String.ofList (Mark.printAll (items.flatMap marks))) .braces = .ok t) ∧
    Plain.renderSource r Selector.compute partials (depth + 2) [Formatter.view f]
        (String.ofList (Mark.printAll (items.flatMap marks))) =
      .ok (String.join (items.map (shown f))) := by
  have hplain : ∀ m ∈ items.flatMap marks, m.IsPlain := by
    intro m hm
    obtain ⟨i, hi, hm⟩ := List.mem_flatMap.mp hm
    exact isPlain_of_mem_marks (h i hi) m hm
  obtain ⟨us, hnest, hrender⟩ := exists_nested_of_items partials f r.escape
    (Plain.renderSource r Selector.compute partials (depth + 1)) h
    (fun names hnames => renderSource_choiceMarks partials f hr (h _ hnames) depth) [] .start
  have hcompile := Template.compile_printAll hplain hapart hline (Mark.exists_isLoud hvar) hnest
  refine ⟨⟨_, hcompile⟩, ?_⟩
  rw [Plain.renderSource, hr, hcompile, Except.bind]
  exact hrender

end Rendering

end LayoutItem

section Lines

open LayoutItem

variable {r : Renderer} (partials : Partials) (f : Fields)

/-- A line of a layout can be printed, and inserts a field somewhere. -/
structure Layout.IsPrintable (line : List LayoutItem) : Prop where
  plain : ∀ i ∈ line, i.IsPlain
  staysOnLine : ∀ m ∈ line.flatMap marks, m.StaysOnLine
  apart : Mark.Apart (line.flatMap marks ++ [.text "\n"])
  isVar : ∃ m ∈ line.flatMap marks, m.IsVar

instance (line : List LayoutItem) : Decidable (Layout.IsPrintable line) :=
  decidable_of_iff ((∀ i ∈ line, i.IsPlain) ∧ (∀ m ∈ line.flatMap marks, m.StaysOnLine) ∧
    Mark.Apart (line.flatMap marks ++ [.text "\n"]) ∧ ∃ m ∈ line.flatMap marks, m.IsVar)
    ⟨fun h => ⟨h.1, h.2.1, h.2.2.1, h.2.2.2⟩, fun h => ⟨h.plain, h.staysOnLine, h.apart, h.isVar⟩⟩

/-- The text of a layout, line by line. -/
def Layout.shown (l : Layout) : String :=
  String.join (l.map fun line => String.join (line.map (LayoutItem.shown f)) ++ "\n")

theorem Template.endsLine_printAll {ms : List Mark}
    (h : ∀ m ∈ ms ++ [.text "\n"], m.IsPlain) :
    EndsLine .braces (String.ofList (Mark.printAll (ms ++ [.text "\n"]))) := by
  have hread := Mark.reads_printAll h [] 0
  rw [List.append_nil] at hread
  have hpieces := Pieces.read_of_reads hread
  dsimp only at hpieces
  constructor
  · rw [String.toList_ofList, hpieces, Mark.piecesAll_append]
    exact ⟨_, List.getLast?_concat⟩
  · rw [String.toList_ofList, hpieces]
    exact hread.delimiters_eq.symm

theorem Layout.isPlain_of_mem_line {line : List LayoutItem} (h : Layout.IsPrintable line) :
    ∀ m ∈ line.flatMap marks ++ [.text "\n"], m.IsPlain := by
  rw [List.forall_mem_append, List.forall_mem_singleton]
  refine ⟨fun m hm => ?_, by decide⟩
  obtain ⟨i, hi, hm⟩ := List.mem_flatMap.mp hm
  exact isPlain_of_mem_marks (h.plain i hi) m hm

/-- The source of a line with its newline. -/
def Layout.lineSource (line : List LayoutItem) : String :=
  String.join (line.map LayoutItem.source) ++ "\n"

theorem Layout.lineSource_eq (line : List LayoutItem) :
    Layout.lineSource line =
      String.ofList (Mark.printAll (line.flatMap marks ++ [.text "\n"])) := by
  have hmarks : Mark.printAll (line.flatMap marks) = line.flatMap (·.source.toList) := by
    rw [Mark.printAll, List.flatMap_assoc]
    exact congrArg (List.flatMap · line) (funext printAll_marks)
  rw [← String.toList_inj, String.toList_ofList, Mark.printAll_append, hmarks, lineSource,
    String.toList_append, String.toList_join, List.flatMap_map]
  rfl

theorem Layout.toList_source (l : Layout) :
    l.source.toList = l.flatMap fun line => Mark.printAll (line.flatMap marks ++ [.text "\n"]) := by
  have hline : ∀ line : List LayoutItem, (Layout.lineSource line).toList =
      Mark.printAll (line.flatMap marks ++ [.text "\n"]) := by
    intro line
    rw [Layout.lineSource_eq, String.toList_ofList]
  rw [source, String.toList_join, List.flatMap_map]
  exact congrArg (List.flatMap · l) (funext hline)

/-- A line renders to what its items show, and ends its line. -/
theorem Layout.renderSource_lineSource (hr : r.delimiters = .braces) {line : List LayoutItem}
    (h : Layout.IsPrintable line) (depth : Nat) :
    (∃ t, Template.compile (Layout.lineSource line) .braces = .ok t) ∧
    Template.EndsLine .braces (Layout.lineSource line) ∧
    Plain.renderSource r Selector.compute partials (depth + 2) [Formatter.view f]
        (Layout.lineSource line) =
      .ok (String.join (line.map (LayoutItem.shown f)) ++ "\n") := by
  -- The newline is one more item of plain text.
  have hitems : ∀ i ∈ line ++ [LayoutItem.text "\n"], i.IsPlain := by
    rw [List.forall_mem_append, List.forall_mem_singleton]
    exact ⟨h.plain, by decide⟩
  have hmarks : (line ++ [LayoutItem.text "\n"]).flatMap marks = line.flatMap marks ++ [.text "\n"] :=
    List.flatMap_append
  have hvar : ∃ m ∈ line.flatMap marks ++ [.text "\n"], m.IsVar := by
    obtain ⟨m, hm, hvar⟩ := h.isVar
    exact ⟨m, List.mem_append_left _ hm, hvar⟩
  have hline := Mark.lines_piecesAll h.staysOnLine (Mark.exists_isLoud h.isVar) (.inr rfl)
  rw [← hmarks] at hline hvar
  obtain ⟨hcompile, hrender⟩ := renderSource_items partials f hr hitems (hmarks ▸ h.apart) hline
    hvar depth
  rw [hmarks, ← Layout.lineSource_eq] at hcompile hrender
  refine ⟨hcompile, ?_, ?_⟩
  · rw [Layout.lineSource_eq]
    exact Template.endsLine_printAll (Layout.isPlain_of_mem_line h)
  · rw [hrender, List.map_append, String.join_append]
    rfl

/-- Whatever the fields hold, the source of a layout renders to the text of the layout. -/
theorem Layout.renderSource_source (hr : r.delimiters = .braces) {l : Layout}
    (h : ∀ line ∈ l, Layout.IsPrintable line) (depth : Nat) :
    (∃ t, Template.compile l.source .braces = .ok t) ∧
    Plain.renderSource r Selector.compute partials (depth + 2) [Formatter.view f] l.source =
      .ok (l.shown f) := by
  induction l with
  | nil => exact ⟨⟨_, rfl⟩, rfl⟩
  | cons line l ih =>
    obtain ⟨hline, hl⟩ := List.forall_mem_cons.mp h
    obtain ⟨⟨t, ht⟩, hrest⟩ := ih hl
    obtain ⟨⟨u, hu⟩, hend, hfirst⟩ := Layout.renderSource_lineSource partials f hr hline depth
    have hsource : Layout.source (line :: l) = Layout.lineSource line ++ Layout.source l :=
      String.join_cons
    have hcompile := Template.compile_append hu hend (by decide) (Layout.source l)
    rw [← hr] at hu hend ht
    rw [hsource]
    refine ⟨?_, ?_⟩
    · rw [hcompile, ← hr, ht]
      exact ⟨_, rfl⟩
    · rw [Plain.renderSource_append r Selector.compute partials (by rw [hr]; decide) hu hend ht,
        hfirst, hrest]
      exact congrArg Except.ok String.join_cons.symm

end Lines

namespace LayoutItem

/-- The fields that an item shows. -/
def names : LayoutItem → List String
  | .insert name => [name]
  | .firstOf names => names
  | .text _ => []

theorem shown_congr {f g : Fields} {i : LayoutItem} (h : ∀ n ∈ i.names, f.textOf n = g.textOf n) :
    i.shown f = i.shown g := by
  cases i with
  | insert name => exact h name List.mem_cons_self
  | firstOf names =>
    have htexts : names.map f.textOf = names.map g.textOf := List.map_congr_left h
    rw [shown, shown, choiceText, choiceText, htexts]
  | text s => rfl

theorem isInfix_insertion (name : String) : name.toList <:+: (insertion name).toList :=
  ⟨"\x7b\x7b\x7b".toList, "\x7d\x7d\x7d".toList, by simp [insertion]⟩

theorem isInfix_intercalate_insertion {name : String} {names : List String} (h : name ∈ names) :
    name.toList <:+: (" || ".intercalate (names.map insertion)).toList := by
  induction names with
  | nil => cases h
  | cons n names ih =>
    cases names with
    | nil =>
      obtain rfl := List.mem_singleton.mp h
      simpa using isInfix_insertion name
    | cons n' names =>
      rw [List.map_cons, List.map_cons, String.intercalate_cons_cons, String.toList_append,
        String.toList_append]
      obtain rfl | h := List.mem_cons.mp h
      · exact ((isInfix_insertion name).trans (List.prefix_append _ _).isInfix).trans
          (List.prefix_append _ _).isInfix
      · exact (ih h).trans (List.suffix_append _ _).isInfix

/-- A field that is shown occurs in the source. -/
theorem isInfix_source {name : String} {i : LayoutItem} (h : name ∈ i.names) :
    name.toList <:+: i.source.toList := by
  cases i with
  | insert name' =>
    obtain rfl := List.mem_singleton.mp h
    exact isInfix_insertion name
  | firstOf names =>
    rw [source, String.toList_append, String.toList_append]
    exact ((isInfix_intercalate_insertion h).trans (List.suffix_append _ _).isInfix).trans
      (List.prefix_append _ _).isInfix
  | text s => cases h

end LayoutItem

def Layout.names (l : Layout) : List String := l.flatMap fun line => line.flatMap LayoutItem.names

theorem Layout.shown_congr {f g : Fields} {l : Layout}
    (h : ∀ line ∈ l, ∀ i ∈ line, i.shown f = i.shown g) : l.shown f = l.shown g := by
  refine congrArg String.join (List.map_congr_left fun line hline => ?_)
  rw [List.map_congr_left (h line hline)]

theorem Layout.isInfix_source {name : String} {l : Layout} (h : name ∈ l.names) :
    name.toList <:+: l.source.toList := by
  obtain ⟨line, hline, h⟩ := List.mem_flatMap.mp h
  obtain ⟨i, hi, h⟩ := List.mem_flatMap.mp h
  have hmem : ∀ {s : String} {ss : List String}, s ∈ ss → s.toList <:+: (String.join ss).toList := by
    intro s ss hs
    obtain ⟨before, after, rfl⟩ := List.append_of_mem hs
    refine ⟨before.flatMap String.toList, after.flatMap String.toList, ?_⟩
    simp [String.toList_join]
  rw [source]
  refine ((LayoutItem.isInfix_source h).trans (hmem (List.mem_map_of_mem hi))).trans ?_
  refine List.IsInfix.trans ?_ (hmem (List.mem_map_of_mem hline))
  rw [String.toList_append]
  exact (List.prefix_append _ _).isInfix

namespace Bundled

theorem isPrintable_of_mem_allLayouts :
    ∀ l ∈ allLayouts, ∀ line ∈ l, Layout.IsPrintable line := by decide +kernel

theorem length_source_pos {l : Layout} (h : l ∈ allLayouts) : 0 < l.source.length := by
  have hne : ∀ l ∈ allLayouts, l ≠ [] := by decide
  obtain ⟨line, l, rfl⟩ := List.exists_cons_of_ne_nil (hne l h)
  rw [Layout.source, List.map_cons, String.join_cons, String.length_append, String.length_append]
  exact Nat.add_pos_left (Nat.add_pos_right _ (by decide)) _

end Bundled

/-- Settled addresses are compared part by part: deciding that two are equal would rewrite one part
into the next, which the kernel computes far more slowly. -/
theorem Normalized.eq_of_parts {n n' : Normalized}
    (h : (n.fields.entries, n.countryCode, n.templateKey, n.redirectedFrom) =
      (n'.fields.entries, n'.countryCode, n'.templateKey, n'.redirectedFrom)) : n = n' := by
  obtain ⟨f, c, k, r⟩ := n
  obtain ⟨f', c', k', r'⟩ := n'
  simp only [Prod.mk.injEq] at h
  obtain ⟨hentries, rfl, rfl, rfl⟩ := h
  rw [Table.ext hentries]

namespace Formatter

/-- A layout renders as it does without a state, whatever was rendered before. -/
theorem renderBody_eq_plain {cache : Cache} (h : cache.Sound) (f : Fields) (body : String) :
    (renderBody f body cache).1 =
      Plain.renderSource { renderer with depth := body.length + 1 } Selector.compute
        Renderer.noPartials (body.length + 1) [view f] body :=
  Renderer.render_eq_plain { renderer with depth := body.length + 1 } _ _ body (view f)
    (h.faithful colonless_renderer)

/-- A bundled layout renders to its text, whatever was rendered before. -/
theorem renderBody_source {cache : Cache} (hcache : cache.Sound) {l : Layout}
    (hl : l ∈ Bundled.allLayouts) (f : Fields) :
    (renderBody f l.source cache).1 = .ok (l.shown f) := by
  obtain ⟨depth, hdepth⟩ := Nat.exists_eq_add_of_lt (Bundled.length_source_pos hl)
  have hnested : l.source.length + 1 = depth + 2 := by omega
  rw [renderBody_eq_plain hcache, hnested]
  exact (Layout.renderSource_source Renderer.noPartials f rfl
    (Bundled.isPrintable_of_mem_allLayouts l hl) depth).2

/-- With the bundled tables an address comes to the text of its layout, cleaned and finished. -/
theorem render_eq_shown {fm : Formatter} (hfm : make .bundled = .ok fm) {n : Normalized}
    {cache : Cache} (hcache : cache.Sound) {l : Layout} (hl : l ∈ Bundled.allLayouts)
    (hbody : Bundled.templates.body? n.templateKey (.ofFields n.fields) = some l.source) :
    (fm.render n cache).1 = .ok (fm.finish n (cleanup (l.shown n.fields))) := by
  have hdata := data_of_make hfm
  rw [render, hdata, AddressData.bundled, hbody]
  dsimp only
  rw [renderBody_source hcache hl]
  rfl

theorem format_eq_shown {fm : Formatter} (hfm : make .bundled = .ok fm) {o : FormatOptions}
    {f : Fields} {cache : Cache} (hcache : cache.Sound) {l : Layout} (hl : l ∈ Bundled.allLayouts)
    (hbody : Bundled.templates.body? (fm.normalize o f).templateKey
      (.ofFields (fm.normalize o f).fields) = some l.source) :
    (fm.format o f cache).1 = .ok (output o.output
      (fm.finish (fm.normalize o f) (cleanup (l.shown (fm.normalize o f).fields)))) :=
  congrArg (Except.map (output o.output)) (render_eq_shown hfm hcache hl hbody)

/-- What the bundled formatter makes of an address that settles to `n`. -/
theorem bundled_format_eq {o : FormatOptions} {f : Fields} {n : Normalized}
    (hnormalize : bundled.normalize o f = n) {cache : Cache} (hcache : cache.Sound) {l : Layout}
    (hl : l ∈ Bundled.allLayouts)
    (hbody : Bundled.templates.body? n.templateKey (.ofFields n.fields) = some l.source)
    {text : String} (htext : bundled.finish n (cleanup (l.shown n.fields)) = text) :
    (bundled.format o f cache).1 = .ok (output o.output text) := by
  subst hnormalize htext
  exact format_eq_shown make_bundled hcache hl hbody

end Formatter

end PostalAddress
