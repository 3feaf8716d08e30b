import PostalAddress.Proofs.Template.Printed

/-!
# Compiling what was printed

A shape is what a template says: its texts, and its tags by their names. Printed on one line that
shows something it compiles to the tokens of the shape again. Only the notes of comments are lost,
since a comment keeps nothing but its place.
-/

namespace PostalAddress

open Text

/-- What a template says: texts, and tags by their names. -/
inductive Shape
  | text (s : String)
  | var (name : String) (escaped : Bool)
  | inclusion (name : String)
  | comment (note : String)
  | block (name : String) (inverted : Bool) (body : List Shape)

namespace Token

mutual

/-- The token without where it stands. -/
def unplaced : Token → Token
  | .leaf (.inclusion name _) _ => .leaf (.inclusion name .start) ⟨0, 0⟩
  | .leaf l _ => .leaf l ⟨0, 0⟩
  | .block name inverted _ _ children => .block name inverted ⟨0, 0⟩ 0 (unplacedAll children)

def unplacedAll : List Token → List Token
  | [] => []
  | t :: ts => unplaced t :: unplacedAll ts

end

end Token

namespace Shape

mutual

def print : Shape → String
  | .text s => s
  | .var name true => "\x7b\x7b" ++ name ++ "\x7d\x7d"
  | .var name false => "\x7b\x7b\x7b" ++ name ++ "\x7d\x7d\x7d"
  | .inclusion name => "\x7b\x7b>" ++ name ++ "\x7d\x7d"
  | .comment note => "\x7b\x7b!" ++ note ++ "\x7d\x7d"
  | .block name inverted body =>
    (if inverted then "\x7b\x7b^" else "\x7b\x7b#") ++ name ++ "\x7d\x7d" ++ printAll body ++
      "\x7b\x7b/" ++ name ++ "\x7d\x7d"

def printAll : List Shape → String
  | [] => ""
  | x :: xs => print x ++ printAll xs

end

mutual

/-- The token of a shape, without a place. -/
def token : Shape → Token
  | .text s => .leaf (.text s) ⟨0, 0⟩
  | .var name escaped => .leaf (.var name escaped) ⟨0, 0⟩
  | .inclusion name => .leaf (.inclusion name .start) ⟨0, 0⟩
  | .comment _ => .leaf .comment ⟨0, 0⟩
  | .block name inverted body => .block name inverted ⟨0, 0⟩ 0 (tokens body)

def tokens : List Shape → List Token
  | [] => []
  | x :: xs => token x :: tokens xs

end

def isText : Shape → Bool
  | .text _ => true
  | _ => false

/-- A name of letters, digits, underscores and dots. -/
def IsName (name : String) : Prop :=
  name ≠ "" ∧ ∀ c ∈ name.toList, c.isAlphanum ∨ c = '_' ∨ c = '.'

mutual

/-- Texts that stay on the line and open no tag, and names throughout. -/
def Printable : Shape → Prop
  | .text s => s ≠ "" ∧ '\x7b' ∉ s.toList ∧ '\n' ∉ s.toList
  | .var name _ => IsName name
  | .inclusion name => IsName name
  | .comment note => IsName note
  | .block name _ body => IsName name ∧ PrintableAll body

/-- No text stands directly before another. -/
def PrintableAll : List Shape → Prop
  | [] => True
  | x :: xs => Printable x ∧ (x.isText → ∀ y ∈ xs.head?, y.isText = false) ∧ PrintableAll xs

end

mutual

/-- A variable, or a text that is not all white space, at any depth. -/
def Shows : Shape → Prop
  | .text s => ∃ c ∈ s.toList, isBlank c = false
  | .var _ _ => True
  | .inclusion _ => False
  | .comment _ => False
  | .block _ _ body => ShowsAny body

def ShowsAny : List Shape → Prop
  | [] => False
  | x :: xs => Shows x ∨ ShowsAny xs

end

section Marks

mutual

/-- The marks that a shape is printed with. -/
def marks : Shape → List Mark
  | .text s => [.text s]
  | .var name true => [.tag none name]
  | .var name false => [.tag (some '\x7b') name]
  | .inclusion name => [.tag (some '>') name]
  | .comment note => [.tag (some '!') note]
  | .block name inverted body =>
    .tag (some (if inverted then '^' else '#')) name :: (marksAll body ++ [.tag (some '/') name])

def marksAll : List Shape → List Mark
  | [] => []
  | x :: xs => marks x ++ marksAll xs

end

mutual

theorem printAll_marks : ∀ x : Shape, Mark.printAll x.marks = x.print.toList
  | .text s => by simp [marks, print, Mark.printAll, Mark.print]
  | .var name true => by simp [marks, print, Mark.printAll, Mark.print, Mark.closing]
  | .var name false => by simp [marks, print, Mark.printAll, Mark.print, Mark.closing]
  | .inclusion name => by simp [marks, print, Mark.printAll, Mark.print, Mark.closing]
  | .comment note => by simp [marks, print, Mark.printAll, Mark.print, Mark.closing]
  | .block name inverted body => by
    have hbody := printAll_marksAll body
    rw [marks, Mark.printAll_cons, Mark.printAll_append, hbody]
    cases inverted <;> simp [print, Mark.printAll, Mark.print, Mark.closing]

theorem printAll_marksAll : ∀ xs : List Shape, Mark.printAll (marksAll xs) = (printAll xs).toList
  | [] => rfl
  | x :: xs => by
    rw [marksAll, Mark.printAll_append, printAll_marks x, printAll_marksAll xs, printAll,
      String.toList_append]

end

theorem IsName.marks {name : String} (h : IsName name) {sigil : Option Char}
    (hsigil : sigil ∈ [none, '#', '^', '/', '>', '\x7b', '&', '!']) :
    (Mark.tag sigil name).IsPlain ∧ (Mark.tag sigil name).StaysOnLine :=
  ⟨⟨hsigil, Mark.isPlainName_of_isAlphanum h.2⟩, trivial⟩

mutual

theorem Printable.marks : ∀ {x : Shape}, x.Printable →
    ∀ m ∈ x.marks, m.IsPlain ∧ m.StaysOnLine
  | .text s, h => by
    rw [Printable] at h
    rw [Shape.marks, List.forall_mem_singleton]
    exact ⟨⟨h.1, h.2.1⟩, h.2.2⟩
  | .var name escaped, h => by
    rw [Printable] at h
    cases escaped <;> exact List.forall_mem_singleton.mpr (h.marks (by decide))
  | .inclusion name, h => by
    rw [Printable] at h
    exact List.forall_mem_singleton.mpr (h.marks (by decide))
  | .comment note, h => by
    rw [Printable] at h
    exact List.forall_mem_singleton.mpr (h.marks (by decide))
  | .block name inverted body, h => by
    rw [Printable] at h
    rw [Shape.marks, List.forall_mem_cons, List.forall_mem_append, List.forall_mem_singleton]
    exact ⟨h.1.marks (by cases inverted <;> decide), PrintableAll.marksAll h.2,
      h.1.marks (by decide)⟩

theorem PrintableAll.marksAll : ∀ {xs : List Shape}, PrintableAll xs →
    ∀ m ∈ marksAll xs, m.IsPlain ∧ m.StaysOnLine
  | [], _ => nofun
  | x :: xs, h => by
    rw [PrintableAll] at h
    rw [Shape.marksAll, List.forall_mem_append]
    exact ⟨Printable.marks h.1, PrintableAll.marksAll h.2.2⟩

end

/-- The first mark of a shape is a text where the shape is one. -/
theorem exists_marks_eq_cons (x : Shape) : ∃ m ms, x.marks = m :: ms ∧ m.isText = x.isText := by
  cases x with
  | var name escaped => cases escaped <;> exact ⟨_, _, rfl, rfl⟩
  | block name inverted body =>
    rw [marks]
    exact ⟨_, _, rfl, rfl⟩
  | _ => exact ⟨_, _, rfl, rfl⟩

theorem isText_head?_marksAll {xs : List Shape} (hxs : ∀ y ∈ xs.head?, y.isText = false)
    {rest : List Mark} (hrest : ∀ m ∈ rest.head?, m.isText = false) :
    ∀ m ∈ (marksAll xs ++ rest).head?, m.isText = false := by
  cases xs with
  | nil => exact hrest
  | cons x xs =>
    obtain ⟨m, ms, hmarks, htext⟩ := exists_marks_eq_cons x
    rw [marksAll, hmarks]
    rintro m' hm'
    obtain rfl := Option.some.inj hm'
    rw [htext]
    exact hxs x rfl

mutual

theorem Printable.apart : ∀ {x : Shape}, x.Printable → ∀ {rest : List Mark}, Mark.Apart rest →
    (x.isText → ∀ m ∈ rest.head?, m.isText = false) → Mark.Apart (x.marks ++ rest)
  | .text s, _, _, hrest, hhead => ⟨hhead, hrest⟩
  | .var name true, _, _, hrest, _ => ⟨nofun, hrest⟩
  | .var name false, _, _, hrest, _ => ⟨nofun, hrest⟩
  | .inclusion name, _, _, hrest, _ => ⟨nofun, hrest⟩
  | .comment note, _, _, hrest, _ => ⟨nofun, hrest⟩
  | .block name inverted body, h, rest, hrest, _ => by
    rw [Printable] at h
    have hclose : ∀ m ∈ (Mark.tag (some '/') name :: rest).head?, m.isText = false := by
      intro m hm
      obtain rfl := Option.some.inj hm
      rfl
    rw [Shape.marks, List.cons_append, List.append_assoc]
    exact ⟨nofun, PrintableAll.apart h.2 ⟨nofun, hrest⟩ hclose⟩

theorem PrintableAll.apart : ∀ {xs : List Shape}, PrintableAll xs → ∀ {rest : List Mark},
    Mark.Apart rest → (∀ m ∈ rest.head?, m.isText = false) → Mark.Apart (marksAll xs ++ rest)
  | [], _, _, hrest, _ => hrest
  | x :: xs, h, rest, hrest, hhead => by
    rw [PrintableAll] at h
    rw [Shape.marksAll, List.append_assoc]
    exact Printable.apart h.1 (PrintableAll.apart h.2.2 hrest hhead) fun htext =>
      isText_head?_marksAll (h.2.1 htext) hhead

end

mutual

theorem Shows.exists_isLoud : ∀ {x : Shape}, x.Shows → ∃ m ∈ x.marks, m.IsLoud
  | .text s, h => by
    rw [Shows] at h
    exact ⟨_, List.mem_singleton.mpr rfl, h⟩
  | .var name true, _ => ⟨_, List.mem_singleton.mpr rfl, by simp [Mark.IsLoud]⟩
  | .var name false, _ => ⟨_, List.mem_singleton.mpr rfl, by simp [Mark.IsLoud]⟩
  | .inclusion name, h => by
    rw [Shows] at h
    exact h.elim
  | .comment note, h => by
    rw [Shows] at h
    exact h.elim
  | .block name inverted body, h => by
    rw [Shows] at h
    obtain ⟨m, hm, hloud⟩ := ShowsAny.exists_isLoud h
    rw [marks]
    exact ⟨m, List.mem_cons_of_mem _ (List.mem_append_left _ hm), hloud⟩

theorem ShowsAny.exists_isLoud : ∀ {xs : List Shape}, ShowsAny xs → ∃ m ∈ marksAll xs, m.IsLoud
  | [], h => by
    rw [ShowsAny] at h
    exact h.elim
  | x :: xs, h => by
    rw [ShowsAny] at h
    rw [marksAll]
    obtain h | h := h
    · obtain ⟨m, hm, hloud⟩ := Shows.exists_isLoud h
      exact ⟨m, List.mem_append_left _ hm, hloud⟩
    · obtain ⟨m, hm, hloud⟩ := ShowsAny.exists_isLoud h
      exact ⟨m, List.mem_append_right _ hm, hloud⟩

end

end Marks

section Nesting

mutual

/-- In front of nested tokens the marks of a shape nest to its token. -/
theorem exists_nested_marks : ∀ (x : Shape) (before : Placement) (p : Nat) {ts : List FlatToken}
    {us : List Token}, Nested ts us →
    ∃ u, Nested (Mark.flats before p x.marks ++ ts) (u :: us) ∧ u.unplaced = x.token
  | .text s, _, _, _, _, h => ⟨_, .leaf _ _ h, rfl⟩
  | .var name true, _, _, _, _, h => ⟨_, .leaf _ _ h, rfl⟩
  | .var name false, _, _, _, _, h => ⟨_, .leaf _ _ h, rfl⟩
  | .inclusion name, _, _, _, _, h => ⟨_, .leaf _ _ h, rfl⟩
  | .comment note, _, _, _, _, h => ⟨_, .leaf _ _ h, rfl⟩
  | .block name inverted body, before, p, ts, us, h => by
    let opening := Mark.tag (some (if inverted then '^' else '#')) name
    obtain ⟨after, hflats⟩ := Mark.exists_flats_append ((opening.pieces p).foldl .after before)
      (p + byteLength opening.print) (marksAll body) [.tag (some '/') name]
    obtain ⟨children, hbody, htokens⟩ :=
      exists_nested_marksAll body ((opening.pieces p).foldl .after before)
        (p + byteLength opening.print)
    have hopening : opening.flat before p =
        .opening name inverted ⟨p, p + byteLength opening.print⟩ := by
      cases inverted <;> rfl
    refine ⟨.block name inverted ⟨p, p + byteLength opening.print⟩
      (p + byteLength opening.print + byteLength (Mark.printAll (marksAll body))) children, ?_, ?_⟩
    · rw [marks]
      change Nested (opening.flat before p :: Mark.flats _ _ (marksAll body ++ [_]) ++ ts) _
      rw [hflats, hopening, List.cons_append, List.append_assoc]
      exact .block name inverted _ _ hbody h
    · rw [Token.unplaced, htokens, token]

theorem exists_nested_marksAll : ∀ (xs : List Shape) (before : Placement) (p : Nat),
    ∃ us, Nested (Mark.flats before p (marksAll xs)) us ∧ Token.unplacedAll us = tokens xs
  | [], _, _ => ⟨[], .nil, rfl⟩
  | x :: xs, before, p => by
    obtain ⟨after, hflats⟩ := Mark.exists_flats_append before p x.marks (marksAll xs)
    obtain ⟨us, hus, htokens⟩ :=
      exists_nested_marksAll xs after (p + byteLength (Mark.printAll x.marks))
    obtain ⟨u, hu, htoken⟩ := exists_nested_marks x before p hus
    refine ⟨u :: us, ?_, ?_⟩
    · rw [marksAll, hflats]
      exact hu
    · rw [Token.unplacedAll, htoken, htokens, tokens]

end

end Nesting

/-- A shape that shows something is compiled from its print. -/
theorem exists_compile_printAll_eq {xs : List Shape} (h : PrintableAll xs) (hshows : ShowsAny xs) :
    ∃ t, Template.compile (printAll xs) .braces = .ok t ∧
      Token.unplacedAll t.tokens = tokens xs := by
  have hmarks := PrintableAll.marksAll h
  have hapart : Mark.Apart (marksAll xs ++ []) := PrintableAll.apart h trivial nofun
  rw [List.append_nil] at hapart
  have hloud := ShowsAny.exists_isLoud hshows
  have hline := Mark.lines_piecesAll (fun m hm => (hmarks m hm).2) hloud (.inl rfl)
  rw [List.append_nil] at hline
  obtain ⟨us, hus, htokens⟩ := exists_nested_marksAll xs .start 0
  have hcompile :=
    Template.compile_printAll (fun m hm => (hmarks m hm).1) hapart hline hloud hus
  rw [printAll_marksAll, String.ofList_toList] at hcompile
  exact ⟨_, hcompile, htokens⟩

/-- A text that begins with a brace stands after a tag, a section in one of the same name, and
white space around tags. -/
theorem exists_compile_printAll_braces :
    let xs : List Shape := [.text "  ", .inclusion "a.b", .text "\x7d \x7d\x7d",
      .block "s" false [.text "\t", .block "s" true [.var "x_1" false, .text "\x7d"], .comment "n"],
      .text " ", .var "y" true]
    ∃ t, Template.compile (printAll xs) .braces = .ok t ∧
      Token.unplacedAll t.tokens = tokens xs := by
  refine exists_compile_printAll_eq ?_ ?_
  · simp [PrintableAll, Printable, IsName, isText]
  · simp [ShowsAny, Shows]

end Shape

end PostalAddress
