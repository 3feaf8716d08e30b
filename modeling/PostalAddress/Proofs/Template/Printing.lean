import PostalAddress.Proofs.Template.Compiling

/-!
# Templates that are printed from marks

A mark is a text or a tag that is written without white space: a sigil and a name between double
braces. Marks printed one after the other are read back one by one.
-/

namespace PostalAddress

open Text

namespace Text

theorem toNat_of_isAlphanum {c : Char} (h : c.isAlphanum ∨ c = '_') :
    48 ≤ c.toNat ∧ c.toNat ≤ 122 := by
  obtain h | rfl := h
  · unfold Char.isAlphanum Char.isAlpha Char.isUpper Char.isLower Char.isDigit at h
    simp only [Bool.or_eq_true, Bool.and_eq_true, decide_eq_true_eq, UInt32.le_iff_toNat_le,
      ge_iff_le] at h
    have hval : c.toNat = c.val.toNat := rfl
    have hZ : 'Z'.val.toNat = 90 := rfl
    have hz : 'z'.val.toNat = 122 := rfl
    have h9 : '9'.val.toNat = 57 := rfl
    have h0 : '0'.val.toNat = 48 := rfl
    have hA : 'A'.val.toNat = 65 := rfl
    have ha : 'a'.val.toNat = 97 := rfl
    omega
  · decide

theorem isBlank_of_isAlphanum {c : Char} (h : c.isAlphanum ∨ c = '_') : isBlank c = false := by
  have hrange := toNat_of_isAlphanum h
  simp only [isBlank, Bool.or_eq_false_iff, Bool.and_eq_false_iff, beq_eq_false_iff_ne,
    decide_eq_false_iff_not]
  omega

end Text

/-- A text, or a tag by its sigil and its name. -/
inductive Mark
  | text (s : String)
  | tag (sigil : Option Char) (name : String)
deriving DecidableEq

namespace Mark

/-- A name that can be told from what stands around it in a tag. -/
def IsPlainName (name : String) : Prop :=
  ∀ c ∈ name.toList, isBlank c = false ∧ c ∉ "#^/>\x7b&=!\x7d".toList

instance (name : String) : Decidable (IsPlainName name) :=
  inferInstanceAs (Decidable (∀ c ∈ name.toList, _))

theorem isPlainName_of_isAlphanum {name : String}
    (h : ∀ c ∈ name.toList, c.isAlphanum ∨ c = '_' ∨ c = '.') : IsPlainName name := by
  have hsigils : ∀ c ∈ "#^/>\x7b&=!\x7d".toList, ¬ (c.isAlphanum ∨ c = '_' ∨ c = '.') := by decide
  refine fun c hc => ⟨?_, fun hmem => hsigils c hmem (h c hc)⟩
  obtain halnum | hscore | rfl := h c hc
  · exact isBlank_of_isAlphanum (.inl halnum)
  · exact isBlank_of_isAlphanum (.inr hscore)
  · decide

/-- A text without braces, or a tag with a plain name that sets no delimiters. -/
def IsPlain : Mark → Prop
  | .text s => s ≠ "" ∧ '\x7b' ∉ s.toList
  | .tag sigil name => sigil ∈ [none, '#', '^', '/', '>', '\x7b', '&', '!'] ∧ IsPlainName name

instance : DecidablePred IsPlain
  | .text s => inferInstanceAs (Decidable (s ≠ "" ∧ '\x7b' ∉ s.toList))
  | .tag sigil name =>
    inferInstanceAs (Decidable (sigil ∈ [none, '#', '^', '/', '>', '\x7b', '&', '!'] ∧
      IsPlainName name))

/-- What closes a tag: one brace more where the sigil is a brace. -/
def closing (sigil : Option Char) : List Char :=
  if sigil = some '\x7b' then ['\x7d', '\x7d', '\x7d'] else ['\x7d', '\x7d']

def print : Mark → List Char
  | .text s => s.toList
  | .tag sigil name => '\x7b' :: '\x7b' :: (sigil.toList ++ name.toList ++ closing sigil)

def printAll (ms : List Mark) : List Char := ms.flatMap print

theorem printAll_cons (m : Mark) (ms : List Mark) : printAll (m :: ms) = m.print ++ printAll ms :=
  List.flatMap_cons

theorem printAll_append (ms ns : List Mark) :
    printAll (ms ++ ns) = printAll ms ++ printAll ns := List.flatMap_append

/-- The tag that a sigil and a name make. -/
def tagOf : Option Char → String → Tag
  | none, name => .var name true
  | some c, name =>
    if c = '#' then .opening name false
    else if c = '^' then .opening name true
    else if c = '/' then .closing name
    else if c = '>' then .inclusion name
    else if c = '!' then .comment
    else .var name false

theorem ofSigil_eq {sigil : Option Char}
    (h : sigil ∈ [none, some '#', some '^', some '/', some '>', some '\x7b', some '&', some '!'])
    (name : String) : Tag.ofSigil sigil.toList name = .ok (tagOf sigil name) := by
  simp only [List.mem_cons, List.not_mem_nil, or_false] at h
  rcases h with rfl | rfl | rfl | rfl | rfl | rfl | rfl | rfl <;> rfl

theorem exists_closing_eq_cons (sigil : Option Char) :
    ∃ r, closing sigil = '\x7d' :: r := by
  rw [closing]
  split
  · exact ⟨_, rfl⟩
  · exact ⟨_, rfl⟩

/-- After the sigil comes the name, or at once what closes the tag. -/
theorem exists_cons_of_isPlainName {name : String} (h : IsPlainName name) (sigil : Option Char)
    (rest : List Char) :
    ∃ c r, name.toList ++ (closing sigil ++ rest) = c :: r ∧ isBlank c = false ∧
      Tag.sigil (c :: r) = none := by
  cases hname : name.toList with
  | nil =>
    obtain ⟨r, hclosing⟩ := exists_closing_eq_cons sigil
    exact ⟨'\x7d', r ++ rest, by rw [hclosing]; rfl, by decide, rfl⟩
  | cons c r =>
    obtain ⟨hblank, hchar⟩ := h c (by simp [hname])
    refine ⟨c, r ++ (closing sigil ++ rest), rfl, hblank, if_neg ?_⟩
    rw [List.contains_iff_mem]
    exact fun hc => hchar (List.mem_append_left ['\x7d'] hc)

end Mark

section Scanning

open Scanner

/-- Characters that begin no match are passed over. -/
theorem Text.Front.find?_append_skip {f : Front} {t : List Char}
    (h : ∀ c ∈ t, ∀ r, f (c :: r) = none) (u : List Char) :
    f.find? (t ++ u) = (f.find? u).map fun (i, n) => (t.length + i, n) := by
  induction t with
  | nil => simp
  | cons c t ih =>
    obtain ⟨hc, ht⟩ := List.forall_mem_cons.mp h
    rw [List.cons_append, Front.find?, hc, ih ht, Option.map_map]
    refine congrArg (Option.map · _) (funext fun p => ?_)
    simp only [Function.comp, List.length_cons]
    exact congrArg (·, p.2) (by omega)

theorem Text.Front.find?_append_of_none {f : Front} {t u : List Char} {n : Nat}
    (h : ∀ c ∈ t, ∀ r, f (c :: r) = none) (hu : f u = some n) :
    f.find? (t ++ u) = some (t.length, n) := by
  rw [find?_append_skip h, Front.find?_eq_some_zero_iff.mpr hu]
  rfl

theorem Scanner.scan_of_front {f : Front} {t u : List Char} (h : f (t ++ u) = some t.length)
    (p : Nat) : scan ⟨t ++ u, p⟩ f.find? = (t, ⟨u, p + byteLength t⟩) := by
  rw [scan_find?, h]
  dsimp only
  rw [advance_eq, List.take_left, List.drop_left]

theorem Scanner.scanUntil_of_none {f : Front} {t u : List Char} {n : Nat}
    (h : ∀ c ∈ t, ∀ r, f (c :: r) = none) (hu : f u = some n) (p : Nat) :
    scanUntil ⟨t ++ u, p⟩ f.find? = (t, ⟨u, p + byteLength t⟩) := by
  rw [scanUntil, Front.find?_append_of_none h hu]
  dsimp only
  rw [advance_eq, List.take_left, List.drop_left]

theorem Scanner.scan_blanks {c : Char} (h : isBlank c = false) (r : List Char) (p : Nat) :
    scan ⟨c :: r, p⟩ Front.blanks.find? = ([], ⟨c :: r, p⟩) :=
  scan_of_front (t := []) (by simp [Front.blanks, Front.run, h]) p

/-- Neither a blank nor the first character: no match begins here. -/
theorem Text.Front.spaced_of_ne {c d : Char} {x r : List Char} (hblank : isBlank c = false)
    (hne : c ≠ d) : Front.spaced (d :: x) (c :: r) = none := by
  rw [Front.spaced, hblank, if_neg Bool.false_ne_true, Front.exactly_eq_none_iff]
  exact fun h => hne (List.cons_prefix_cons.mp h).1.symm

theorem Text.Front.spaced_prefix {d : Char} (hblank : isBlank d = false) (x u : List Char) :
    Front.spaced (d :: x) (d :: x ++ u) = some (x.length + 1) := by
  rw [List.cons_append, Front.spaced, hblank, if_neg Bool.false_ne_true]
  exact Front.exactly_eq_some_iff.mpr ⟨List.prefix_append (d :: x) u, rfl⟩

namespace Mark

theorem scanBody_print {sigil : Option Char} (hsigil : sigil ≠ '=') {name : String}
    (hname : IsPlainName name) (rest : List Char) (p : Nat) :
    Tag.scanBody .braces sigil.toList ⟨name.toList ++ (closing sigil ++ rest), p⟩ =
      ((name.toList, ['\x7d', '\x7d']),
        ⟨rest, p + byteLength name.toList + byteLength (closing sigil)⟩) := by
  have hnone : ∀ x, ∀ c ∈ name.toList, ∀ r, Front.spaced ('\x7d' :: x) (c :: r) = none := by
    intro x c hc r
    obtain ⟨hblank, hchar⟩ := hname c hc
    exact Front.spaced_of_ne hblank fun heq => hchar (by simp [heq])
  have hclose : Tag.closingFront .braces ('\x7d' :: '\x7d' :: rest) = some 2 :=
    Front.spaced_prefix (by decide) ['\x7d'] rest
  have hclosed : ∀ p, scan ⟨'\x7d' :: '\x7d' :: rest, p⟩ (Tag.closingFront .braces).find? =
      (['\x7d', '\x7d'], ⟨rest, p + 2⟩) :=
    scan_of_front (t := ['\x7d', '\x7d']) hclose
  by_cases hraw : sigil = some '\x7b'
  · subst hraw
    have hvalue : scanUntil ⟨name.toList ++ ('\x7d' :: '\x7d' :: '\x7d' :: rest), p⟩
        (Front.spaced ('\x7d' :: Delimiters.braces.closing.toList)).find? =
          (name.toList, ⟨'\x7d' :: '\x7d' :: '\x7d' :: rest, p + byteLength name.toList⟩) :=
      scanUntil_of_none (hnone _) (Front.spaced_prefix (by decide) _ rest) p
    have hbrace : scan ⟨'\x7d' :: '\x7d' :: '\x7d' :: rest, p + byteLength name.toList⟩
        (Front.spaced ['\x7d']).find? =
          (['\x7d'], ⟨'\x7d' :: '\x7d' :: rest, p + byteLength name.toList + 1⟩) :=
      scan_of_front (t := ['\x7d']) (Front.spaced_prefix (by decide) [] _) _
    have hstop : scanUntil ⟨'\x7d' :: '\x7d' :: rest, p + byteLength name.toList + 1⟩
        (Tag.closingFront .braces).find? =
          ([], ⟨'\x7d' :: '\x7d' :: rest, p + byteLength name.toList + 1⟩) :=
      scanUntil_of_none (t := []) nofun hclose _
    have hsingle : ['\x7b'] ≠ ['='] := by decide
    rw [closing, if_pos rfl, Option.toList_some]
    simp only [Tag.scanBody, Tag.scanValue, Tag.skipTo, hsingle, if_true, if_false,
      List.cons_append, List.nil_append, hvalue, hbrace, hstop, hclosed]
    rfl
  · have hvalue : scanUntil ⟨name.toList ++ ('\x7d' :: '\x7d' :: rest), p⟩
        (Tag.closingFront .braces).find? =
          (name.toList, ⟨'\x7d' :: '\x7d' :: rest, p + byteLength name.toList⟩) :=
      scanUntil_of_none (hnone ['\x7d']) hclose p
    have heq : sigil.toList ≠ ['='] := by
      cases sigil with
      | none => simp
      | some c => simpa using hsigil
    have hbrace : sigil.toList ≠ ['\x7b'] := by
      cases sigil with
      | none => simp
      | some c => simpa using hraw
    rw [closing, if_neg hraw]
    simp only [Tag.scanBody, Tag.scanValue, heq, hbrace, if_false, List.cons_append,
      List.nil_append, hvalue, hclosed]
    rfl

/-- What follows the opening braces of a printed tag does not begin with white space. -/
theorem scan_opening {c : Char} (h : isBlank c = false) (r : List Char) (p : Nat) :
    scan ⟨'\x7b' :: '\x7b' :: c :: r, p⟩ (Tag.openingFront .braces).find? =
      (['\x7b', '\x7b'], ⟨c :: r, p + 2⟩) := by
  refine scan_of_front (t := ['\x7b', '\x7b']) ?_ p
  have hexactly : Front.exactly Delimiters.braces.opening.toList
      ('\x7b' :: '\x7b' :: c :: r) = some 2 :=
    Front.exactly_eq_some_iff.mpr ⟨List.prefix_append ['\x7b', '\x7b'] (c :: r), rfl⟩
  simp [Tag.openingFront, Front.andThen, hexactly, Front.blanks, Front.run, h]

theorem scan_sigil {sigil : Option Char}
    (hsigil : sigil ∈ [none, some '#', some '^', some '/', some '>', some '\x7b', some '&',
      some '!']) {t : List Char} (ht : Tag.sigil t = none) (p : Nat) :
    scan ⟨sigil.toList ++ t, p⟩ Tag.sigil.find? =
      (sigil.toList, ⟨t, p + byteLength sigil.toList⟩) := by
  simp only [List.mem_cons, List.not_mem_nil, or_false] at hsigil
  obtain rfl | hsigil := hsigil
  · have hnone : Tag.sigil (Scanner.mk ((none : Option Char).toList ++ t) p).rest = none := ht
    rw [scan_find?, hnone]
    rfl
  · rcases hsigil with rfl | rfl | rfl | rfl | rfl | rfl | rfl
    all_goals exact scan_of_front (t := [_]) rfl p

/-- A printed tag is read back. -/
theorem scan_print {sigil : Option Char} {name : String} (h : (Mark.tag sigil name).IsPlain)
    (rest : List Char) (p : Nat) :
    Tag.scan .braces ⟨(Mark.tag sigil name).print ++ rest, p⟩ =
      .ok (tagOf sigil name, ⟨rest, p + byteLength (Mark.tag sigil name).print⟩) := by
  obtain ⟨hsigil, hname⟩ := h
  obtain ⟨c, r, hcons, hblank, hnosigil⟩ := exists_cons_of_isPlainName hname sigil rest
  have hne : sigil ≠ some '=' := by
    rintro rfl
    exact absurd hsigil (by decide)
  obtain ⟨d, u, hhead, hd⟩ : ∃ d u, sigil.toList ++ (name.toList ++ (closing sigil ++ rest)) =
      d :: u ∧ isBlank d = false := by
    cases sigil with
    | none => exact ⟨c, r, hcons, hblank⟩
    | some s =>
      have hsigils : ∀ s ∈ "#^/>\x7b&!".toList, isBlank s = false := by decide
      exact ⟨s, _, rfl, hsigils s (by simpa using hsigil)⟩
  have hopening := scan_opening hd u p
  rw [← hhead] at hopening
  have hmark := scan_sigil hsigil (t := name.toList ++ (closing sigil ++ rest))
    (by rw [hcons]; exact hnosigil) (p + 2)
  have hblanks : scan ⟨name.toList ++ (closing sigil ++ rest), p + 2 + byteLength sigil.toList⟩
      Front.blanks.find? =
        ([], ⟨name.toList ++ (closing sigil ++ rest), p + 2 + byteLength sigil.toList⟩) := by
    rw [hcons]
    exact scan_blanks hblank _ _
  have hbody := scanBody_print hne hname rest (p + 2 + byteLength sigil.toList)
  refine Tag.scan_eq_ok_iff.mpr ⟨sigil.toList, name.toList, ['\x7d', '\x7d'], ?_, by simp, ?_⟩
  · have hprint : (Mark.tag sigil name).print ++ rest =
        '\x7b' :: '\x7b' :: (sigil.toList ++ (name.toList ++ (closing sigil ++ rest))) := by
      simp [print]
    have hlength : p + byteLength (Mark.tag sigil name).print =
        p + 2 + byteLength sigil.toList + byteLength name.toList + byteLength (closing sigil) := by
      have hbrace : '\x7b'.utf8Size = 1 := rfl
      simp only [print, byteLength, byteLength_append, hbrace]
      omega
    rw [hprint, hlength]
    simp only [Tag.scanParts, hopening, hmark, hblanks, hbody]
  · rw [String.ofList_toList]
    exact ofSigil_eq hsigil name

end Mark

end Scanning

namespace Mark

/-- The characters of a text as pieces, from `p` bytes on. -/
def letters (p : Nat) : List Char → List Piece
  | [] => []
  | c :: r => .letter c ⟨p, p + c.utf8Size⟩ :: letters (p + c.utf8Size) r

def pieces (p : Nat) : Mark → List Piece
  | .text s => letters p s.toList
  | .tag sigil name => [.tag (tagOf sigil name) ⟨p, p + byteLength (Mark.tag sigil name).print⟩]

def piecesAll (p : Nat) : List Mark → List Piece
  | [] => []
  | m :: ms => m.pieces p ++ piecesAll (p + byteLength m.print) ms

theorem reads_letters {t : List Char} (ht : '\x7b' ∉ t) (rest : List Char) (p : Nat) :
    Reads .braces ⟨t ++ rest, p⟩ (letters p t) .braces ⟨rest, p + byteLength t⟩ := by
  induction t generalizing p with
  | nil => exact .done .braces _
  | cons c r ih =>
    rw [List.mem_cons, not_or] at ht
    obtain ⟨hc, hr⟩ := ht
    have hread := ih hr (p + c.utf8Size)
    rw [Nat.add_assoc] at hread
    exact .letter (fun h => hc (List.cons_prefix_cons.mp h).1) hread

theorem tagOf_delimitersAfter (sigil : Option Char) (name : String) (d : Delimiters) :
    (tagOf sigil name).delimitersAfter d = d := by
  cases sigil with
  | none => rfl
  | some c =>
    simp only [tagOf]
    repeat' split
    all_goals rfl

theorem reads_print {m : Mark} (hm : m.IsPlain) (rest : List Char) (p : Nat) :
    Reads .braces ⟨m.print ++ rest, p⟩ (m.pieces p) .braces
      ⟨rest, p + byteLength m.print⟩ := by
  cases m with
  | text s => exact reads_letters hm.2 rest p
  | tag sigil name =>
    have hread := Reads.tag (d := .braces) (s := ⟨(Mark.tag sigil name).print ++ rest, p⟩)
      (by simp [print]) (List.prefix_append ['\x7b', '\x7b'] _) (scan_print hm rest p)
      (.done _ _)
    rwa [tagOf_delimitersAfter] at hread

/-- Marks that are printed one after the other are read back. -/
theorem reads_printAll {ms : List Mark} (hms : ∀ m ∈ ms, m.IsPlain) (rest : List Char)
    (p : Nat) :
    Reads .braces ⟨printAll ms ++ rest, p⟩ (piecesAll p ms) .braces
      ⟨rest, p + byteLength (printAll ms)⟩ := by
  induction ms generalizing p with
  | nil => exact .done .braces _
  | cons m ms ih =>
    obtain ⟨hm, hms⟩ := List.forall_mem_cons.mp hms
    have hfirst := reads_print hm (printAll ms ++ rest) p
    have hrest := ih hms (p + byteLength m.print)
    rw [Nat.add_assoc, ← byteLength_append] at hrest
    rw [printAll_cons, List.append_assoc]
    exact hfirst.append hrest

end Mark

end PostalAddress
