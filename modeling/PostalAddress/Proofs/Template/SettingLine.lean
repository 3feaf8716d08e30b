import PostalAddress.Proofs.Template.Joining
import PostalAddress.Proofs.Template.Printing

/-!
# A line that sets the delimiters

A line may hold nothing but the tag that sets the delimiters. It stands alone, so its newline is
dropped and nothing of it reaches into the next line; what follows compiles as a source of its own
that begins with those delimiters. One source is an exception. The empty one compiles whatever the
delimiters are, also behind none that a tag could set.
-/

namespace PostalAddress

open Text

section Words

variable {w : List Char} (hw : Blankless w)
include hw

theorem Text.words_go_append {t p : List Char} {ps : List (List Char)} (h : words.go t = p :: ps) :
    words.go (w ++ t) = (w ++ p) :: ps := by
  induction w with
  | nil => exact h
  | cons c w ih =>
    obtain ⟨hc, hw⟩ := List.forall_mem_cons.mp hw
    rw [List.cons_append, words.go, hc, if_neg Bool.false_ne_true, ih hw]
    rfl

/-- Two words with a blank between them. -/
theorem Text.words_pair {v : List Char} (hv : Blankless v) (hne : w ≠ []) (hne' : v ≠ []) :
    words (w ++ ' ' :: v) = [w, v] := by
  have hlast : words.go v = [v] := by
    have hgo := words_go_append (t := []) hv rfl
    rwa [List.append_nil] at hgo
  have hgo : words.go (w ++ ' ' :: v) = [w, v] := by
    have hblank : words.go (' ' :: v) = [] :: [v] := by
      rw [words.go, if_pos (by decide), hlast]
    rw [words_go_append hw hblank, List.append_nil]
  rw [words, hgo]
  simp [hne, hne']

end Words

namespace Delimiters

/-- Delimiters that the value of a tag can name: neither empty, without white space and equals
signs. -/
structure Settable (d : Delimiters) : Prop where
  opening_ne : d.opening ≠ ""
  closing_ne : d.closing ≠ ""
  blankless : d.Blankless
  opening_plain : '=' ∉ d.opening.toList
  closing_plain : '=' ∉ d.closing.toList

/-- The delimiters as `parse` reads them. -/
def spec (d : Delimiters) : String := d.opening ++ " " ++ d.closing

/-- The tag that sets the delimiters, between double braces. -/
def settingTag (d : Delimiters) : String := "\x7b\x7b=" ++ d.spec ++ "=\x7d\x7d"

def settingLine (d : Delimiters) : String := d.settingTag ++ "\n"

variable {d : Delimiters}

theorem toList_spec (d : Delimiters) :
    d.spec.toList = d.opening.toList ++ ' ' :: d.closing.toList := by
  simp [spec]

theorem Settable.proper (hd : d.Settable) (h : d.Fits) : d.Proper :=
  ⟨hd.opening_ne, hd.closing_ne, h⟩

theorem Settable.parse_spec (hd : d.Settable) : parse d.spec = .ok d := by
  have hwords := words_pair hd.blankless.1 hd.blankless.2 (Tag.toList_ne_nil hd.opening_ne)
    (Tag.toList_ne_nil hd.closing_ne)
  rw [parse, toList_spec, hwords]
  simp only [String.ofList_toList]

end Delimiters

section Reading

open Scanner

variable {d : Delimiters} (hd : d.Settable)
include hd

/-- No equals sign comes before the one that ends the value. -/
theorem Delimiters.Settable.find?_equals (u : List Char) :
    (Front.spaced ['=']).find? (d.spec.toList ++ '=' :: u) = some (d.spec.toList.length, 1) := by
  have hskip : ∀ x : List Char, Text.Blankless x → '=' ∉ x →
      ∀ c ∈ x, ∀ r, Front.spaced ['='] (c :: r) = none := fun x hx heq c hc r =>
    Front.spaced_of_ne (hx c hc) fun h => heq (h ▸ hc)
  have hopening := hskip _ hd.blankless.1 hd.opening_plain
  have hclosing := hskip _ hd.blankless.2 hd.closing_plain
  obtain ⟨c, r, hcons⟩ := List.exists_cons_of_ne_nil (Tag.toList_ne_nil hd.closing_ne)
  have hblank : Front.spaced ['='] (' ' :: (d.closing.toList ++ '=' :: u)) = none := by
    have hnone := hclosing c (by simp [hcons]) (r ++ '=' :: u)
    rw [Front.spaced_cons_of_isBlank (by decide) (by simp) (by decide), hcons, List.cons_append,
      hnone, Option.map_none]
  have hfound : (Front.spaced ['=']).find? (d.closing.toList ++ '=' :: u) =
      some (d.closing.toList.length, 1) :=
    Front.find?_append_of_none hclosing (Front.spaced_prefix (by decide) [] u)
  rw [toList_spec, List.append_assoc, Front.find?_append_skip hopening, List.cons_append,
    Front.find?, hblank, hfound, List.length_append, List.length_cons]
  rfl

/-- The value goes up to its equals sign, which is passed over, and the closing braces follow. -/
theorem Delimiters.Settable.scanBody_spec (rest : List Char) (p : Nat) :
    Tag.scanBody .braces ['='] ⟨d.spec.toList ++ '=' :: '\x7d' :: '\x7d' :: rest, p⟩ =
      ((d.spec.toList, ['\x7d', '\x7d']), ⟨rest, p + byteLength d.spec.toList + 3⟩) := by
  let q := p + byteLength d.spec.toList
  have hvalue : scanUntil ⟨d.spec.toList ++ '=' :: '\x7d' :: '\x7d' :: rest, p⟩
      (Front.spaced ['=']).find? = (d.spec.toList, ⟨'=' :: '\x7d' :: '\x7d' :: rest, q⟩) := by
    simp only [scanUntil, hd.find?_equals, advance_eq, List.take_left, List.drop_left, q]
  have hequals : scan ⟨'=' :: '\x7d' :: '\x7d' :: rest, q⟩ (Front.spaced ['=']).find? =
      (['='], ⟨'\x7d' :: '\x7d' :: rest, q + 1⟩) :=
    scan_of_front (t := ['=']) (Front.spaced_prefix (by decide) [] _) q
  have hclose : Tag.closingFront .braces ('\x7d' :: '\x7d' :: rest) = some 2 :=
    Front.spaced_prefix (by decide) ['\x7d'] rest
  have hstop : scanUntil ⟨'\x7d' :: '\x7d' :: rest, q + 1⟩ (Tag.closingFront .braces).find? =
      ([], ⟨'\x7d' :: '\x7d' :: rest, q + 1⟩) :=
    scanUntil_of_none (t := []) (fun _ h => absurd h List.not_mem_nil) hclose _
  have hclosed : scan ⟨'\x7d' :: '\x7d' :: rest, q + 1⟩ (Tag.closingFront .braces).find? =
      (['\x7d', '\x7d'], ⟨rest, q + 1 + 2⟩) :=
    scan_of_front (t := ['\x7d', '\x7d']) hclose _
  simp only [Tag.scanBody, Tag.scanValue, Tag.skipTo, if_true, hvalue, hequals, hstop, hclosed]
  rfl

theorem Delimiters.Settable.scanParts_settingTag (rest : List Char) (p : Nat) :
    Tag.scanParts .braces ⟨d.settingTag.toList ++ rest, p⟩ =
      ((['='], d.spec.toList, ['\x7d', '\x7d']),
        ⟨rest, p + byteLength d.settingTag.toList⟩) := by
  have hprint : d.settingTag.toList ++ rest =
      '\x7b' :: '\x7b' :: '=' :: (d.spec.toList ++ '=' :: '\x7d' :: '\x7d' :: rest) := by
    simp [settingTag]
  have hlength : p + byteLength d.settingTag.toList =
      p + 2 + 1 + byteLength d.spec.toList + 3 := by
    have hfront : byteLength "\x7b\x7b=".toList = 3 := rfl
    have hback : byteLength "=\x7d\x7d".toList = 3 := rfl
    simp only [settingTag, String.toList_append, byteLength_append, hfront, hback]
    omega
  have hmark : ∀ x q, Scanner.scan ⟨'=' :: x, q⟩ Tag.sigil.find? = (['='], ⟨x, q + 1⟩) :=
    fun x => scan_of_front (t := ['=']) rfl
  have hblanks : ∀ x q, Scanner.scan ⟨d.spec.toList ++ x, q⟩ Front.blanks.find? =
      ([], ⟨d.spec.toList ++ x, q⟩) := by
    intro x q
    obtain ⟨c, r, hopening⟩ := List.exists_cons_of_ne_nil (Tag.toList_ne_nil hd.opening_ne)
    rw [toList_spec, hopening]
    exact scan_blanks (hd.blankless.1 c (by simp [hopening])) _ q
  rw [hprint, hlength]
  simp only [Tag.scanParts, Mark.scan_opening (c := '=') (by decide), hmark, hblanks,
    hd.scanBody_spec]

theorem Delimiters.Settable.scan_settingTag (hfits : d.Fits) (rest : List Char) (p : Nat) :
    Tag.scan .braces ⟨d.settingTag.toList ++ rest, p⟩ =
      .ok (.delimiters d, ⟨rest, p + byteLength d.settingTag.toList⟩) := by
  refine Tag.scan_eq_ok_iff.mpr
    ⟨_, _, _, hd.scanParts_settingTag rest p, List.cons_ne_nil _ _, ?_⟩
  rw [String.ofList_toList]
  exact Tag.ofSigil_set_eq_ok_iff.mpr ⟨d, rfl, hd.parse_spec, hd.proper hfits⟩

/-- The tag is closed, but its delimiters are refused. -/
theorem Delimiters.Settable.scan_settingTag_of_not_fits (hfits : ¬ d.Fits) (rest : List Char)
    (p : Nat) : Tag.scan .braces ⟨d.settingTag.toList ++ rest, p⟩ =
      .error (.invalidDelimiters d.spec) := by
  have hproper : ¬ d.Proper := fun h => hfits h.2.2
  rw [Tag.scan_eq, hd.scanParts_settingTag]
  dsimp only
  rw [if_neg (by simp), String.ofList_toList, Tag.ofSigil_set, hd.parse_spec, Except.bind,
    if_neg hproper]
  rfl

/-- The line is read as its tag and its newline, and what follows with the delimiters it sets. -/
theorem Delimiters.Settable.reads (hfits : d.Fits) (rest : List Char) :
    Reads .braces ⟨d.settingLine.toList ++ rest, 0⟩
      ([.tag (.delimiters d) ⟨0, byteLength d.settingTag.toList⟩] ++
        [.letter '\n' ⟨byteLength d.settingTag.toList, byteLength d.settingLine.toList⟩])
      d ⟨rest, byteLength d.settingLine.toList⟩ := by
  have hline : d.settingLine.toList ++ rest = d.settingTag.toList ++ '\n' :: rest := by
    simp [settingLine]
  have hlength : byteLength d.settingLine.toList =
      byteLength d.settingTag.toList + '\n'.utf8Size := by
    simp [settingLine, byteLength]
  have hscan := hd.scan_settingTag hfits ('\n' :: rest) 0
  rw [Nat.zero_add] at hscan
  have hnewline : ¬ d.opening.toList <+: '\n' :: rest := by
    obtain ⟨c, r, hopening⟩ := List.exists_cons_of_ne_nil (Tag.toList_ne_nil hd.opening_ne)
    rw [hopening]
    intro h
    obtain ⟨rfl, _⟩ := List.cons_prefix_cons.mp h
    exact absurd (hd.blankless.1 '\n' (by simp [hopening])) (by decide)
  rw [hline, hlength]
  refine @Reads.tag _ _ ⟨d.settingTag.toList ++ '\n' :: rest, 0⟩ _ _ _ _ (by simp) ?_ hscan
    (.letter hnewline (.done d _))
  simp [settingTag, braces]

end Reading

namespace Template

variable {d : Delimiters} (hd : d.Settable)
include hd

/-- Delimiters that are too long fail where a line sets them, whatever follows. -/
theorem compile_settingLine_of_not_fits (h : ¬ d.Fits) (source : String) :
    compile (d.settingLine ++ source) .braces = .error (.invalidDelimiters d.spec) := by
  have hscan := hd.scan_settingTag_of_not_fits h ('\n' :: source.toList) 0
  have hline : (d.settingLine ++ source).toList =
      d.settingTag.toList ++ '\n' :: source.toList := by
    simp [Delimiters.settingLine]
  have hbraces : Delimiters.braces.opening.toList <+:
      d.settingTag.toList ++ '\n' :: source.toList := by
    simp [Delimiters.settingTag, Delimiters.braces]
  have hread : Pieces.read .braces 0 0 (d.settingLine ++ source).toList =
      ⟨[], some (.invalidDelimiters d.spec)⟩ := by
    obtain ⟨c, r, hcons⟩ : ∃ c r, d.settingTag.toList ++ '\n' :: source.toList = c :: r :=
      List.exists_cons_of_ne_nil (by simp)
    rw [hcons] at hscan hbraces
    rw [hline, hcons]
    exact Pieces.read_error hbraces hscan
  rw [compile_of_proper Delimiters.proper_braces, flatTokens_eq, hread]
  rfl

/-- A source behind a line that sets its delimiters compiles as it does with these delimiters from
the beginning: to the same error, or to the same tokens behind the one that sets them. Where the
source is empty, the delimiters must fit. -/
theorem compile_settingLine (source : String) (h : source = "" → d.Fits) :
    compile (d.settingLine ++ source) .braces =
      ((compile source d).mapError
        (TemplateError.move (byteLength d.settingLine.toList))).map fun t =>
          ⟨d.settingLine ++ source, .braces,
            .leaf (.delimiters d) ⟨0, byteLength d.settingTag.toList⟩ ::
              Token.moveAll (byteLength d.settingLine.toList) t.tokens⟩ := by
  by_cases hfits : d.Fits
  · have hnest : Nested (Piece.flat
        ([.tag (.delimiters d) ⟨0, byteLength d.settingTag.toList⟩] ++
          [.letter '\n' ⟨byteLength d.settingTag.toList, byteLength d.settingLine.toList⟩]))
        [.leaf (.delimiters d) ⟨0, byteLength d.settingTag.toList⟩] :=
      .leaf _ _ .nil
    exact compile_of_reads_append (hd.reads hfits source.toList) Delimiters.proper_braces hnest
  · have hproper : ¬ d.Proper := fun hd => hfits hd.2.2
    rw [compile_settingLine_of_not_fits hd hfits, compile_of_not_proper (mt h hfits) hproper]
    rfl

/-- Behind a line that sets delimiters that are too long the empty source fails, though it compiles
with these delimiters alone. -/
theorem compile_empty_of_long (h : Size.limit < 32 * byteLength d.opening.toList) :
    compile "" d = .ok ⟨"", d, []⟩ ∧
      compile (d.settingLine ++ "") .braces = .error (.invalidDelimiters d.spec) :=
  ⟨rfl, compile_settingLine_of_not_fits hd (Delimiters.not_fits_of_long h) ""⟩

omit hd

/-- Delimiters made of braces, a partial on a line of its own, letters of two bytes, a closing tag
that closes nothing, and nothing at all. -/
theorem compile_settingLine_of_braces :
    Delimiters.Settable ⟨"\x7b", "\x7d\x7d"⟩ ∧
      Delimiters.settingLine ⟨"\x7b", "\x7d\x7d"⟩ = "\x7b\x7b=\x7b \x7d\x7d=\x7d\x7d\n" ∧
      compile (Delimiters.settingLine ⟨"\x7b", "\x7d\x7d"⟩ ++
          " \x7b>p\x7d\x7d\n\x7b#x\x7d\x7dé\x7b/x\x7d\x7d") .braces =
        .ok ⟨Delimiters.settingLine ⟨"\x7b", "\x7d\x7d"⟩ ++
            " \x7b>p\x7d\x7d\n\x7b#x\x7d\x7dé\x7b/x\x7d\x7d", .braces,
          [.leaf (.delimiters ⟨"\x7b", "\x7d\x7d"⟩) ⟨0, 10⟩,
            .leaf (.inclusion "p" ⟨" ", 0, false⟩) ⟨12, 17⟩,
            .block "x" false ⟨18, 23⟩ 25 [.leaf (.text "é") ⟨23, 25⟩]]⟩ ∧
      compile (Delimiters.settingLine ⟨"\x7b", "\x7d\x7d"⟩ ++ "é\x7b/x\x7d\x7d") .braces =
        .error (.unopenedSection "x" 13) ∧
      compile (Delimiters.settingLine ⟨"\x7b", "\x7d\x7d"⟩ ++ "") .braces =
        .ok ⟨Delimiters.settingLine ⟨"\x7b", "\x7d\x7d"⟩ ++ "", .braces,
          [.leaf (.delimiters ⟨"\x7b", "\x7d\x7d"⟩) ⟨0, 10⟩]⟩ := by
  have hd : Delimiters.Settable ⟨"\x7b", "\x7d\x7d"⟩ :=
    ⟨by decide, by decide, by decide, by decide, by decide⟩
  have hfits : Delimiters.Fits ⟨"\x7b", "\x7d\x7d"⟩ :=
    Delimiters.fits_of_short hd.opening_ne hd.closing_ne (by decide) (by decide)
  have hok : compile " \x7b>p\x7d\x7d\n\x7b#x\x7d\x7dé\x7b/x\x7d\x7d" ⟨"\x7b", "\x7d\x7d"⟩ =
      .ok ⟨" \x7b>p\x7d\x7d\n\x7b#x\x7d\x7dé\x7b/x\x7d\x7d", ⟨"\x7b", "\x7d\x7d"⟩,
        [.leaf (.inclusion "p" ⟨" ", 0, false⟩) ⟨1, 6⟩,
          .block "x" false ⟨7, 12⟩ 14 [.leaf (.text "é") ⟨12, 14⟩]]⟩ := by
    rw [compile_of_proper (hd.proper hfits), flatTokens_eq]
    rfl
  have herror : compile "é\x7b/x\x7d\x7d" ⟨"\x7b", "\x7d\x7d"⟩ =
      .error (.unopenedSection "x" 2) := by
    rw [compile_of_proper (hd.proper hfits), flatTokens_eq]
    rfl
  have hempty : compile "" ⟨"\x7b", "\x7d\x7d"⟩ = .ok ⟨"", ⟨"\x7b", "\x7d\x7d"⟩, []⟩ := rfl
  have hline : byteLength (Delimiters.settingLine ⟨"\x7b", "\x7d\x7d"⟩).toList = 11 := rfl
  have htag : byteLength (Delimiters.settingTag ⟨"\x7b", "\x7d\x7d"⟩).toList = 10 := rfl
  refine ⟨hd, rfl, ?_, ?_, ?_⟩
  · rw [compile_settingLine hd _ fun _ => hfits, hok, hline, htag]
    rfl
  · rw [compile_settingLine hd _ fun _ => hfits, herror, hline]
    rfl
  · rw [compile_settingLine hd _ fun _ => hfits, hempty, htag]
    rfl

theorem byteLength_replicate (n : Nat) (c : Char) :
    byteLength (List.replicate n c) = n * c.utf8Size := by
  induction n with
  | zero => simp [byteLength]
  | succ n ih => rw [List.replicate_succ, byteLength, ih, Nat.succ_mul, Nat.add_comm]

theorem settable_letters {n : Nat} (h : n ≠ 0) :
    Delimiters.Settable ⟨String.ofList (List.replicate n 'a'), "b"⟩ := by
  have hletter : ∀ c ∈ (String.ofList (List.replicate n 'a')).toList, c = 'a' := by
    intro c hc
    rw [String.toList_ofList] at hc
    exact List.eq_of_mem_replicate hc
  have hclosing : "b" ≠ "" ∧ Text.Blankless "b".toList ∧ '=' ∉ "b".toList := by decide
  refine ⟨?_, hclosing.1, ⟨fun c hc => ?_, hclosing.2.1⟩, fun hequals => ?_, hclosing.2.2⟩
  · rw [ne_eq, ← String.toList_eq_nil_iff, String.toList_ofList, List.replicate_eq_nil_iff]
    exact h
  · rw [hletter c hc]
    decide
  · exact absurd (hletter _ hequals) (by decide)

/-- With as many letters for a delimiter as take more than the limit the empty source compiles, and
the line in front of it does not. -/
theorem compile_empty_of_letters {n : Nat} (h : Size.limit < 32 * n) :
    Delimiters.Settable ⟨String.ofList (List.replicate n 'a'), "b"⟩ ∧
      compile "" ⟨String.ofList (List.replicate n 'a'), "b"⟩ =
        .ok ⟨"", ⟨String.ofList (List.replicate n 'a'), "b"⟩, []⟩ ∧
      compile (Delimiters.settingLine ⟨String.ofList (List.replicate n 'a'), "b"⟩ ++ "") .braces =
        .error (.invalidDelimiters
          (Delimiters.spec ⟨String.ofList (List.replicate n 'a'), "b"⟩)) := by
  have hd : Delimiters.Settable ⟨String.ofList (List.replicate n 'a'), "b"⟩ :=
    settable_letters (by omega)
  refine ⟨hd, compile_empty_of_long hd ?_⟩
  have hbytes : byteLength (List.replicate n 'a') = n := by
    rw [byteLength_replicate]
    exact Nat.mul_one n
  rwa [String.toList_ofList, hbytes]

/-- With 330000 letters for a delimiter the two outcomes differ. -/
theorem not_compile_settingLine_of_empty :
    Delimiters.Settable ⟨String.ofList (List.replicate 330000 'a'), "b"⟩ ∧
      compile "" ⟨String.ofList (List.replicate 330000 'a'), "b"⟩ =
        .ok ⟨"", ⟨String.ofList (List.replicate 330000 'a'), "b"⟩, []⟩ ∧
      compile (Delimiters.settingLine ⟨String.ofList (List.replicate 330000 'a'), "b"⟩ ++ "")
          .braces =
        .error (.invalidDelimiters
          (Delimiters.spec ⟨String.ofList (List.replicate 330000 'a'), "b"⟩)) :=
  compile_empty_of_letters (n := 330000) (by decide)

end Template

end PostalAddress
