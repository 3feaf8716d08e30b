import PostalAddress.Address.Formatter
import PostalAddress.Bundled.Data
import PostalAddress.Proofs.Address.Abbreviations
import PostalAddress.Proofs.Renaming

/-!
# The rules of a formatter

A formatter keeps the tables it is made of, and the rules under a code are those of its entry. So
each rule is meant for the field that its entry says, and a code whose entry has no rules for output
leaves texts as they are. Since the rules of an entry are read by themselves, what a few of them do
can be computed without the others.
-/

namespace PostalAddress.Formatter

section Except

variable {ε α β : Type}

theorem bind_eq_ok_iff {m : Except ε α} {next : α → Except ε β} {b : β} :
    (m >>= next) = .ok b ↔ ∃ a, m = .ok a ∧ next a = .ok b := by
  cases m with
  | error e => exact ⟨nofun, fun ⟨_, h, _⟩ => nomatch h⟩
  | ok a => exact ⟨fun h => ⟨a, rfl, h⟩, fun ⟨_, h, h'⟩ => (Except.ok.inj h) ▸ h'⟩

theorem eq_ok_of_toOption {m : Except ε α} {a : α} (h : m.toOption = some a) : m = .ok a := by
  cases m with
  | error e => cases h
  | ok b => exact congrArg Except.ok (Option.some.inj h)

theorem eq_map_of_mapM {f : α → Except ε β} {g : α → β} (hg : ∀ a b, f a = .ok b → g a = b)
    {as : List α} {bs : List β} (h : as.mapM f = .ok bs) : bs = as.map g := by
  induction as generalizing bs with
  | nil => exact (Except.ok.inj h).symm
  | cons a as ih =>
    rw [List.mapM_cons] at h
    obtain ⟨b, hb, h⟩ := bind_eq_ok_iff.mp h
    obtain ⟨bs', hbs, h⟩ := bind_eq_ok_iff.mp h
    obtain rfl := Except.ok.inj h
    rw [List.map_cons, hg a b hb, ← ih hbs]

/-- Steps that add one thing to each of two lists add what every step adds. -/
theorem eq_map_of_foldlM {γ : Type} {f : List β × List γ → α → Except ε (List β × List γ)}
    (g : α → β) (g' : α → γ)
    (hf : ∀ bs a bs', f bs a = .ok bs' → bs' = (bs.1 ++ [g a], bs.2 ++ [g' a]))
    {as : List α} {bs bs' : List β × List γ} (h : as.foldlM f bs = .ok bs') :
    bs' = (bs.1 ++ as.map g, bs.2 ++ as.map g') := by
  induction as generalizing bs with
  | nil =>
    obtain rfl := Except.ok.inj h
    simp
  | cons a as ih =>
    rw [List.foldlM_cons] at h
    obtain ⟨next, hnext, h⟩ := bind_eq_ok_iff.mp h
    rw [ih h, hf bs a next hnext]
    simp

theorem exists_of_mem_mapM {f : α → Except ε β} {as : List α} {bs : List β}
    (h : as.mapM f = .ok bs) {b : β} (hb : b ∈ bs) : ∃ a ∈ as, f a = .ok b := by
  induction as generalizing bs with
  | nil =>
    obtain rfl := Except.ok.inj h
    cases hb
  | cons a as ih =>
    rw [List.mapM_cons] at h
    obtain ⟨b', hb', h⟩ := bind_eq_ok_iff.mp h
    obtain ⟨bs', hbs', h⟩ := bind_eq_ok_iff.mp h
    obtain rfl := Except.ok.inj h
    obtain rfl | hb := List.mem_cons.mp hb
    · exact ⟨a, List.mem_cons_self, hb'⟩
    · obtain ⟨a', ha', hfrom⟩ := ih hbs' hb
      exact ⟨a', List.mem_cons_of_mem a ha', hfrom⟩

end Except

section Reading

/-- The rules that were read; a table with a pattern that cannot be read has none. -/
def rulesRead (table : Except PatternFault RuleTable) : RuleTable := table.toOption.getD []

def inputRules (code : String) (e : CountryEntry) : RuleTable :=
  rulesRead (RuleTable.forFields (code ++ ".replace") e.replace)

def outputRules (code : String) (e : CountryEntry) : RuleTable :=
  rulesRead (RuleTable.forText (code ++ ".postformat_replace") e.postformatReplace)

def wordRules (language : String) (rules : List AbbreviationRule) : RuleTable :=
  rulesRead (RuleTable.forAbbreviations ("abbreviations." ++ language) rules)

/-- The formatter with every table read by itself. -/
def readEach (data : AddressData) : Formatter where
  data := data
  replace := .ofList (data.templates.entries.map fun x => (x.1, inputRules x.1 x.2))
  postformat := .ofList (data.templates.entries.map fun x => (x.1, outputRules x.1 x.2))
  abbreviations := .ofList (data.abbreviations.entries.map fun x => (x.1, wordRules x.1 x.2))

theorem exists_of_mem_rulesRead {α : Type} {f : α → Except PatternFault Rule} {as : List α}
    {r : Rule} (h : r ∈ rulesRead (as.mapM f)) : ∃ a ∈ as, f a = .ok r := by
  unfold rulesRead at h
  cases hread : as.mapM f with
  | error fault =>
    rw [hread] at h
    exact absurd h List.not_mem_nil
  | ok rules =>
    rw [hread] at h
    exact exists_of_mem_mapM hread h

theorem entryRules_eq_ok {templates : CountryTable}
    {tables : List (String × RuleTable) × List (String × RuleTable)}
    (h : entryRules templates = .ok tables) :
    tables = (templates.entries.map fun x => (x.1, inputRules x.1 x.2),
      templates.entries.map fun x => (x.1, outputRules x.1 x.2)) := by
  refine (eq_map_of_foldlM (fun x => (x.1, inputRules x.1 x.2))
    (fun x => (x.1, outputRules x.1 x.2)) (fun tables entry tables' hstep => ?_) h :)
  obtain ⟨r, hr, hstep⟩ := bind_eq_ok_iff.mp hstep
  obtain ⟨p, hp, hstep⟩ := bind_eq_ok_iff.mp hstep
  obtain rfl := Except.ok.inj hstep
  rw [inputRules, hr, outputRules, hp]
  rfl

theorem abbreviationRules_eq_ok {abbreviations : Table (List AbbreviationRule)}
    {tables : List (String × RuleTable)} (h : abbreviationRules abbreviations = .ok tables) :
    tables = abbreviations.entries.map fun x => (x.1, wordRules x.1 x.2) := by
  refine eq_map_of_mapM (fun x y hread => ?_) h
  obtain ⟨rules, hrules, hread⟩ := bind_eq_ok_iff.mp hread
  obtain rfl := Except.ok.inj hread
  rw [wordRules, hrules]
  rfl

variable {data : AddressData} {fm : Formatter}

/-- A formatter has the rules that each of its tables has by itself. -/
theorem eq_readEach_of_make (h : make data = .ok fm) : fm = readEach data := by
  obtain ⟨⟨replace, postformat⟩, hentries, h⟩ := bind_eq_ok_iff.mp h
  obtain ⟨abbreviations, habbreviations, h⟩ := bind_eq_ok_iff.mp h
  obtain rfl := Except.ok.inj h
  obtain ⟨rfl, rfl⟩ := Prod.mk.inj (entryRules_eq_ok hentries)
  obtain rfl := abbreviationRules_eq_ok habbreviations
  rfl

theorem data_of_make (h : make data = .ok fm) : fm.data = data := by
  rw [eq_readEach_of_make h]
  rfl

end Reading

section Bundled

/-- The bundled formatter. Its abbreviations are read literally, so their patterns need no reading. -/
def bundled : Formatter where
  data := .bundled
  replace := Table.mapEntries inputRules Bundled.templates
  postformat := Table.mapEntries outputRules Bundled.templates
  abbreviations := Table.mapEntries (fun _ rules => RuleTable.wordTable rules) Bundled.abbreviations

theorem abbreviationRules_bundled :
    abbreviationRules Bundled.abbreviations =
      .ok (Bundled.abbreviations.entries.map fun x => (x.1, RuleTable.wordTable x.2)) := by
  have hshort : ∀ x ∈ Bundled.abbreviations.entries, ∀ r ∈ x.2, ∀ a ∈ r.replacements,
      a.src.toList.length ≤ 2557 := by
    decide +kernel
  refine RuleTable.mapM_eq_ok ?_
  rintro ⟨language, rules⟩ hx
  have hrules := RuleTable.forAbbreviations_eq_ok ("abbreviations." ++ language) fun r hr a ha =>
    Pattern.not_tooLarge_word (RuleTable.toList_wordPattern a.src) (hshort _ hx r hr a ha)
  dsimp only
  rw [hrules]
  rfl

theorem make_bundled : make .bundled = .ok bundled := by
  have hread : (entryRules Bundled.templates).toOption.isSome := by decide +kernel
  obtain ⟨tables, htables⟩ := Option.isSome_iff_exists.mp hread
  have hentries := eq_ok_of_toOption htables
  obtain rfl := entryRules_eq_ok hentries
  refine bind_eq_ok_iff.mpr ⟨_, hentries, bind_eq_ok_iff.mpr ⟨_, abbreviationRules_bundled, ?_⟩⟩
  rw [Table.ofList_map_entries inputRules, Table.ofList_map_entries outputRules,
    Table.ofList_map_entries fun _ rules => RuleTable.wordTable rules]
  rfl

end Bundled

section Scopes

variable {data : AddressData} {fm : Formatter}

theorem of_rule_make {table : String} {scope : Option String} {pattern replacement : String}
    {r : Rule} (h : Rule.make table scope pattern replacement = .ok r) :
    r.scope = scope ∧ Pattern.parse? pattern = some r.pattern := by
  unfold Rule.make at h
  split at h
  · rename_i p hp
    obtain rfl := Except.ok.inj h
    exact ⟨rfl, hp⟩
  · cases h

/-- The rules for input under a code are those that its entry says. -/
theorem exists_source_of_replace (h : make data = .ok fm) {code : String} {rules : RuleTable}
    (hrules : fm.replace.get? code = some rules) :
    ∃ e, (code, e) ∈ data.templates.entries ∧ ∀ r ∈ rules, ∃ s ∈ e.replace,
      r.scope = s.scopeAndPattern.1 ∧ Pattern.parse? s.scopeAndPattern.2 = some r.pattern := by
  rw [eq_readEach_of_make h] at hrules
  obtain ⟨⟨code, e⟩, he, heq⟩ := List.mem_map.mp (Table.mem_of_get?_ofList hrules)
  obtain ⟨rfl, rfl⟩ := Prod.mk.inj heq
  refine ⟨e, he, fun r hr => ?_⟩
  obtain ⟨s, hs, hmake⟩ := exists_of_mem_rulesRead hr
  exact ⟨s, hs, of_rule_make hmake⟩

/-- The abbreviations of a language are meant for the components that it says. -/
theorem exists_scope_of_abbreviations (h : make data = .ok fm) {language : String}
    {rules : RuleTable} (hrules : fm.abbreviations.get? language = some rules) :
    ∃ as, (language, as) ∈ data.abbreviations.entries ∧
      ∀ r ∈ rules, ∃ a ∈ as, r.scope = some a.component := by
  rw [eq_readEach_of_make h] at hrules
  obtain ⟨⟨language, as⟩, has, heq⟩ := List.mem_map.mp (Table.mem_of_get?_ofList hrules)
  obtain ⟨rfl, rfl⟩ := Prod.mk.inj heq
  refine ⟨as, has, fun r hr => ?_⟩
  obtain ⟨⟨component, a⟩, hmem, hmake⟩ := exists_of_mem_rulesRead hr
  obtain ⟨rule, hrule, hmem⟩ := List.mem_flatMap.mp hmem
  obtain ⟨_, _, heq⟩ := List.mem_map.mp hmem
  obtain ⟨rfl, _⟩ := Prod.mk.inj heq
  exact ⟨rule, hrule, (of_rule_make hmake).1⟩

/-- A code whose entry has no rules for output leaves a text as it is. -/
theorem postformatted_of_make (h : make data = .ok fm) {key : String} {e : CountryEntry}
    (he : Table.get? data.templates key = some e) (hrules : e.postformatReplace = [])
    (text : String) : fm.postformatted key text = text := by
  unfold postformatted
  split
  · rfl
  · rfl
  · rename_i rules hne hget
    rw [eq_readEach_of_make h] at hget
    obtain ⟨⟨key, e'⟩, hmem, heq⟩ := List.mem_map.mp (Table.mem_of_get?_ofList hget)
    obtain ⟨rfl, rfl⟩ := Prod.mk.inj heq
    obtain rfl := Option.some.inj (he.symm.trans (Table.get?_eq_some_iff.mpr hmem))
    exact absurd (by rw [outputRules, hrules]; rfl) hne

end Scopes

end PostalAddress.Formatter
