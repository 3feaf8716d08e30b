import PostalAddress.Address.Formatter
import PostalAddress.Proofs.Entries

/-!
# What the steps of settling an address write

Most of the steps from the fields that are given to those that are laid out insert a value under
a key of their own, when there is one to insert. Said so, two runs can be compared key by key.
-/

namespace PostalAddress

/-- The table with a value under a key, when there is one. -/
def Table.insertSome {α : Type} (t : Table α) (key : String) : Option α → Table α
  | some value => t.insert key value
  | none => t

theorem Table.get?_insertSome_of_ne {α : Type} {key key' : String} (h : key ≠ key') (t : Table α)
    (value : Option α) : (t.insertSome key value).get? key' = t.get? key' := by
  cases value with
  | none => rfl
  | some value => exact (t.get?_insert key key' value).trans (if_neg h)

/-- The state that comes with an entry. -/
def CountryEntry.addedState (e : CountryEntry) : Option String :=
  e.addedComponent.bind fun added => if added.1 = "state" then some added.2 else none

namespace Fields

/-- The keys that the steps before the aliases ask for or write. -/
def countryKeys : List String := ["country", "country_code", "state"]

/-- The keys that the steps after the aliases ask for or write. -/
def namedKeys : List String :=
  ["attention", "city", "country", "country_code", "county", "county_code", "postcode", "road",
    "state", "state_code"]

/-- The value of a field, or nothing. -/
def textOf (f : Fields) (name : String) : String := (Table.get? f name).getD ""

section Present

variable {f g : Fields} {key value : String}

theorem get?_eq_of_present (h : f.present key = some value) : Table.get? f key = some value := by
  unfold present at h
  split at h
  · split at h
    · cases h
    · exact h ▸ ‹_›
  · cases h

theorem ne_empty_of_present (h : f.present key = some value) : value ≠ "" := by
  rintro rfl
  rw [present, get?_eq_of_present h] at h
  cases h

theorem present_of_get? (h : Table.get? f key = some value) (hvalue : value ≠ "") :
    f.present key = some value := by
  simp [present, h, hvalue]

theorem textOf_eq_present (f : Fields) (key : String) : f.textOf key = (f.present key).getD "" := by
  rw [textOf, present]
  cases Table.get? f key with
  | none => rfl
  | some value =>
    by_cases hvalue : value = ""
    · subst hvalue
      rfl
    · simp [hvalue]

theorem present_eq_textOf (f : Fields) (key : String) :
    f.present key = if f.textOf key = "" then none else some (f.textOf key) := by
  rw [textOf_eq_present]
  cases hvalue : f.present key with
  | none => rfl
  | some value => exact (if_neg (ne_empty_of_present hvalue)).symm

theorem isPresent_iff : f.isPresent key ↔ f.textOf key ≠ "" := by
  rw [textOf_eq_present, isPresent]
  cases hvalue : f.present key with
  | none => simp
  | some value => simp [ne_empty_of_present hvalue]

theorem present_congr (h : Table.get? f key = Table.get? g key) :
    f.present key = g.present key := by
  rw [present, h, present]

theorem isPresent_congr (h : Table.get? f key = Table.get? g key) :
    f.isPresent key = g.isPresent key :=
  congrArg Option.isSome (present_congr h)

end Present

section Country

/-- The field that a text takes a value from. -/
def askedFor : List Char → Option String
  | [] => none
  | c :: r => if c = '$' then some (String.ofList (r.takeWhile Text.isWord)) else askedFor r

theorem expandField_congr {f g : Fields} {t : List Char}
    (h : ∀ name, askedFor t = some name → f.present name = g.present name) :
    expandField f t = expandField g t := by
  induction t with
  | nil => rfl
  | cons c r ih =>
    rw [askedFor] at h
    unfold expandField
    by_cases hc : c = '$'
    · rw [if_pos hc] at h
      rw [if_pos hc, if_pos hc]
      dsimp only
      rw [h _ rfl]
    · rw [if_neg hc] at h
      rw [if_neg hc, if_neg hc, ih h]

/-- The name that an entry gives its country. -/
def changedName (f : Fields) (e : CountryEntry) : Option String :=
  e.changeCountry.map fun text => String.ofList (expandField f text.toList)

theorem applyRedirect_eq (f : Fields) (e : CountryEntry) :
    applyRedirect f e =
      Table.insertSome (Table.insertSome f "country" (f.changedName e)) "state" e.addedState := by
  rw [applyRedirect, changedName, CountryEntry.addedState]
  cases e.changeCountry <;> cases e.addedComponent with
  | none => rfl
  | some added =>
    dsimp only [Option.bind_some]
    split <;> rfl

/-- The Caribbean country that an address of the Netherlands is in. -/
def moved (f : Fields) (code : String) : Option (String × String) :=
  if code = "NL" then (f.present "state").bind caribbean? else none

theorem settleCode_eq (f : Fields) (code : String) :
    settleCode f code =
      Table.insert (Table.insertSome f "country" ((f.moved code).map Prod.snd)) "country_code"
        (((f.moved code).map Prod.fst).getD code) := by
  unfold settleCode
  rw [← moved]
  cases f.moved code with
  | none => rfl
  | some entry => rfl

theorem appendCountry_eq (data : AddressData) (f : Fields) :
    appendCountry data f = Table.insertSome f "country"
      (if f.isPresent "country" then none
      else (f.present "country_code").bind data.countryName) := by
  rw [appendCountry]
  split
  · rfl
  · cases (f.present "country_code").bind data.countryName <;> rfl

end Country

end Fields

end PostalAddress
