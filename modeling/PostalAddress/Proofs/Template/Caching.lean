import Mathlib.Data.List.Dedup
import PostalAddress.Proofs.Entries
import PostalAddress.Proofs.Template.Compiling
import PostalAddress.Template.Cache

/-!
# Caches that hold what compiling gives

The key of a source joins it to its delimiters by colons. Sources may hold colons, but where the
delimiters do not, the key still tells which source and delimiters it was made from. A cache is
sound when each entry is what compiling its own source with its own delimiters gives, and stands
under its own key; compiling through a sound cache is compiling. A `Journal` keeps no template for
later use and counts what was compiled.
-/

namespace PostalAddress

namespace Delimiters

/-- No delimiter holds a colon. -/
def Colonless (d : Delimiters) : Prop := ':' ∉ d.opening.toList ∧ ':' ∉ d.closing.toList

instance (d : Delimiters) : Decidable d.Colonless := inferInstanceAs (Decidable (_ ∧ _))

end Delimiters

/-- The last separator is found where what follows it holds none. -/
theorem Text.append_cons_inj_of_not_mem {a b x y : List Char} {sep : Char}
    (h : a ++ sep :: x = b ++ sep :: y) (hx : sep ∉ x) (hy : sep ∉ y) : a = b ∧ x = y := by
  rcases List.append_eq_append_iff.mp h with ⟨c, rfl, hc⟩ | ⟨c, rfl, hc⟩
  · cases c with
    | nil =>
      obtain ⟨_, rfl⟩ := List.cons_eq_cons.mp hc
      exact ⟨(List.append_nil a).symm, rfl⟩
    | cons e c =>
      obtain ⟨_, rfl⟩ := List.cons_eq_cons.mp hc
      exact absurd (List.mem_append_right c List.mem_cons_self) hx
  · cases c with
    | nil =>
      obtain ⟨_, rfl⟩ := List.cons_eq_cons.mp hc
      exact ⟨List.append_nil b, rfl⟩
    | cons e c =>
      obtain ⟨_, rfl⟩ := List.cons_eq_cons.mp hc
      exact absurd (List.mem_append_right c List.mem_cons_self) hy

theorem Delimiters.cacheKey_inj {d d' : Delimiters} {s s' : String} (hd : d.Colonless)
    (hd' : d'.Colonless) (h : d.cacheKey s = d'.cacheKey s') : s = s' ∧ d = d' := by
  have hlist : (s.toList ++ ':' :: d.opening.toList) ++ ':' :: d.closing.toList =
      (s'.toList ++ ':' :: d'.opening.toList) ++ ':' :: d'.closing.toList := by
    simpa [cacheKey, String.toList_append] using congrArg String.toList h
  obtain ⟨hleft, hclosing⟩ := Text.append_cons_inj_of_not_mem hlist hd.2 hd'.2
  obtain ⟨hsource, hopening⟩ := Text.append_cons_inj_of_not_mem hleft hd.1 hd'.1
  cases d
  cases d'
  rw [String.toList_inj] at hsource hopening hclosing
  exact ⟨hsource, by rw [Delimiters.mk.injEq]; exact ⟨hopening, hclosing⟩⟩

namespace Cache

/-- Every entry is the template of its own source and delimiters, under their key. -/
def Sound (c : Cache) : Prop :=
  ∀ key t, c.get? key = some t → t.delimiters.Colonless ∧ key = t.delimiters.cacheKey t.source ∧
    Template.compile t.source t.delimiters = .ok t

theorem sound_empty : empty.Sound := by
  intro key t h
  cases h

theorem sound_off : off.Sound := by
  intro key t h
  cases h

theorem sound_clear (c : Cache) : c.clear.Sound := by
  cases c with
  | off => exact sound_off
  | memory ts => exact sound_empty

theorem get?_insert_memory (ts : Table Template) (key key' : String) (t : Template) :
    ((Cache.memory ts).insert key t).get? key' =
      if key = key' then some t else (Cache.memory ts).get? key' :=
  ts.get?_insert key key' t

theorem Sound.insert {c : Cache} (h : c.Sound) {source : String} {d : Delimiters} {t : Template}
    (hd : d.Colonless) (ht : Template.compile source d = .ok t) :
    (c.insert (d.cacheKey source) t).Sound := by
  obtain ⟨rfl, rfl, _⟩ := Template.compile_eq_ok_iff.mp ht
  cases c with
  | off => exact sound_off
  | memory ts =>
    intro key t' hget
    rw [get?_insert_memory] at hget
    split at hget
    · rename_i hkey
      obtain rfl := Option.some.inj hget
      exact ⟨hd, hkey.symm, ht⟩
    · exact h key t' hget

/-- What a sound cache has for a source is what compiling it gives. -/
theorem Sound.compile_eq {c : Cache} (h : c.Sound) {source : String} {d : Delimiters}
    {t : Template} (hd : d.Colonless) (hget : c.get? (d.cacheKey source) = some t) :
    Template.compile source d = .ok t := by
  obtain ⟨ht, hkey, hcompile⟩ := h _ _ hget
  obtain ⟨rfl, rfl⟩ := Delimiters.cacheKey_inj hd ht hkey
  exact hcompile

end Cache

section Compile

variable {σ : Type} [TemplateCache σ] {c : σ} {source : String} {d : Delimiters}

theorem TemplateCache.compile_hit {t : Template}
    (h : TemplateCache.get? c (d.cacheKey source) = some t) :
    TemplateCache.compile c source d = (.ok t, c) := by
  rw [compile, h]

theorem TemplateCache.compile_miss {t : Template}
    (h : TemplateCache.get? c (d.cacheKey source) = none)
    (ht : Template.compile source d = .ok t) :
    TemplateCache.compile c source d =
      (.ok t, TemplateCache.insert (d.cacheKey source) t c) := by
  rw [compile, h, ht]

theorem TemplateCache.compile_fault {e : TemplateError}
    (h : TemplateCache.get? c (d.cacheKey source) = none)
    (he : Template.compile source d = .error e) :
    TemplateCache.compile c source d = (.error e, c) := by
  rw [compile, h, he]

/-- What does not compile leaves the cache as it was. -/
theorem TemplateCache.eq_of_compile_error {c' : σ} {e : TemplateError}
    (h : TemplateCache.compile c source d = (.error e, c')) : c' = c := by
  cases hget : TemplateCache.get? c (d.cacheKey source) with
  | some t =>
    rw [compile_hit hget] at h
    cases h
  | none =>
    cases ht : Template.compile source d with
    | ok t =>
      rw [compile_miss hget ht] at h
      cases h
    | error e =>
      rw [compile_fault hget ht] at h
      exact (Prod.mk.inj h).2.symm

end Compile

namespace Cache

theorem Sound.compile {c : Cache} (h : c.Sound) (source : String) {d : Delimiters}
    (hd : d.Colonless) :
    (TemplateCache.compile c source d).1 = Template.compile source d ∧
      (TemplateCache.compile c source d).2.Sound := by
  cases hget : TemplateCache.get? c (d.cacheKey source) with
  | some t =>
    rw [TemplateCache.compile_hit hget]
    exact ⟨(h.compile_eq hd hget).symm, h⟩
  | none =>
    cases ht : Template.compile source d with
    | ok t =>
      rw [TemplateCache.compile_miss hget ht]
      exact ⟨rfl, h.insert hd ht⟩
    | error e =>
      rw [TemplateCache.compile_fault hget ht]
      exact ⟨rfl, h⟩

end Cache

/-- The templates that were compiled, the latest first. None is found again. -/
structure Journal where
  compiled : List Template

namespace Journal

def empty : Journal := ⟨[]⟩

instance : TemplateCache Journal where
  get? _ _ := none
  insert _ t j := ⟨t :: j.compiled⟩
  clear _ := empty

/-- What was compiled, with which delimiters. -/
def requests (j : Journal) : List (String × Delimiters) :=
  j.compiled.map fun t => (t.source, t.delimiters)

end Journal

namespace Cache

/-- The cache holds exactly what the journal says was compiled. -/
structure Tracks (c : Cache) (j : Journal) : Prop where
  sound : c.Sound
  memory : ∃ ts, c = .memory ts
  found : ∀ source d, d.Colonless →
    ((c.get? (d.cacheKey source)).isSome ↔ (source, d) ∈ j.requests)
  size : c.size = j.requests.dedup.length

theorem tracks_empty : empty.Tracks .empty where
  sound := sound_empty
  memory := ⟨_, rfl⟩
  found _ _ _ := by
    constructor
    · intro h
      cases h
    · intro h
      cases h
  size := rfl

variable {c : Cache} {j : Journal}

theorem Tracks.clear (h : c.Tracks j) : c.clear.Tracks (TemplateCache.clear j) := by
  obtain ⟨ts, rfl⟩ := h.memory
  exact tracks_empty

/-- A request that was made before adds nothing to what is counted. -/
theorem Tracks.hit (h : c.Tracks j) {t : Template} (hd : t.delimiters.Colonless)
    (hget : (c.get? (t.delimiters.cacheKey t.source)).isSome) :
    c.Tracks ⟨t :: j.compiled⟩ := by
  have hmem := (h.found _ _ hd).mp hget
  refine ⟨h.sound, h.memory, ?_, ?_⟩
  · intro source d hd'
    rw [h.found source d hd', Journal.requests, Journal.requests, List.map_cons, List.mem_cons]
    constructor
    · exact Or.inr
    · rintro (heq | hin)
      · rw [heq]
        exact hmem
      · exact hin
  · rw [h.size]
    exact (congrArg List.length (List.dedup_cons_of_mem hmem)).symm

theorem Tracks.miss (h : c.Tracks j) {t : Template} (hd : t.delimiters.Colonless)
    (ht : Template.compile t.source t.delimiters = .ok t)
    (hget : c.get? (t.delimiters.cacheKey t.source) = none) :
    (c.insert (t.delimiters.cacheKey t.source) t).Tracks ⟨t :: j.compiled⟩ := by
  have hnot : (t.source, t.delimiters) ∉ j.requests := by
    rw [← h.found _ _ hd, hget]
    exact Bool.false_ne_true
  refine ⟨h.sound.insert hd ht, ?_, ?_, ?_⟩
  · obtain ⟨ts, rfl⟩ := h.memory
    exact ⟨_, rfl⟩
  · intro source d hd'
    obtain ⟨ts, rfl⟩ := h.memory
    rw [get?_insert_memory, Journal.requests, List.map_cons, List.mem_cons]
    split
    · rename_i hkey
      obtain ⟨hs, hdd⟩ := Delimiters.cacheKey_inj hd hd' hkey
      simp [hs, hdd]
    · rename_i hkey
      have hne : ¬ (source, d) = (t.source, t.delimiters) := by
        intro heq
        obtain ⟨rfl, rfl⟩ := Prod.mk.inj heq
        exact hkey rfl
      rw [h.found source d hd', or_iff_right hne]
      rfl
  · have hdedup : (Journal.requests ⟨t :: j.compiled⟩).dedup =
        (t.source, t.delimiters) :: j.requests.dedup := List.dedup_cons_of_notMem hnot
    rw [hdedup, List.length_cons, ← h.size]
    obtain ⟨ts, rfl⟩ := h.memory
    exact Table.size_insert hget t

/-- Compiling through the cache and through the journal come to the same. -/
theorem Tracks.compile (h : c.Tracks j) (source : String) {d : Delimiters} (hd : d.Colonless) :
    (TemplateCache.compile c source d).1 = (TemplateCache.compile j source d).1 ∧
      (TemplateCache.compile c source d).2.Tracks (TemplateCache.compile j source d).2 := by
  have hnone : TemplateCache.get? j (d.cacheKey source) = none := rfl
  cases ht : Template.compile source d with
  | error e =>
    have hget : TemplateCache.get? c (d.cacheKey source) = none := by
      cases hget : TemplateCache.get? c (d.cacheKey source) with
      | none => rfl
      | some t => exact absurd (ht.symm.trans (h.sound.compile_eq hd hget)) (by simp)
    rw [TemplateCache.compile_fault hget ht, TemplateCache.compile_fault hnone ht]
    exact ⟨rfl, h⟩
  | ok t =>
    rw [TemplateCache.compile_miss hnone ht]
    obtain ⟨rfl, rfl, _⟩ := Template.compile_eq_ok_iff.mp ht
    cases hget : TemplateCache.get? c (t.delimiters.cacheKey t.source) with
    | some t' =>
      rw [TemplateCache.compile_hit hget]
      obtain rfl : t' = t := Except.ok.inj ((h.sound.compile_eq hd hget).symm.trans ht)
      exact ⟨rfl, h.hit hd (Option.isSome_of_eq_some hget)⟩
    | none =>
      rw [TemplateCache.compile_miss hget ht]
      exact ⟨rfl, h.miss hd ht hget⟩

end Cache

end PostalAddress
