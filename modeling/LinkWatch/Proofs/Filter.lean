import Mathlib.Data.List.Forall2
import LinkWatch.Filter
import LinkWatch.Proofs.Keyed
import LinkWatch.Proofs.Outcome

/-!
# What a filter lets through

A filter works on one record at a time: a snapshot keeps under each id the record that is accepted
(`get?_restrict`). A chain inside a filter decides as a filter of its own (`accepts_chain`), so that
nothing depends on how deep chains are nested.

A filter that was written down with patterns is applied after these were made into tests. What it
accepts can be told from the written form (`accepts_of_mapNames`), and if some patterns cannot be read
then the error is that of the first one (`failure?_mapNames`).
-/

namespace LinkWatch

/-- A chain inside a chain accepts what it would accept as a filter of its own. -/
theorem Matcher.accepts_chain (includes excludes : List (Matcher (String → Bool))) (i : Interface) :
    (Matcher.chain includes excludes).accepts i = (⟨includes, excludes⟩ : Filter _).accepts i := by
  rw [Matcher.accepts, Matcher.anyAccepts_eq_any, Matcher.anyAccepts_eq_any, Filter.accepts]

namespace Filter

variable (f : Filter (String → Bool)) (s : Snapshot)

/-! ## Snapshots -/

/-- A restricted snapshot has the accepted interfaces, unchanged. -/
theorem get?_restrict (k : String) : (f.restrict s).get? k = (s.get? k).filter f.accepts :=
  Keyed.get?_filter s _ k

/-- True when there is a record under the id and the filter accepts it. -/
def shows (k : String) : Bool := (s.get? k).any f.accepts

theorem contains_restrict (k : String) : (f.restrict s).contains k = f.shows s k := by
  rw [Keyed.contains, get?_restrict, shows]
  cases h : s.get? k with
  | none => rfl
  | some i => cases hi : f.accepts i <;> simp [Option.filter, hi]

/-- An entry is shown if its record is accepted. -/
theorem shows_of_mem_entries {f : Filter (String → Bool)} {s : Snapshot} {e : String × Interface}
    (he : e ∈ s.entries) : f.shows s e.1 = f.accepts e.2 := by
  rw [shows, Keyed.mem_entries_iff.1 he]
  rfl

end Filter

/-! ## Written matchers -/

section Written

open Outcome

variable {ν μ ε : Type}

namespace Matcher

/-- The error of a list of matchers is that of the first one in it that has one. -/
theorem failure?_mapNamesAll (f : ν → Except ε μ) (ms : List (Matcher ν)) :
    failure? (mapNamesAll f ms) = (ms.filterMap fun m => failure? (m.mapNames f)).head? := by
  induction ms with
  | nil => rfl
  | cons m r ih =>
    rw [mapNamesAll, List.filterMap_cons]
    cases m.mapNames f with
    | error e => rfl
    | ok m' =>
      -- the matcher has no error, so that the rest decides
      rw [failure?, ← ih]
      cases mapNamesAll f r <;> rfl

/-- A list of matchers is made into the list of what is made of each. -/
theorem forall₂_of_mapNamesAll {f : ν → Except ε μ} {ms : List (Matcher ν)}
    {ms' : List (Matcher μ)} (h : mapNamesAll f ms = .ok ms') :
    List.Forall₂ (fun m m' => m.mapNames f = .ok m') ms ms' := by
  induction ms generalizing ms' with
  | nil =>
    cases h
    exact .nil
  | cons m r ih =>
    rw [mapNamesAll] at h
    cases hm : m.mapNames f with
    | error e =>
      rw [hm] at h
      cases h
    | ok m' =>
      rw [hm] at h
      cases hr : mapNamesAll f r with
      | error e =>
        simp only [hr] at h
        cases h
      | ok r' =>
        simp only [hr] at h
        cases h
        exact .cons hm (ih hr)

variable (compile : ν → Except ε (String → Bool)) (i : Interface)

/-- A written matcher recognises an interface if it can be made into a matcher that does. -/
def Recognises (m : Matcher ν) : Prop := ∃ m', m.mapNames compile = .ok m' ∧ m'.accepts i = true

theorem recognises_virtual_iff : Recognises compile i virtual ↔ i.isVirtual = true := by
  simp [Recognises, mapNames, accepts]

/-- A matcher of kinds looks at the kind only. -/
theorem recognises_kinds_iff (ks : List InterfaceKind) :
    Recognises compile i (kinds ks) ↔ i.kind ∈ ks := by
  simp [Recognises, mapNames, accepts]

/-- A matcher of names needs a pattern that can be read, and matches the identifier or the alias. -/
theorem recognises_name_iff (pattern : ν) :
    Recognises compile i (name pattern) ↔
      ∃ test, compile pattern = .ok test ∧ (test i.id = true ∨ test i.aliasName = true) := by
  rw [Recognises, mapNames]
  cases compile pattern <;> simp [Except.map, accepts]

/-- Some compiled matcher accepts an interface if and only if some written one recognises it. -/
theorem any_accepts_iff {ms : List (Matcher ν)} {ms' : List (Matcher (String → Bool))}
    (h : List.Forall₂ (fun m m' => m.mapNames compile = .ok m') ms ms') :
    ms'.any (·.accepts i) = true ↔ ∃ m ∈ ms, Recognises compile i m := by
  induction h with
  | nil => simp
  | cons hm _ ih => simp [ih, Recognises, hm]

end Matcher

namespace Filter

/-- The first pattern that cannot be read is reported, those to include before those to exclude. -/
theorem failure?_mapNames (f : ν → Except ε μ) (c : Filter ν) :
    failure? (c.mapNames f) =
      ((c.includes ++ c.excludes).filterMap fun m => failure? (m.mapNames f)).head? := by
  rw [List.filterMap_append, List.head?_append, ← Matcher.failure?_mapNamesAll,
    ← Matcher.failure?_mapNamesAll, mapNames]
  cases Matcher.mapNamesAll f c.includes with
  | error e => rfl
  | ok includes => cases Matcher.mapNamesAll f c.excludes <;> rfl

/-- A filter is compiled matcher by matcher. -/
theorem forall₂_of_mapNames {f : ν → Except ε μ} {c : Filter ν} {c' : Filter μ}
    (h : c.mapNames f = .ok c') :
    List.Forall₂ (fun m m' => m.mapNames f = .ok m') c.includes c'.includes ∧
      List.Forall₂ (fun m m' => m.mapNames f = .ok m') c.excludes c'.excludes := by
  rw [mapNames] at h
  cases hincludes : Matcher.mapNamesAll f c.includes with
  | error e =>
    simp only [hincludes] at h
    cases h
  | ok includes =>
    cases hexcludes : Matcher.mapNamesAll f c.excludes with
    | error e =>
      simp only [hincludes, hexcludes] at h
      cases h
    | ok excludes =>
      simp only [hincludes, hexcludes] at h
      cases h
      exact ⟨Matcher.forall₂_of_mapNamesAll hincludes, Matcher.forall₂_of_mapNamesAll hexcludes⟩

/-- What a filter accepts, by the matchers that it was written with. -/
theorem accepts_of_mapNames {compile : ν → Except ε (String → Bool)} {c : Filter ν}
    {f : Filter (String → Bool)} (h : c.mapNames compile = .ok f) (i : Interface) :
    f.accepts i = true ↔ (∀ m ∈ c.excludes, ¬ m.Recognises compile i) ∧
      (c.includes = [] ∨ ∃ m ∈ c.includes, m.Recognises compile i) := by
  obtain ⟨hincludes, hexcludes⟩ := forall₂_of_mapNames h
  -- no matcher is lost, so there are none to include exactly if none was written
  have hempty : f.includes.isEmpty = true ↔ c.includes = [] := by
    rw [List.isEmpty_iff, ← List.length_eq_zero_iff, ← hincludes.length_eq, List.length_eq_zero_iff]
  rw [accepts, Bool.and_eq_true, Bool.or_eq_true, hempty, Matcher.any_accepts_iff compile i hincludes,
    Bool.not_eq_true', ← Bool.not_eq_true, Matcher.any_accepts_iff compile i hexcludes]
  simp only [not_exists, not_and]

end Filter
end Written
end LinkWatch
