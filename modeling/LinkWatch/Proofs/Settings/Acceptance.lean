import LinkWatch.Proofs.Settings.Merge

/-!
# Which interfaces the settings let through

The filter of a merge is written down first, as a list of matchers, and then its patterns are made into
tests. What it accepts is said here in terms of the sources (`accepts_iff_of_merge`): the switches of
both, and the lists of patterns that hold. The list to include and the list to exclude come from the
command line or from the file each on its own.
-/

namespace LinkWatch.Settings

open Outcome

/-! ## What is asked for -/

/-- A switch is on in the command line or in the file. -/
def OnInEither (given : Bool) (ofFile : FileSettings → Bool) (file : Option FileSettings) : Prop :=
  given = true ∨ ∃ f, file = some f ∧ ofFile f = true

/-- A pattern matches the id or the alias of an interface. -/
def PatternReader.Matches (read : PatternReader) (pattern : String) (i : Interface) : Prop :=
  ∃ test, read pattern = some test ∧ (test i.id = true ∨ test i.aliasName = true)

variable (read : PatternReader) (c : CommandLine) (file : Option FileSettings) (i : Interface)

/-- A switch of which either source can turn it on. -/
theorem onInEither_iff (given : Bool) (ofFile : FileSettings → Bool) (hempty : ofFile .empty = false) :
    (given || ofFile (file.getD .empty)) = true ↔ OnInEither given ofFile file := by
  rw [Bool.or_eq_true, OnInEither]
  cases file with
  | none => simp [hempty]
  | some f => simp

/-- A matcher of names recognises what its pattern matches. -/
theorem recognises_name_iff_matches (pattern : String) :
    (Matcher.name pattern).Recognises read.compile i ↔ read.Matches pattern i := by
  rw [Matcher.recognises_name_iff, PatternReader.compile, PatternReader.Matches]
  cases read pattern <;> simp

/-! ## The written filter -/

/-- The patterns to include that hold are the matchers to include. -/
theorem includes_writtenFilter :
    (writtenFilter c (file.getD .empty)).includes = (held c file).includes.map .name := by
  rw [writtenFilter, effectivePatterns_eq file c.includes (·.includes) rfl]
  rfl

/-- The matchers to exclude come from the two switches and from the patterns to exclude that hold.
-/
theorem mem_excludes_writtenFilter {m : Matcher String} :
    m ∈ (writtenFilter c (file.getD .empty)).excludes ↔
      (OnInEither c.excludeVirtual (·.excludeVirtual) file ∧ m = .virtual) ∨
      (OnInEither c.excludeLoopback (·.excludeLoopback) file ∧ m = .kinds [.loopback]) ∨
      ∃ p ∈ (held c file).excludes, m = .name p := by
  have hpatterns : effectivePatterns c.excludes (file.getD .empty).excludes =
      (held c file).excludes := effectivePatterns_eq file c.excludes (·.excludes) rfl
  -- a switch adds one matcher or none
  have hone {b : Bool} {m' : Matcher String} :
      m ∈ (if b = true then [m'] else []) ↔ b = true ∧ m = m' := by
    cases b <;> simp
  rw [writtenFilter, hpatterns, List.mem_append, List.mem_append, hone, hone, List.mem_map,
    onInEither_iff file c.excludeVirtual (·.excludeVirtual) rfl,
    onInEither_iff file c.excludeLoopback (·.excludeLoopback) rfl, or_assoc]
  simp only [eq_comm]

/-- What the matchers to exclude recognise, source by source. -/
theorem exists_excludes_iff :
    (∃ m ∈ (writtenFilter c (file.getD .empty)).excludes, m.Recognises read.compile i) ↔
      (OnInEither c.excludeVirtual (·.excludeVirtual) file ∧ i.isVirtual = true) ∨
      (OnInEither c.excludeLoopback (·.excludeLoopback) file ∧ i.kind = .loopback) ∨
      ∃ p ∈ (held c file).excludes, read.Matches p i := by
  constructor
  · rintro ⟨m, hm, hrecognises⟩
    rcases (mem_excludes_writtenFilter c file).1 hm with ⟨hon, rfl⟩ | ⟨hon, rfl⟩ | ⟨p, hp, rfl⟩
    · exact .inl ⟨hon, (Matcher.recognises_virtual_iff _ i).1 hrecognises⟩
    · exact .inr (.inl ⟨hon, by simpa using (Matcher.recognises_kinds_iff _ i _).1 hrecognises⟩)
    · exact .inr (.inr ⟨p, hp, (recognises_name_iff_matches read i p).1 hrecognises⟩)
  · rintro (⟨hon, hvirtual⟩ | ⟨hon, hkind⟩ | ⟨p, hp, hmatches⟩)
    · exact ⟨_, (mem_excludes_writtenFilter c file).2 (.inl ⟨hon, rfl⟩),
        (Matcher.recognises_virtual_iff _ i).2 hvirtual⟩
    · exact ⟨_, (mem_excludes_writtenFilter c file).2 (.inr (.inl ⟨hon, rfl⟩)),
        (Matcher.recognises_kinds_iff _ i _).2 (by simp [hkind])⟩
    · exact ⟨_, (mem_excludes_writtenFilter c file).2 (.inr (.inr ⟨p, hp, rfl⟩)),
        (recognises_name_iff_matches read i p).2 hmatches⟩

/-- What the matchers to include recognise. -/
theorem exists_includes_iff :
    (∃ m ∈ (writtenFilter c (file.getD .empty)).includes, m.Recognises read.compile i) ↔
      ∃ p ∈ (held c file).includes, read.Matches p i := by
  rw [includes_writtenFilter]
  simp only [List.mem_map, exists_exists_and_eq_and, recognises_name_iff_matches]

/-! ## Main result -/

/-- When a merge succeeds, its filter accepts an interface unless one of these excludes it: the switch
against virtual interfaces, on in either source, the switch against loopbacks, on in either source, or
a pattern to exclude that holds; and if there are patterns to include that hold, one of them
matches. This holds for any reader of patterns, the one of names among them
(`merge_eq_mergeReading`). -/
theorem accepts_iff_of_merge :
    ∀ read c file s, mergeReading read c file = .ok s → ∀ i, s.filter.accepts i = true ↔
      ¬ (OnInEither c.excludeVirtual (·.excludeVirtual) file ∧ i.isVirtual = true) ∧
      ¬ (OnInEither c.excludeLoopback (·.excludeLoopback) file ∧ i.kind = .loopback) ∧
      (∀ p ∈ (held c file).excludes, ¬ read.Matches p i) ∧
      ((held c file).includes = [] ∨ ∃ p ∈ (held c file).includes, read.Matches p i) := by
  intro read c file s h i
  obtain ⟨-, hfilter, -, -⟩ := (mergeWith_eq_ok_iff _ _ _).1 h
  rw [resolveFilter, mapError_eq_ok_iff] at hfilter
  -- no matcher to exclude recognises the interface, whichever source it comes from
  have hnone : (∀ m ∈ (writtenFilter c (file.getD .empty)).excludes,
      ¬ m.Recognises read.compile i) ↔
        ¬ ∃ m ∈ (writtenFilter c (file.getD .empty)).excludes, m.Recognises read.compile i := by
    simp only [not_exists, not_and]
  rw [Filter.accepts_of_mapNames hfilter, hnone, exists_excludes_iff, exists_includes_iff,
    includes_writtenFilter, List.map_eq_nil_iff]
  simp only [not_or, not_exists, not_and, and_assoc]

/-- The includes of the command line take the place of those of the file, whose excludes stay, and each
source turns on a switch. -/
theorem accepts_iff_of_merge_of_both :
    let read : PatternReader := fun p => some (· == p)
    let c : CommandLine := ⟨none, none, false, none, ["eth0", "lo"], [], true, false, none, false⟩
    let f : FileSettings := ⟨none, ["wlan0"], ["uplink"], false, true, none, none⟩
    ∃ s, mergeReading read c (some f) = .ok s ∧
      s.filter.accepts (.new "eth0" .ethernet) = true ∧
      s.filter.accepts { Interface.new "eth0" .ethernet with aliasName := "uplink" } = false ∧
      s.filter.accepts { Interface.new "lo" .loopback with isVirtual := false } = false ∧
      s.filter.accepts (.new "wlan0" .wifi) = false := by
  intro read c f
  have hsuccess : failure? (mergeReading read c (some f)) = none := by
    rw [failure?_mergeReading]
    decide +kernel
  obtain ⟨s, hs⟩ := failure?_eq_none_iff.1 hsuccess
  have hvirtual : OnInEither c.excludeVirtual (·.excludeVirtual) (some f) := .inl rfl
  have hloopback : OnInEither c.excludeLoopback (·.excludeLoopback) (some f) := .inr ⟨f, rfl, rfl⟩
  have hincludes : (held c (some f)).includes = ["eth0", "lo"] := rfl
  have hexcludes : (held c (some f)).excludes = ["uplink"] := rfl
  have haccepts (i : Interface) : s.filter.accepts i = true ↔
      ¬ i.isVirtual = true ∧ ¬ i.kind = .loopback ∧ ¬ (i.id = "uplink" ∨ i.aliasName = "uplink") ∧
        ((i.id = "eth0" ∨ i.aliasName = "eth0") ∨ i.id = "lo" ∨ i.aliasName = "lo") := by
    rw [accepts_iff_of_merge read c (some f) s hs i, hincludes, hexcludes]
    simp [hvirtual, hloopback, PatternReader.Matches, read]
  exact ⟨s, hs, (haccepts _).2 (by decide), Bool.eq_false_iff.2 (mt (haccepts _).1 (by decide)),
    Bool.eq_false_iff.2 (mt (haccepts _).1 (by decide)),
    Bool.eq_false_iff.2 (mt (haccepts _).1 (by decide))⟩

end LinkWatch.Settings
