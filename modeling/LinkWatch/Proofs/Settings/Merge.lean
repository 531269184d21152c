import LinkWatch.Proofs.Filter
import LinkWatch.Settings.Basic

/-!
# Which values hold, and which fault is reported

Each value comes from the command line, or else from the settings file, or else it is the default
(`held`). Only the values that hold are checked. Their faults have an order (`faults`): the interval,
the patterns to include, the patterns to exclude, the separator. A merge reports the first of them, and
succeeds if there is none (`merge_reports_first_fault`). So a value of the file that the command line
overrides makes no difference, not even if it is a fault (`mergeWith_congr`).

How patterns are read is left open: all of this holds for any reader of patterns.
-/

namespace LinkWatch.Settings

open Outcome

/-! ## Reading patterns -/

theorem compile_nameReader : nameReader.compile = Pattern.nameTest := by
  funext text
  rw [PatternReader.compile, nameReader, Pattern.nameTest]
  cases Pattern.compile text <;> rfl

theorem PatternReader.failure?_compile (read : PatternReader) (text : String) :
    failure? (read.compile text) = if (read text).isNone then some text else none := by
  rw [compile]
  cases read text <;> rfl

/-- The program reads patterns as names, and a merge is one with the reader of names. -/
theorem merge_eq_mergeReading (c : CommandLine) (file : Option FileSettings) :
    merge c file = mergeReading nameReader c file := by
  rw [merge, mergeReading, compile_nameReader]

/-! ## The values that hold -/

/-- The value of the command line, or else of the file, or else the default. -/
def firstGiven {α : Type} (given fromFile : Option α) (otherwise : α) : α :=
  match given, fromFile with
  | some a, _ => a
  | none, some a => a
  | none, none => otherwise

/-- A list of patterns counts as given if there is one in it. -/
def givenList (patterns : List String) : Option (List String) :=
  if patterns = [] then none else some patterns

/-- The values that are checked. -/
structure Held where
  /-- The time between two polls, in milliseconds. -/
  interval : UInt64
  includes : List String
  excludes : List String
  separator : String

/-- The values that hold for a command line and a settings file. -/
def held (c : CommandLine) (file : Option FileSettings) : Held where
  interval := firstGiven c.pollInterval (file.bind (·.pollInterval)) 1000
  includes := firstGiven (givenList c.includes) (file.map (·.includes)) []
  excludes := firstGiven (givenList c.excludes) (file.map (·.excludes)) []
  separator := firstGiven c.separator (file.bind (·.separator)) ":"

section Effective

variable (c : CommandLine) (file : Option FileSettings)

/-- A missing file says the same as an empty one. -/
theorem firstGiven_eq {α : Type} (given : Option α) (ofFile : FileSettings → Option α) (otherwise : α)
    (hempty : ofFile .empty = none) :
    (given.or (ofFile (file.getD .empty))).getD otherwise =
      firstGiven given (file.bind ofFile) otherwise := by
  cases given with
  | some a => rfl
  | none =>
    cases file with
    | none => simp [firstGiven, hempty]
    | some f => cases h : ofFile f <;> simp [firstGiven, h]

theorem effectiveInterval_eq :
    effectiveInterval c (file.getD .empty) = (held c file).interval :=
  firstGiven_eq file c.pollInterval (·.pollInterval) defaultInterval rfl

theorem effectivePatterns_eq (given : List String) (ofFile : FileSettings → List String)
    (hempty : ofFile .empty = []) :
    effectivePatterns given (ofFile (file.getD .empty)) =
      firstGiven (givenList given) (file.map ofFile) [] := by
  cases given with
  | cons p r => rfl
  | nil =>
    cases file with
    | none => exact hempty
    | some f => rfl

theorem effectiveSeparator_eq :
    (effectiveSeparator c (file.getD .empty)).getD ":" = (held c file).separator :=
  firstGiven_eq file c.separator (·.separator) ":" rfl

end Effective

/-! ## Separators -/

/-- The text is the word none, in letters of either case. -/
def CalledNone (value : String) : Prop :=
  List.Forall₂ (fun c l => c = l ∨ c = l.toUpper) value.toList ['n', 'o', 'n', 'e']

instance (value : String) : Decidable (CalledNone value) :=
  inferInstanceAs (Decidable (List.Forall₂ _ _ _))

/-- The texts that are read as a separator: nothing, the word none, and single characters. -/
def IsSeparator (value : String) : Prop :=
  value = "" ∨ CalledNone value ∨ ∃ c, value = String.singleton c

/-- The separator that a text stands for. -/
def separatorOf (value : String) : Option Char :=
  if CalledNone value then none else value.toList.head?

/-- Only the letters of the English alphabet have a lower case. -/
theorem toLower_eq_iff {c l : Char} (ha : 'a' ≤ l) (hz : l ≤ 'z') :
    c.toLower = l ↔ c = l ∨ c = l.toUpper := by
  have hlow : 97 ≤ l.val.toNat := ha
  have hhigh : l.val.toNat ≤ 122 := hz
  have hupper : l.toUpper.val.toNat = l.val.toNat - 32 := by
    have hshift : ('A'.val - 'a'.val).toNat = 4294967264 := by decide
    have hshifted : l.toUpper = ⟨l.val + ('A'.val - 'a'.val), _⟩ := dif_pos ⟨ha, hz⟩
    rw [hshifted, UInt32.toNat_add, hshift]
    omega
  have hlower : c.toLower.val.toNat =
      if 65 ≤ c.val.toNat ∧ c.val.toNat ≤ 90 then c.val.toNat + 32 else c.val.toNat := by
    have hshift : ('a'.val - 'A'.val).toNat = 32 := by decide
    split
    · next hc =>
      have hshifted : c.toLower = ⟨c.val + ('a'.val - 'A'.val), _⟩ := dif_pos hc
      rw [hshifted, UInt32.toNat_add, hshift]
      omega
    · next hc =>
      have hsame : c.toLower = c := dif_neg hc
      rw [hsame]
  simp only [Char.ext_iff, ← UInt32.toNat_inj, hupper, hlower]
  split <;> omega

theorem calledNone_iff (value : String) :
    CalledNone value ↔ value.toList.map Char.toLower = ['n', 'o', 'n', 'e'] := by
  have hletters : ∀ l ∈ ['n', 'o', 'n', 'e'], 'a' ≤ l ∧ l ≤ 'z' := by simp
  unfold CalledNone
  -- letter by letter, for any word in lower case
  generalize ['n', 'o', 'n', 'e'] = ls at hletters
  generalize value.toList = cs
  induction ls generalizing cs with
  | nil => cases cs <;> simp
  | cons l ls ih =>
    obtain ⟨⟨ha, hz⟩, hrest⟩ := List.forall_mem_cons.1 hletters
    cases cs with
    | nil => simp
    | cons c cs => simp [toLower_eq_iff ha hz, ih hrest]

theorem isSeparator_iff_length (value : String) :
    IsSeparator value ↔ value.toList.length ≤ 1 ∨ CalledNone value := by
  have hempty : value = "" ↔ value.toList.length = 0 := by
    rw [← String.toList_inj, String.toList_empty, List.length_eq_zero_iff]
  have hsingle : (∃ c, value = String.singleton c) ↔ value.toList.length = 1 := by
    rw [List.length_eq_one_iff]
    refine exists_congr fun c => ?_
    rw [← String.toList_inj, String.toList_singleton]
  rw [IsSeparator, hempty, hsingle]
  by_cases hnone : CalledNone value
  · simp [hnone]
  · simp only [hnone, false_or, or_false]
    omega

instance (value : String) : Decidable (IsSeparator value) :=
  decidable_of_iff' _ (isSeparator_iff_length value)

theorem readSeparator_eq (value : String) :
    readSeparator value =
      if IsSeparator value then .ok (separatorOf value) else .error (.badSeparator value) := by
  have hempty : value.isEmpty = true ↔ value.toList = [] := by
    rw [String.isEmpty_iff, ← String.toList_inj, String.toList_empty]
  simp only [readSeparator, isSeparator_iff_length, separatorOf, Bool.or_eq_true, hempty,
    decide_eq_true_eq, ← calledNone_iff]
  by_cases hnone : CalledNone value
  · simp [hnone]
  · -- what is left is decided by the number of characters
    match value.toList with
    | [] => simp
    | [c] => simp [hnone]
    | c :: d :: r => simp [hnone]

/-! ## Faults -/

/-- The faults of the values that hold, in the order in which they are looked for. -/
def faults (read : PatternReader) (v : Held) : List SettingsError :=
  (if v.interval = 0 then [.zeroInterval] else []) ++
  ((v.includes ++ v.excludes).filter fun p => (read p).isNone).map .badPattern ++
  (if IsSeparator v.separator then [] else [.badSeparator v.separator])

theorem faults_eq_nil_iff (read : PatternReader) (v : Held) :
    faults read v = [] ↔ v.interval ≠ 0 ∧ (∀ p ∈ v.includes, (read p).isSome = true) ∧
      (∀ p ∈ v.excludes, (read p).isSome = true) ∧ IsSeparator v.separator := by
  simp only [faults, List.append_eq_nil_iff, List.map_eq_nil_iff, List.filter_eq_nil_iff,
    List.mem_append, or_imp, forall_and, Bool.not_eq_true, Option.isNone_eq_false_iff,
    ite_eq_right_iff, ite_eq_left_iff, List.cons_ne_nil, imp_false, Classical.not_not, ne_eq,
    and_assoc]

/-! ## The parts of a merge -/

section Parts

variable (c : CommandLine) (f : FileSettings) (compile : String → Except String (String → Bool))

theorem failure?_resolveInterval :
    failure? (resolveInterval c f) =
      if effectiveInterval c f = 0 then some .zeroInterval else none := by
  unfold resolveInterval
  split <;> rfl

/-- The virtual and the loopback matcher have no pattern, so the error is that of the first pattern
that has one, among those to include and then those to exclude. -/
theorem failure?_resolveFilter :
    failure? (resolveFilter c f compile) =
      (((effectivePatterns c.includes f.includes ++ effectivePatterns c.excludes f.excludes).filterMap
        fun p => failure? (compile p)).map .badPattern).head? := by
  have hpatterns (ps : List String) :
      (ps.map Matcher.name).filterMap (fun m => failure? (m.mapNames compile)) =
        ps.filterMap fun p => failure? (compile p) := by
    rw [List.filterMap_map]
    refine List.filterMap_congr ?_
    intro p _
    exact failure?_map (compile p) _
  -- the two switches add no matcher or one that cannot fail
  have hvirtual (b : Bool) : (if b then [Matcher.virtual (ν := String)] else []).filterMap
      (fun m => failure? (m.mapNames compile)) = [] := by
    cases b <;> rfl
  have hloopback (b : Bool) : (if b then [Matcher.kinds (ν := String) [.loopback]] else []).filterMap
      (fun m => failure? (m.mapNames compile)) = [] := by
    cases b <;> rfl
  rw [resolveFilter, failure?_mapError, Filter.failure?_mapNames, List.head?_map, writtenFilter]
  simp only [List.filterMap_append, hpatterns, hvirtual, hloopback, List.nil_append]

/-- A separator that was not chosen is as good as a colon. -/
theorem resolveFormat_eq :
    resolveFormat c f =
      (readSeparator ((effectiveSeparator c f).getD ":")).map fun s => ⟨s, effectiveUpperCase c f⟩ := by
  have hcolon : readSeparator ":" = .ok (some ':') := by
    rw [readSeparator_eq]
    rfl
  rw [resolveFormat]
  cases effectiveSeparator c f with
  | none =>
    rw [Option.getD_none, hcolon]
    rfl
  | some value => rfl

/-- The parts are looked at one after another. -/
theorem failure?_mergeWith :
    failure? (mergeWith c f compile) =
      ((failure? (resolveInterval c f)).or (failure? (resolveFilter c f compile))).or
        (failure? (resolveFormat c f)) := by
  unfold mergeWith
  cases resolveInterval c f with
  | error e => rfl
  | ok interval =>
    cases resolveFilter c f compile with
    | error e => rfl
    | ok filter => cases resolveFormat c f <;> rfl

/-- A merge succeeds if all of its parts do. -/
theorem mergeWith_eq_ok_iff {s : Settings} :
    mergeWith c f compile = .ok s ↔ resolveInterval c f = .ok s.pollInterval ∧
      resolveFilter c f compile = .ok s.filter ∧ resolveFormat c f = .ok s.hardwareFormat ∧
      s.verbose = c.verbose := by
  unfold mergeWith
  cases resolveInterval c f with
  | error e => simp
  | ok interval =>
    cases resolveFilter c f compile with
    | error e => simp
    | ok filter =>
      cases resolveFormat c f with
      | error e => simp
      | ok format =>
        obtain ⟨interval', filter', format', verbose'⟩ := s
        simp [eq_comm]

end Parts

/-! ## Merging -/

section Merging

variable (read : PatternReader) (c : CommandLine) (file : Option FileSettings)

/-- The failure of a merge is the first fault of the values that hold. -/
theorem failure?_mergeReading :
    failure? (mergeReading read c file) = (faults read (held c file)).head? := by
  -- each part finds the first of its own faults
  have hinterval : failure? (resolveInterval c (file.getD .empty)) =
      (if (held c file).interval = 0 then [SettingsError.zeroInterval] else []).head? := by
    rw [failure?_resolveInterval, effectiveInterval_eq]
    split <;> rfl
  have hfilter : failure? (resolveFilter c (file.getD .empty) read.compile) =
      ((((held c file).includes ++ (held c file).excludes).filter fun p =>
        (read p).isNone).map SettingsError.badPattern).head? := by
    have hbad (ps : List String) : (ps.filterMap fun p => failure? (read.compile p)) =
        ps.filter fun p => (read p).isNone := by
      rw [← List.filterMap_eq_filter]
      refine List.filterMap_congr ?_
      intro p _
      rw [read.failure?_compile]
      rfl
    rw [failure?_resolveFilter, effectivePatterns_eq file c.includes (·.includes) rfl,
      effectivePatterns_eq file c.excludes (·.excludes) rfl, hbad]
    rfl
  have hformat : failure? (resolveFormat c (file.getD .empty)) =
      (if IsSeparator (held c file).separator then []
        else [SettingsError.badSeparator (held c file).separator]).head? := by
    rw [resolveFormat_eq, failure?_map, effectiveSeparator_eq, readSeparator_eq]
    split <;> rfl
  rw [mergeReading, failure?_mergeWith, hinterval, hfilter, hformat, faults, List.head?_append,
    List.head?_append]

/-- The checked values of a merge are the values that hold. -/
theorem values_of_mergeReading {s : Settings} (h : mergeReading read c file = .ok s) :
    s.pollInterval = (held c file).interval ∧
      s.hardwareFormat.separator = separatorOf (held c file).separator := by
  obtain ⟨hinterval, -, hformat, -⟩ := (mergeWith_eq_ok_iff _ _ _).1 h
  constructor
  · unfold resolveInterval at hinterval
    rw [effectiveInterval_eq] at hinterval
    split at hinterval
    · cases hinterval
    · exact (Except.ok.inj hinterval).symm
  · rw [resolveFormat_eq, effectiveSeparator_eq, readSeparator_eq] at hformat
    split at hformat
    · rw [← Except.ok.inj hformat]
    · cases hformat

/-! ## Values that are overridden -/

/-- Two files say the same about everything that the command line leaves to them. A list is left to the
file if it is empty, and a switch if it is off; the letter case is if lower case is not asked for. -/
structure AgreeBehind (c : CommandLine) (f f' : FileSettings) : Prop where
  pollInterval : c.pollInterval = none → f.pollInterval = f'.pollInterval
  includes : c.includes = [] → f.includes = f'.includes
  excludes : c.excludes = [] → f.excludes = f'.excludes
  excludeVirtual : c.excludeVirtual = false → f.excludeVirtual = f'.excludeVirtual
  excludeLoopback : c.excludeLoopback = false → f.excludeLoopback = f'.excludeLoopback
  separator : c.separator = none → f.separator = f'.separator
  upperCase : c.lowerCase = false → f.upperCase = f'.upperCase

/-- A merge sees a file through the values that hold with it, and in no other way. -/
theorem mergeWith_congr_of_effective {c : CommandLine} {f f' : FileSettings}
    (hinterval : effectiveInterval c f = effectiveInterval c f')
    (hfilter : writtenFilter c f = writtenFilter c f') (hformat : resolveFormat c f = resolveFormat c f')
    (compile : String → Except String (String → Bool)) :
    mergeWith c f compile = mergeWith c f' compile := by
  unfold mergeWith resolveInterval resolveFilter
  rw [hinterval, hfilter, hformat]

/-- What the command line overrides is not looked at. -/
theorem mergeWith_congr {c : CommandLine} {f f' : FileSettings} (h : AgreeBehind c f f')
    (compile : String → Except String (String → Bool)) :
    mergeWith c f compile = mergeWith c f' compile := by
  have hinterval : effectiveInterval c f = effectiveInterval c f' := by
    unfold effectiveInterval
    cases hc : c.pollInterval with
    | none => rw [h.pollInterval hc]
    | some a => rfl
  have hpatterns {given ofFile ofFile' : List String} (heq : given = [] → ofFile = ofFile') :
      effectivePatterns given ofFile = effectivePatterns given ofFile' := by
    cases given with
    | nil => exact heq rfl
    | cons p r => rfl
  have hswitch {given ofFile ofFile' : Bool} (heq : given = false → ofFile = ofFile') :
      (given || ofFile) = (given || ofFile') := by
    cases given with
    | false => exact heq rfl
    | true => rfl
  have hseparator : effectiveSeparator c f = effectiveSeparator c f' := by
    unfold effectiveSeparator
    cases hc : c.separator with
    | none => rw [h.separator hc]
    | some a => rfl
  have hcase : effectiveUpperCase c f = effectiveUpperCase c f' := by
    unfold effectiveUpperCase
    cases hc : c.lowerCase with
    | false => rw [h.upperCase hc]
    | true => rfl
  have hfilter : writtenFilter c f = writtenFilter c f' := by
    unfold writtenFilter
    rw [hpatterns h.includes, hpatterns h.excludes, hswitch h.excludeVirtual,
      hswitch h.excludeLoopback]
  have hformat : resolveFormat c f = resolveFormat c f' := by
    unfold resolveFormat
    rw [hseparator, hcase]
  exact mergeWith_congr_of_effective hinterval hfilter hformat compile

end Merging

/-! ## Main result -/

/-- A merge fails with the first fault of the values that hold, and succeeds if the interval is not
zero, all patterns can be read and the separator is one. The interval and the separator are then the
ones that hold. Two files that agree on what the command line leaves to them give the same result,
whatever else they say. All of this holds for any reader of patterns, the one of names among them
(`merge_eq_mergeReading`). -/
theorem merge_reports_first_fault :
    (∀ read c file e,
      mergeReading read c file = .error e ↔ (faults read (held c file)).head? = some e) ∧
    (∀ read c file, (∃ s, mergeReading read c file = .ok s) ↔
      (held c file).interval ≠ 0 ∧ (∀ p ∈ (held c file).includes, (read p).isSome = true) ∧
        (∀ p ∈ (held c file).excludes, (read p).isSome = true) ∧
        IsSeparator (held c file).separator) ∧
    (∀ read c file s, mergeReading read c file = .ok s →
      s.pollInterval = (held c file).interval ∧
        s.hardwareFormat.separator = separatorOf (held c file).separator) ∧
    (∀ read c (file file' : Option FileSettings),
      AgreeBehind c (file.getD .empty) (file'.getD .empty) →
      mergeReading read c file = mergeReading read c file') := by
  refine ⟨?_, ?_, ?_, ?_⟩
  · intro read c file e
    rw [← failure?_mergeReading, failure?_eq_some_iff]
  · intro read c file
    rw [← failure?_eq_none_iff, failure?_mergeReading, List.head?_eq_none_iff, faults_eq_nil_iff]
  · intro read c file s h
    exact values_of_mergeReading read c file h
  · intro read c file file' h
    exact mergeWith_congr h read.compile

/-- A command line hides faults of the file in the interval, the includes and the separator; the first
fault that is left is a pattern to exclude. -/
theorem merge_reports_first_fault_behind :
    let read : PatternReader := fun p => if p = "(" then none else some (· == p)
    let c : CommandLine :=
      ⟨none, none, false, some 500, ["eth0"], [], false, false, some "NoNe", false⟩
    let sound : FileSettings := ⟨none, [], ["docker0"], false, false, none, none⟩
    let faulty : FileSettings := ⟨some 0, ["("], ["docker0"], false, false, some "::", none⟩
    AgreeBehind c faulty sound ∧
      mergeReading read c (some faulty) = mergeReading read c (some sound) ∧
      (∃ s, mergeReading read c (some faulty) = .ok s ∧ s.pollInterval = 500 ∧
        s.hardwareFormat.separator = none) ∧
      mergeReading read c (some { faulty with excludes := ["docker0", "("] }) =
        .error (.badPattern "(") := by
  intro read c sound faulty
  have hagree : AgreeBehind c faulty sound := by
    constructor <;> decide
  obtain ⟨hfault, hsuccess, hvalues, hbehind⟩ := merge_reports_first_fault
  obtain ⟨s, hs⟩ := (hsuccess read c (some faulty)).2 (by decide +kernel)
  obtain ⟨hinterval, hseparator⟩ := hvalues read c (some faulty) s hs
  have hnone : separatorOf (held c (some faulty)).separator = none := by decide +kernel
  exact ⟨hagree, hbehind read c (some faulty) (some sound) hagree,
    ⟨s, hs, hinterval, hseparator.trans hnone⟩, (hfault read c _ _).2 (by decide +kernel)⟩

end LinkWatch.Settings
