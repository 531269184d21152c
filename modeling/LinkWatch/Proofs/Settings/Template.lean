import LinkWatch.Proofs.Settings.Merge
import LinkWatch.Proofs.Toml.Conformance

/-!
# The settings file that is written for the user

A settings file is neutral if it makes no difference whether it is named on the command line. A
file that says the defaults, or nothing, is neutral, whatever else is on the command line, and no
other file is (`neutral_iff_saysDefaults`). The template of a new file is read line by line
(`entries_template`); it says the default interval and nothing else, so it is neutral
(`template_is_neutral`).
-/

namespace LinkWatch.Settings

open Outcome

/-! ## Neutral files -/

/-- Every value of a settings file is the default, or it is missing. -/
structure SaysDefaults (f : FileSettings) : Prop where
  pollInterval : ∀ n ∈ f.pollInterval, n = defaultInterval
  includes : f.includes = []
  excludes : f.excludes = []
  excludeVirtual : f.excludeVirtual = false
  excludeLoopback : f.excludeLoopback = false
  separator : ∀ s ∈ f.separator, s = ":"
  upperCase : ∀ b ∈ f.upperCase, b = HardwareFormat.default.upperCase

variable {α : Type} {o : Option α} {a : α} {f : FileSettings}
variable (read : PatternReader) (c : CommandLine)

theorem getD_eq_self_iff : o.getD a = a ↔ ∀ b ∈ o, b = a := by
  cases o <;> simp

/-- The default may be said or left out. -/
theorem getD_or_of_forall_eq (given : Option α) (h : ∀ b ∈ o, b = a) :
    (given.or o).getD a = given.getD a := by
  cases given with
  | none => exact getD_eq_self_iff.2 h
  | some b => rfl

theorem mergeReading_of_saysDefaults (h : SaysDefaults f) :
    mergeReading read c (some f) = mergeReading read c none := by
  have hinterval : effectiveInterval c f = effectiveInterval c .empty := by
    rw [effectiveInterval, effectiveInterval, getD_or_of_forall_eq _ h.pollInterval,
      getD_or_of_forall_eq _ (by simp [FileSettings.empty])]
  have hfilter : writtenFilter c f = writtenFilter c .empty := by
    rw [writtenFilter, writtenFilter, h.includes, h.excludes, h.excludeVirtual, h.excludeLoopback]
    rfl
  have hseparator : (effectiveSeparator c f).getD ":" = (effectiveSeparator c .empty).getD ":" := by
    rw [effectiveSeparator, effectiveSeparator, getD_or_of_forall_eq _ h.separator,
      getD_or_of_forall_eq _ (by simp [FileSettings.empty])]
  have hcase : effectiveUpperCase c f = effectiveUpperCase c .empty := by
    rw [effectiveUpperCase, effectiveUpperCase, getD_eq_self_iff.2 h.upperCase]
    rfl
  have hformat : resolveFormat c f = resolveFormat c .empty := by
    rw [resolveFormat_eq, resolveFormat_eq, hseparator, hcase]
  exact mergeWith_congr_of_effective hinterval hfilter hformat read.compile

/-- A command line without options. -/
def noOptions : CommandLine := ⟨none, none, false, none, [], [], false, false, none, false⟩

/-- Without options and without a file the defaults hold. -/
theorem mergeReading_noOptions :
    mergeReading read noOptions none = .ok ⟨defaultInterval, .empty, .default, false⟩ := rfl

/-- Only a colon is read as one. -/
theorem eq_colon_of_readSeparator {value : String} (h : readSeparator value = .ok (some ':')) :
    value = ":" := by
  rw [readSeparator_eq] at h
  split at h
  · next hvalue =>
    have hcolon : separatorOf value = some ':' := Except.ok.inj h
    unfold separatorOf at hcolon
    split at hcolon
    · cases hcolon
    · next hnone =>
      rcases hvalue with rfl | hcalled | ⟨c, rfl⟩
      · cases hcolon
      · exact absurd hcalled hnone
      · rw [String.toList_singleton] at hcolon
        cases hcolon
        rfl
  · cases h

/-- A file that makes no difference without options says the defaults. -/
theorem saysDefaults_of_mergeReading
    (h : mergeReading read noOptions (some f) = mergeReading read noOptions none) :
    SaysDefaults f := by
  rw [mergeReading_noOptions] at h
  obtain ⟨hinterval, hfilter, hformat, -⟩ := (mergeWith_eq_ok_iff _ _ _).1 h
  have heffective : effectiveInterval noOptions f = defaultInterval := by
    unfold resolveInterval at hinterval
    split at hinterval
    · cases hinterval
    · exact Except.ok.inj hinterval
  -- a filter without matchers was written without patterns and with both switches off
  obtain ⟨hincludes, hexcludes⟩ := Filter.forall₂_of_mapNames (mapError_eq_ok_iff.1 hfilter)
  have hin : f.includes = [] := by
    have hnothing := List.forall₂_nil_right_iff.1 hincludes
    simpa [writtenFilter, effectivePatterns, noOptions] using hnothing
  have hout : f.excludeVirtual = false ∧ f.excludeLoopback = false ∧ f.excludes = [] := by
    have hnothing := List.forall₂_nil_right_iff.1 hexcludes
    simpa [writtenFilter, effectivePatterns, noOptions] using hnothing
  rw [resolveFormat_eq, map_eq_ok_iff] at hformat
  obtain ⟨separator, hread, hsame⟩ := hformat
  obtain ⟨rfl, hcase⟩ := HardwareFormat.mk.inj hsame
  exact {
    pollInterval := getD_eq_self_iff.1 heffective
    includes := hin
    excludes := hout.2.2
    excludeVirtual := hout.1
    excludeLoopback := hout.2.1
    separator := getD_eq_self_iff.1 (eq_colon_of_readSeparator hread)
    upperCase := getD_eq_self_iff.1 hcase }

/-- The neutral files are those that say the defaults. -/
theorem neutral_iff_saysDefaults :
    (∀ c, mergeReading read c (some f) = mergeReading read c none) ↔ SaysDefaults f :=
  ⟨fun h => saysDefaults_of_mergeReading read (h noOptions),
    fun h c => mergeReading_of_saysDefaults read c h⟩

/-! ## The template -/

/-- What a line of the template is. -/
def templateLine : String → Line
  | "[monitor]" => .header "monitor"
  | "poll_interval_ms = 1000" => .setting "poll_interval_ms" 1000
  | "[filter]" => .header "filter"
  | "[display]" => .header "display"
  | text => .remark text

theorem template_eq_fileText : template = fileText (templateLines.map templateLine) := by
  have htext : templateLines.map (fun l => (templateLine l).text) = templateLines := by
    decide +kernel
  rw [fileText, List.map_map, template]
  conv_lhs => rw [← htext, List.map_map]
  rfl

theorem filter_templateLines :
    (templateLines.map templateLine).filter Line.isEntry =
      [.header "monitor", .setting "poll_interval_ms" 1000, .header "filter",
        .header "display"] := by
  decide +kernel

/-- The tables of the template, the latest first. -/
def templateTables : Tables :=
  [("display", []), ("filter", []), ("monitor", [("poll_interval_ms", 1000)])]

theorem templateTables_says : templateTables.Says (some defaultInterval) where
  sections := by
    intro name hname
    simp only [templateTables, Keyed.lookup_cons_if] at hname
    split at hname
    · next heq => simp [heq]
    split at hname
    · next heq => simp [heq]
    split at hname
    · next heq => simp [heq]
    · cases hname
  interval := by decide
  nothingElse := by
    intro name key hkey
    simp only [Tables.setting, templateTables, Keyed.lookup_cons_if] at hkey
    split at hkey
    · cases hkey
    split at hkey
    · cases hkey
    split at hkey
    · next heq =>
      -- the only setting is the one of the only table that has any
      simp only [Option.bind_some, Keyed.lookup_cons_if] at hkey
      split at hkey
      · next heq' => exact ⟨heq, heq'⟩
      · cases hkey
    · cases hkey

variable {ν : Type} {r : FileReader ν}

/-- A reader that keeps the rules of plain files finds the tables of the template. -/
theorem reads_entries_template (h : r.Conforms) :
    r.Reads (fileText [.header "monitor", .setting "poll_interval_ms" 1000, .header "filter",
      .header "display"]) templateTables := by
  have hmonitor : r.Reads (fileText [.header "monitor"]) [("monitor", [])] :=
    h.header [] [] "monitor" (by decide +kernel) h.empty rfl
  have hinterval := h.setting [] "monitor" [] "poll_interval_ms" 1000 [] [] (by decide +kernel) rfl
    hmonitor rfl
  have hfilter := h.header [.header "monitor", .setting "poll_interval_ms" 1000] _ "filter"
    (by decide +kernel) hinterval rfl
  exact h.header [.header "monitor", .setting "poll_interval_ms" 1000, .header "filter"] _ "display"
    (by decide +kernel) hfilter rfl

/-- The template says the default interval and nothing else. -/
theorem parse_template (h : r.Conforms) :
    r.parse template = some { FileSettings.empty with pollInterval := some defaultInterval } := by
  have hplain : (templateLines.map templateLine).all Line.isPlain = true := by decide +kernel
  obtain ⟨root, hroot, htables⟩ := reads_entries_template h
  rw [template_eq_fileText]
  refine h.parse_of_reads ⟨root, ?_, htables⟩ templateTables_says
  rw [h.document_filter hplain, filter_templateLines, hroot]

/-! ## Main result -/

/-- The template of a new settings file is a settings file. It says the default interval and nothing
else, and it is neutral: with any command line, a merge with it fails with the same error as without
a file, or gives the same settings. This holds for any reader of files that keeps the rules of plain
files, and for any reader of patterns. -/
theorem template_is_neutral {ν : Type} (r : FileReader ν) (h : r.Conforms) :
    ∃ f, r.parse template = some f ∧ f.pollInterval = some defaultInterval ∧ SaysDefaults f ∧
      ∀ read c, mergeReading read c (some f) = mergeReading read c none := by
  have hdefaults :
      SaysDefaults { FileSettings.empty with pollInterval := some defaultInterval } := by
    constructor <;> simp [FileSettings.empty]
  exact ⟨_, parse_template h, rfl, hdefaults,
    fun read c => mergeReading_of_saysDefaults read c hdefaults⟩

/-- The TOML reader keeps the rules of plain files, and the template is neutral for it. -/
theorem template_is_neutral_toml :
    tomlReader.Conforms ∧
      ∃ f, tomlReader.parse template = some f ∧ f.pollInterval = some defaultInterval ∧
        SaysDefaults f ∧ ∀ read c, mergeReading read c (some f) = mergeReading read c none :=
  ⟨conforms_tomlReader, template_is_neutral tomlReader conforms_tomlReader⟩

end LinkWatch.Settings
