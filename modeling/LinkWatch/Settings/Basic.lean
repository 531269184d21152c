import LinkWatch.CommandLine.Basic
import LinkWatch.Filter
import LinkWatch.Pattern.Name
import LinkWatch.Settings.File
import LinkWatch.WorkingDirectory

/-!
# Settings

The settings that the program runs with. Each is taken from the command line, or else from the
settings file, or else has a default. Lists of patterns replace each other as a whole; a switch is
on when either source turns it on. Faults are reported in a fixed order: the interval, patterns to
include, patterns to exclude, the separator.
-/

namespace LinkWatch

/-- How hardware addresses are written. -/
structure HardwareFormat where
  separator : Option Char
  upperCase : Bool
deriving Repr, DecidableEq

/-- The usual form: upper case with colons. -/
def HardwareFormat.default : HardwareFormat := ⟨some ':', true⟩

/-- Writes a hardware address. -/
def HardwareFormat.text (f : HardwareFormat) (m : HardwareAddress) : String :=
  m.format f.upperCase f.separator

/-- Settings that were checked. -/
structure Settings where
  /-- The time between two polls, in milliseconds. -/
  pollInterval : UInt64
  filter : Filter (String → Bool)
  hardwareFormat : HardwareFormat
  verbose : Bool

/-- Why there are no settings. -/
inductive SettingsError where
  | unreadable (path : String)
  /-- The settings file is not one. -/
  | malformed
  | unwritable (path : String)
  | badPattern (pattern : String)
  | zeroInterval
  | badSeparator (value : String)
deriving Repr, DecidableEq

namespace SettingsError

/-- The text of an error. What the system or the reader of a library format has to say about it is
left to them. -/
def message : SettingsError → String
  | unreadable path => "Failed to read config file '" ++ path ++ "'"
  | malformed => "Failed to parse TOML config"
  | unwritable path => "Failed to write config file '" ++ path ++ "'"
  | badPattern pattern => "Invalid regex pattern '" ++ pattern ++ "'"
  | zeroInterval => "Invalid duration for poll_interval_ms: must be greater than 0"
  | badSeparator value =>
    "Invalid MAC separator '" ++ value ++ "': expected a single character or 'none'"

/-- What may help the user. -/
def hint : SettingsError → String
  | unreadable _ => "\nRun 'netif-watch init' to generate a configuration template.\n"
  | malformed => "\nRun 'netif-watch init' to generate a configuration template.\n"
  | badSeparator _ =>
    "\nUse a single character such as ':' or '-', or 'none' for no separator.\n"
  | _ => ""

end SettingsError

namespace Settings

/-- The time between two polls, in milliseconds, unless another is chosen. -/
def defaultInterval : UInt64 := 1000

/-! ## Patterns

How patterns are read is left open: a merge can be made with any reader of them. The program uses
the reader of name patterns. -/

/-- How patterns are read: a pattern is made into a test of names, any other text into nothing. -/
abbrev PatternReader := String → Option (String → Bool)

/-- The test of a pattern, or the text itself where it is no pattern. -/
def PatternReader.compile (read : PatternReader) (text : String) : Except String (String → Bool) :=
  match read text with
  | some test => .ok test
  | none => .error text

/-- The reader of name patterns. -/
def nameReader : PatternReader := fun text => (Pattern.compile text).toOption.map (·.isMatch)

/-! ## Separators -/

/-- Reads a separator: one character, or nothing when it is empty or called none. -/
def readSeparator (value : String) : Except SettingsError (Option Char) :=
  if value.isEmpty || value.toList.map Char.toLower = ['n', 'o', 'n', 'e'] then .ok none
  else
    match value.toList with
    | [c] => .ok (some c)
    | _ => .error (.badSeparator value)

/-! ## Effective values -/

variable (c : CommandLine) (f : FileSettings)

/-- The interval that holds. -/
def effectiveInterval : UInt64 := (c.pollInterval.or f.pollInterval).getD defaultInterval

/-- The patterns that hold: those of the command line, if it has any. -/
def effectivePatterns (given fromFile : List String) : List String :=
  if given.isEmpty then fromFile else given

/-- The separator that holds, if one was chosen. -/
def effectiveSeparator : Option String := c.separator.or f.separator

/-- The case that holds. -/
def effectiveUpperCase : Bool :=
  !c.lowerCase && f.upperCase.getD HardwareFormat.default.upperCase

/-- The filter that is asked for, with its patterns as text. -/
def writtenFilter : Filter String where
  includes := (effectivePatterns c.includes f.includes).map .name
  excludes :=
    (if c.excludeVirtual || f.excludeVirtual then [.virtual] else [])
      ++ (if c.excludeLoopback || f.excludeLoopback then [.kinds [.loopback]] else [])
      ++ (effectivePatterns c.excludes f.excludes).map .name

/-! ## Merging -/

/-- The interval, which may not be zero. -/
def resolveInterval : Except SettingsError UInt64 :=
  if effectiveInterval c f = 0 then .error .zeroInterval else .ok (effectiveInterval c f)

/-- The filter, given how patterns are read. -/
def resolveFilter (compile : String → Except String (String → Bool)) :
    Except SettingsError (Filter (String → Bool)) :=
  ((writtenFilter c f).mapNames compile).mapError .badPattern

/-- The form of hardware addresses. -/
def resolveFormat : Except SettingsError HardwareFormat :=
  match effectiveSeparator c f with
  | none => .ok ⟨HardwareFormat.default.separator, effectiveUpperCase c f⟩
  | some value => (readSeparator value).map fun s => ⟨s, effectiveUpperCase c f⟩

/-- Merges the command line and a settings file, given how patterns are read. -/
def mergeWith (compile : String → Except String (String → Bool)) : Except SettingsError Settings :=
  match resolveInterval c f with
  | .error e => .error e
  | .ok pollInterval =>
    match resolveFilter c f compile with
    | .error e => .error e
    | .ok filter =>
      match resolveFormat c f with
      | .error e => .error e
      | .ok hardwareFormat => .ok ⟨pollInterval, filter, hardwareFormat, c.verbose⟩

/-- Merges the command line and the settings file, if there is one, for any reader of patterns. -/
def mergeReading (read : PatternReader) (c : CommandLine) (file : Option FileSettings) :
    Except SettingsError Settings :=
  mergeWith c (file.getD .empty) read.compile

/-- Merges the command line and the settings file, if there is one. -/
def merge (file : Option FileSettings) : Except SettingsError Settings :=
  mergeWith c (file.getD .empty) Pattern.nameTest

/-- Reads the text of a settings file and merges it with the command line. -/
def mergeText (text : String) : Except SettingsError Settings :=
  match FileSettings.parse text with
  | some file => merge c (some file)
  | none => .error .malformed

/-! ## Files -/

/-- The settings of a command line, with the settings file that it names. -/
def load (d : WorkingDirectory) : Except SettingsError Settings :=
  match c.config with
  | none => merge c none
  | some path =>
    match d.readText path with
    | none => .error (.unreadable path)
    | some text => mergeText c text

/-- Writes a new settings file. -/
def writeTemplate (path : String) (d : WorkingDirectory) :
    Except SettingsError WorkingDirectory :=
  match d.writeText path template with
  | some d => .ok d
  | none => .error (.unwritable path)

/-! ## Text -/

/-- The settings on one line, for logs. -/
def summary (s : Settings) : String :=
  let separator := match s.hardwareFormat.separator with
    | some c => "'" ++ c.toString ++ "'"
    | none => "none"
  "Config \x7b poll_interval: " ++ toString s.pollInterval ++ "ms, filters: "
    ++ toString s.filter.includes.length ++ " include/" ++ toString s.filter.excludes.length
    ++ " exclude, mac_separator: " ++ separator ++ ", mac_uppercase: "
    ++ toString s.hardwareFormat.upperCase ++ " \x7d"

end Settings
end LinkWatch
