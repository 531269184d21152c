import LinkWatch.Toml.Reader

/-!
# The settings file

What a settings file can hold, how it is read, and the template of a new one. Every setting may be
missing, and a file with anything else in it is refused. A section may also be written as an array
with the values of its settings in order.

How the text of a document is read is left open (`FileReader`); the program reads TOML.
-/

namespace LinkWatch.Settings

open Toml (Value Entries)

/-- The settings of a file. -/
structure FileSettings where
  /-- The time between two polls, in milliseconds. -/
  pollInterval : Option UInt64
  includes : List String
  excludes : List String
  excludeVirtual : Bool
  excludeLoopback : Bool
  separator : Option String
  upperCase : Option Bool
deriving Repr, DecidableEq

/-- The settings of an empty file. -/
def FileSettings.empty : FileSettings := ⟨none, [], [], false, false, none, none⟩

/-! ## Sections -/

/-- The settings of a section by name. Only known names may occur. In an array the values come in
the order of the names; those at the end may be missing if all settings have a default, and
further ones are passed over. -/
def readSection (names : List String) (haveDefaults : Bool) (v : Value) :
    Option (String → Option Value) :=
  match v with
  | .table _ entries =>
    if entries.all fun e => names.contains e.1 then some fun name => entries.lookup name else none
  | .array items =>
    if haveDefaults || names.length ≤ items.length then
      some fun name => (names.zip items).lookup name
    else none
  | .tables items =>
    if haveDefaults || names.length ≤ items.length then
      some fun name => (names.zip items).lookup name
    else none
  | _ => none

/-- A setting that may be missing. -/
def readOptional {α : Type} (read : Value → Option α) : Option Value → Option (Option α)
  | none => some none
  | some v => (read v).map some

/-- A setting that has a default. -/
def readDefaulted {α : Type} (otherwise : α) (read : Value → Option α) : Option Value → Option α
  | none => some otherwise
  | some v => read v

/-! ## Values -/

/-- A text. -/
def readText : Value → Option String
  | .string s => some s
  | _ => none

/-- A truth value. -/
def readSwitch : Value → Option Bool
  | .boolean b => some b
  | _ => none

/-- A number of milliseconds. -/
def readMilliseconds : Value → Option UInt64
  | .integer (some n) => if 0 ≤ n ∧ n ≤ 0xffffffffffffffff then some (UInt64.ofNat n.toNat) else none
  | _ => none

/-- A list of texts. -/
def readTexts : Value → Option (List String)
  | .array items => items.mapM readText
  | .tables items => items.mapM readText
  | _ => none

/-! ## Files -/

/-- The value of a section, which is empty when it is missing. -/
def sectionOf (entries : Entries) (name : String) : Value :=
  (entries.lookup name).getD (.table .implied [])

/-- The settings of the entries of a file. -/
def ofEntries (entries : Entries) : Option FileSettings := do
  if !entries.all fun e => ["monitor", "filter", "display"].contains e.1 then none
  let monitor ← readSection ["poll_interval_ms"] false (sectionOf entries "monitor")
  let filter ← readSection ["include", "exclude", "exclude_virtual", "exclude_loopback"] true
    (sectionOf entries "filter")
  let display ← readSection ["mac_separator", "mac_uppercase"] false (sectionOf entries "display")
  some {
    pollInterval := ← readOptional readMilliseconds (monitor "poll_interval_ms")
    includes := ← readDefaulted [] readTexts (filter "include")
    excludes := ← readDefaulted [] readTexts (filter "exclude")
    excludeVirtual := ← readDefaulted false readSwitch (filter "exclude_virtual")
    excludeLoopback := ← readDefaulted false readSwitch (filter "exclude_loopback")
    separator := ← readOptional readText (display "mac_separator")
    upperCase := ← readOptional readSwitch (display "mac_uppercase") }

/-- How settings files are read: a reader of documents, what can be asked of the values of a
document, and what makes the root table of a document into settings. -/
structure FileReader (ν : Type) where
  /-- The root table of a document. -/
  document : String → Option ν
  /-- The entries of a table by key. No other value has any. -/
  table? : ν → Option (String → Option ν)
  /-- The number that an integer is. -/
  integer? : ν → Option Int
  settings : ν → Option FileSettings

/-- Reads a settings file. -/
def FileReader.parse {ν : Type} (r : FileReader ν) (text : String) : Option FileSettings :=
  (r.document text).bind r.settings

/-- The reader of settings files that the program uses. -/
def tomlReader : FileReader Value where
  document text := (Toml.parse text).map (.table .header)
  table?
    | .table _ entries => some fun key => entries.lookup key
    | _ => none
  integer?
    | .integer n => n
    | _ => none
  settings
    | .table _ entries => ofEntries entries
    | _ => none

/-- Reads a settings file with the reader that the program uses. -/
def FileSettings.parse (text : String) : Option FileSettings := tomlReader.parse text

/-! ## The template -/

/-- The lines of a new settings file, with the interval written out and everything else as
comments. -/
def templateLines : List String := [
  "# netif-watch Configuration File",
  "",
  "[monitor]",
  "# Polling interval in milliseconds (default: 1000)",
  "poll_interval_ms = 1000",
  "",
  "[filter]",
  "# Regex patterns matched against the interface id or alias (empty = all)",
  "# Note: CLI patterns REPLACE these entirely (not merged)",
  "# include = [\"^eth\", \"^wlan\", \"^Ethernet\"]",
  "",
  "# Regex patterns for interfaces to exclude",
  "# Note: CLI patterns REPLACE these entirely (not merged)",
  "# exclude = [\"^docker\", \"^veth\", \"^vEthernet\"]",
  "",
  "# Exclude virtual interfaces (bridges, tunnels, container veths, loopback)",
  "# exclude_virtual = false",
  "",
  "# Exclude loopback interfaces",
  "# exclude_loopback = false",
  "",
  "[display]",
  "# Separator between MAC address bytes; \"none\" prints the compact form",
  "# mac_separator = \":\"",
  "",
  "# Print MAC addresses in uppercase (default: true)",
  "# mac_uppercase = true"]

/-- A new settings file. -/
def template : String := String.join (templateLines.map (· ++ "\n"))

end LinkWatch.Settings
