import LinkWatch.CommandLine.Reader
import LinkWatch.Monitor.Basic
import LinkWatch.Monitor.Poller
import LinkWatch.Observer
import LinkWatch.Report

/-!
# The program

The commands over any fetcher, and the whole program as a function of its command line, its files
and what is fetched.
-/

namespace LinkWatch.Program

variable {φ : Type} [Fetcher φ]

/-- What a command has printed, and why it failed, if it did. -/
structure Result where
  out : String
  failure : Option String
deriving Repr, DecidableEq

/-- The monitor that a command works with. -/
abbrev AppMonitor (φ : Type) := Monitor (Poller (FilteredFetcher φ))

/-- The monitor over what the settings let through. -/
def newMonitor (s : Settings) (fetcher : φ) : AppMonitor φ :=
  .new (.new ⟨fetcher, s.filter⟩ s.pollInterval.toNat)

/-- A whole request. -/
def ask (r : Request) (m : AppMonitor φ) : AppMonitor φ := (m.perform r).getD m

/-! ## Looking once -/

/-- Prints every interface. -/
def list (s : Settings) (json : Bool) (fetcher : φ) : Result :=
  let m := ask .query (newMonitor s fetcher)
  let out :=
    if json then Report.document m.interfaces ++ "\n"
    else String.join (m.interfaces.values.map (Report.interface s.hardwareFormat))
  ⟨out, none⟩

/-- Prints one interface. -/
def get (s : Settings) (id : String) (fetcher : φ) : Result :=
  let m := ask .query (newMonitor s fetcher)
  match m.interfaces.get? id with
  | some i => ⟨Report.interface s.hardwareFormat i, none⟩
  | none => ⟨"", some (Monitor.notFoundMessage id)⟩

/-! ## Watching -/

/-- The only observer of the program. -/
def watcher : ObserverId := 0

/-- A monitor whose only observer has been told everything that is known. -/
def beginWatch (s : Settings) (fetcher : φ) : AppMonitor φ :=
  ask (.subscribe watcher) (newMonitor s fetcher)

/-- The monitor after a number of polls. -/
def watched (s : Settings) (fetcher : φ) (polls : Nat) : AppMonitor φ :=
  Nat.repeat (ask .poll) polls (beginWatch s fetcher)

/-- The event channel after everything that an observer was told was sent through it. -/
def channelOf (m : AppMonitor φ) (o : ObserverId) : Channel :=
  (m.received o).foldl (fun c e => e.notify Channel.observer c) .new

/-- The events that a reader of the watcher's channel gets. -/
def eventsRead (m : AppMonitor φ) : List Event :=
  let c := channelOf m watcher
  (c.readAll c.queue.length).1

/-- Prints what is known, and then every change that a number of polls shows. -/
def watch (s : Settings) (fetcher : φ) (polls : Nat) : Result :=
  ⟨Report.unlines ((eventsRead (watched s fetcher polls)).map (Report.event s.hardwareFormat)), none⟩

/-! ## Commands -/

/-- Carries out the command of a command line, with a number of polls to watch for. -/
def execute (c : CommandLine) (s : Settings) (fetcher : φ) (polls : Nat) : Result :=
  match c.command with
  | some (.list json) => list s json fetcher
  | some (.get id) => get s id fetcher
  | _ => watch s fetcher polls

/-- Carries out a command over written outcomes. The first fetch is made at once, so watching
through all of them takes one poll less than there are. -/
def executeScript (c : CommandLine) (s : Settings) (outcomes : List FetchOutcome) : Result :=
  execute c s (Script.new outcomes) (outcomes.length - 1)

/-! ## The whole program -/

/-- The text of the version. -/
def versionText : String := "netif-watch 0.1.0\n"

/-- The text after a settings file was written. -/
def writtenText (path : String) : String := "Configuration template written to: " ++ path ++ "\n"

/-- Why the program ended early. -/
inductive Failure where
  | usage (e : UsageError)
  | settings (e : SettingsError)
  /-- The settings file could not be written. -/
  | template (e : SettingsError)
  | command (message : String)
deriving Repr, DecidableEq

/-- How a run of the program ended. -/
structure Ending where
  out : String
  failure : Option Failure
  files : WorkingDirectory

/-- The exit code of a failure. Help and version are no failures. -/
def Failure.code : Failure → UInt32
  | usage .help => 0
  | usage .version => 0
  | usage _ => 2
  | settings _ => 1
  | template _ => 1
  | command _ => 2

/-- The exit code. -/
def Ending.code (e : Ending) : UInt32 := (e.failure.map (·.code)).getD 0

/-- The error of the settings, if that is why the program ended. -/
def Ending.settingsError (e : Ending) : Option SettingsError :=
  match e.failure with
  | some (.settings error) => some error
  | _ => none

/-- Runs the program with the words of its command line. -/
def run (words : List String) (files : WorkingDirectory) (outcomes : List FetchOutcome) : Ending :=
  match CommandLine.parse words with
  | .error e => ⟨if e = .version then versionText else "", some (.usage e), files⟩
  | .ok c =>
    match c.command with
    | some (.init path) =>
      match Settings.writeTemplate path files with
      | .ok files => ⟨writtenText path, none, files⟩
      | .error e => ⟨"", some (.template e), files⟩
    | _ =>
      match Settings.load c files with
      | .error e => ⟨"", some (.settings e), files⟩
      | .ok s =>
        let r := executeScript c s outcomes
        ⟨r.out, r.failure.map .command, files⟩

end LinkWatch.Program
