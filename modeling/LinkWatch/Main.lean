import LinkWatch.Host.SystemFiles
import LinkWatch.Program

/-!
# The command line program

Reads the system's files, and prints what the commands print. Everything else is decided by the
library.
-/

namespace LinkWatch.Main

/-- The text of a file, if it can be read. -/
def textOf? (path : String) : IO (Option String) := do
  try
    let text ← IO.FS.readFile path
    return some text
  catch _ => return none

/-- The text of a file, or nothing. -/
def textOf (path : String) : IO String := return (← textOf? path).getD ""

/-- The snapshot that the system shows. -/
def fetch : IO FetchOutcome := do
  let names := Host.deviceNames (← textOf "/proc/net/dev")
  let wireless := Host.wirelessNames (← textOf "/proc/net/wireless")
  let mut entries := #[]
  let mut madeUp := #[]
  for name in names do
    let flags ← textOf ("/sys/class/net/" ++ name ++ "/flags")
    let state ← textOf ("/sys/class/net/" ++ name ++ "/operstate")
    let hardware ← textOf ("/sys/class/net/" ++ name ++ "/address")
    entries := entries.push (Host.linkEntry name flags state hardware)
    if (← textOf? ("/sys/devices/virtual/net/" ++ name ++ "/flags")).isSome then
      madeUp := madeUp.push name
  let environment : Host.Environment := {
    isWireless := wireless.contains
    isVirtual := madeUp.contains
    routingTable := ← textOf? "/proc/net/route" }
  try
    let addresses := (← Std.Net.interfaceAddresses).toList.map Host.addressEntry
    return .snapshot (Host.snapshot environment (entries.toList ++ addresses))
  catch e => return .failure (.io e.toString)

/-- Gives the monitor the outcome of its next fetch. -/
def feed (o : FetchOutcome) (m : Program.AppMonitor Script) : Program.AppMonitor Script :=
  let script := { m.driver.fetcher.inner with upcoming := [o] }
  { m with driver := { m.driver with fetcher := { m.driver.fetcher with inner := script } } }

/-- Prints the events so far and goes on to the next poll. -/
partial def watchFrom (s : Settings) (m : Program.AppMonitor Script) : IO Unit := do
  for e in Program.eventsRead m do
    IO.println (Report.event s.hardwareFormat e)
  (← IO.getStdout).flush
  IO.sleep (UInt32.ofNat (min s.pollInterval.toNat 4294967295))
  watchFrom s (Program.ask .poll (feed (← fetch) { m with past := [] }))

/-- Reports a failure and gives its exit code. -/
def fail (f : Program.Failure) : IO UInt32 := do
  match f with
  | .usage .help => IO.println "Usage: netif-watch [OPTIONS] [list|get|monitor|init|help]"
  | .usage .version => IO.print Program.versionText
  | .usage _ => IO.eprintln "error: invalid command line"
  | .settings e =>
    IO.eprintln ("Configuration error: " ++ e.message)
    IO.eprint e.hint
  | .template e => IO.eprintln ("Error: " ++ e.message)
  | .command message => IO.eprintln ("Application error: " ++ message)
  return f.code

/-- Writes a new settings file. -/
def writeTemplate (path : String) : IO UInt32 := do
  try
    IO.FS.writeFile path Settings.template
    IO.print (Program.writtenText path)
    return 0
  catch _ => fail (.template (.unwritable path))

/-- The settings of a command line. -/
def load (c : CommandLine) : IO (Except SettingsError Settings) := do
  match c.config with
  | none => return Settings.merge c none
  | some path =>
    match ← textOf? path with
    | some text => return Settings.mergeText c text
    | none => return .error (.unreadable path)

/-- Carries out a command line. -/
def execute (c : CommandLine) : IO UInt32 := do
  if let some (.init path) := c.command then
    return ← writeTemplate path
  match ← load c with
  | .error e => fail (.settings e)
  | .ok s =>
    let script := Script.new [← fetch]
    if c.isMonitor then
      watchFrom s (Program.beginWatch s script)
      return 0
    let r := Program.execute c s script 0
    IO.print r.out
    match r.failure with
    | none => return 0
    | some message => fail (.command message)

end LinkWatch.Main

/-- Runs the program. -/
def main (words : List String) : IO UInt32 :=
  match LinkWatch.CommandLine.parse words with
  | .error e => LinkWatch.Main.fail (.usage e)
  | .ok c => LinkWatch.Main.execute c
