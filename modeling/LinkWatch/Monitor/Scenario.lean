import LinkWatch.Monitor.Basic
import LinkWatch.Monitor.Poller

/-!
# Scenarios

A scenario runs a monitor with a client that follows a list of commands and with observers that
answer events with commands of their own. Everything that observers are told or do is kept in a
log, which every command of the client reports from where the last report ended.
-/

namespace LinkWatch.Scenario

/-- The kinds of events that an observer can react to. -/
inductive Trigger where
  | any
  | added
  | removed
  | enabled
  | connected
  | aliasName
  | addresses
  | gateways
deriving DecidableEq

/-- The kind of an event. -/
def Trigger.ofEvent : Event → Trigger
  | .added _ => added
  | .removed _ => removed
  | .changed _ (.enabled _) => enabled
  | .changed _ (.connected _) => connected
  | .changed _ (.aliasName _) => aliasName
  | .changed _ (.addresses _) => addresses
  | .changed _ (.gateways _) => gateways

/-- What a client or an observer can do. -/
inductive Command where
  | register (observer : String)
  | unregister (observer : String)
  /-- Commands while a guard is held. -/
  | subscribed (observer : String) (commands : List Command)
  /-- The driver hands over a snapshot. -/
  | push (s : Snapshot)
  /-- Replaces what the driver hands over first. -/
  | setInitial (s : Option Snapshot)
  /-- Rounds of the driver's worker. -/
  | tick (rounds : Nat)
  | lookUp (id : String)
  | interfaces
  /-- A visit to all interfaces that fails on some. -/
  | enumerate (failing : List String)
  | count
  | shutdown
  | summary
  /-- The observer fails. -/
  | fail

/-- What an observer does on an event, for a number of times. -/
structure Reaction where
  trigger : Trigger
  /-- Only events of this interface, if there is one. -/
  id : Option String
  times : Nat
  commands : List Command

/-- An observer of a scenario. -/
structure Actor where
  name : String
  reactions : List Reaction

/-- True when a reaction answers an event. -/
def Reaction.answers (r : Reaction) (e : Event) : Bool :=
  (r.trigger == .any || r.trigger == .ofEvent e) && r.id.all (· == e.interface.id) && 0 < r.times

/-- The commands that an event brings about, and the actor after that. -/
def Actor.react (a : Actor) (e : Event) : List Command × Actor :=
  let commands := (a.reactions.filter (·.answers e)).flatMap (·.commands)
  let reactions := a.reactions.map fun r =>
    if r.answers e then { r with times := r.times - 1 } else r
  (commands, { a with reactions := reactions })

/-! ## Drivers -/

/-- The driver of a scenario: fed by hand, or a poller that follows a script. -/
inductive ScenarioDriver where
  | manual (d : ManualDriver)
  | polled (p : Poller Script)

namespace ScenarioDriver

instance : PollingDriver ScenarioDriver where
  beginWait
    | manual d => (PollingDriver.beginWait d).map fun (s, d) => (s, manual d)
    | polled p => (PollingDriver.beginWait p).map fun (s, p) => (s, polled p)
  endWait
    | manual d => manual (PollingDriver.endWait d)
    | polled p => polled (PollingDriver.endWait p)
  start
    | manual d => manual (PollingDriver.start d)
    | polled p => polled (PollingDriver.start p)
  stop
    | manual d => manual (PollingDriver.stop d)
    | polled p => polled (PollingDriver.stop p)
  beginPoll
    | manual d => ((PollingDriver.beginPoll d).1, manual (PollingDriver.beginPoll d).2)
    | polled p => ((PollingDriver.beginPoll p).1, polled (PollingDriver.beginPoll p).2)
  endPoll n
    | manual d => manual (PollingDriver.endPoll n d)
    | polled p => polled (PollingDriver.endPoll n p)

/-- True when a snapshot can be pushed. -/
def hasSink : ScenarioDriver → Bool
  | manual d => d.hasSink
  | polled _ => false

/-- Replaces what is handed over first. -/
def setInitial (s : Option Snapshot) : ScenarioDriver → ScenarioDriver
  | manual d => manual { d with initial := s }
  | polled p => polled p

end ScenarioDriver

/-- What was asked of a driver. -/
inductive DriverCounts where
  | manual (waits starts stops : Nat)
  | fetches (n : Nat)

/-- The counts of a driver. -/
def ScenarioDriver.counts : ScenarioDriver → DriverCounts
  | manual d => .manual d.waits d.starts d.stops
  | polled p => .fetches p.fetcher.fetched

/-! ## Reports -/

mutual

/-- The result of a command. -/
inductive Answer where
  | ok
  /-- There is nowhere to push a snapshot to. -/
  | noSink
  | text (s : String)
  | number (n : Nat)
  /-- The ids of all interfaces. -/
  | ids (l : List String)
  | interface (i : Interface)
  | notFound (id : String)
  /-- The interfaces that were visited without a failure. -/
  | visited (l : List Interface)
  /-- The reports of the commands while a guard was held. -/
  | subscribed (reports : List Report)

/-- What is known after a command of a client. -/
inductive Report where
  | mk (answer : Answer) (log : List LogEntry) (observers : Nat) (driver : DriverCounts)

/-- An entry of the log. -/
inductive LogEntry where
  /-- An observer was told of an event. -/
  | told (observer : String) (e : Event)
  /-- An observer did something. -/
  | did (observer : String) (command : Command) (answer : Answer)

end

/-- The text of a guard, for logs. -/
def guardSummary : String := "Subscription \x7b .. \x7d"

/-! ## Runs -/

/-- A scenario under way. -/
structure State where
  monitor : Monitor ScenarioDriver
  actors : List Actor
  /-- What is in the log and was not reported yet, the latest first. -/
  log : List LogEntry

namespace State

/-- The identity of the actor with a name. -/
def idOf (st : State) (name : String) : ObserverId := st.actors.findIdx (·.name == name)

/-- The name of an actor. -/
def nameOf (st : State) (o : ObserverId) : String := ((st.actors[o]?).map (·.name)).getD ""

/-- Adds to the log. -/
def write (entry : LogEntry) (st : State) : State := { st with log := entry :: st.log }

/-- A step of the monitor. A step that cannot be made changes nothing. -/
def take (l : Label) (st : State) : State :=
  match st.monitor.step l with
  | some m => { st with monitor := m }
  | none => st

/-- The report after a command, which empties the log. -/
def report (answer : Answer) (st : State) : Report × State :=
  (.mk answer st.log.reverse st.monitor.observers.length st.monitor.driver.counts,
    { st with log := [] })

/-- The commands that an event brings about in an observer. -/
def react (o : ObserverId) (e : Event) (st : State) : List Command × State :=
  match st.actors[o]? with
  | some a => ((a.react e).1, { st with actors := st.actors.set o (a.react e).2 })
  | none => ([], st)

/-- The interfaces visited since a moment, the ones on which the visitor failed left out. -/
def visitedSince (moment : Nat) (failing : List String) (st : State) : List Interface :=
  ((st.monitor.past.take (st.monitor.past.length - moment)).filterMap fun
    | .visited i => if failing.contains i.id then none else some i
    | _ => none).reverse

end State

mutual

/-- Lets the monitor go on until no more operations are under way than a number. Observers that
are called do what their reactions say; visitors only look. -/
def settle : Nat → Nat → State → State
  | 0, _, st => st
  | fuel + 1, depth, st =>
    if st.monitor.stack.length ≤ depth then st
    else
      match st.monitor.stack with
      | .callback o e :: _ =>
        let (commands, st) := (st.write (.told (st.nameOf o) e)).react o e
        let (failed, st) := obey fuel o commands st
        settle fuel depth (st.take (if failed then .panic else .finish))
      | .visit _ :: _ => settle fuel depth (st.take .finish)
      | _ => settle fuel depth (st.take .proceed)

/-- The commands of an observer, logged one by one, up to one that fails. True when one did. -/
def obey : Nat → ObserverId → List Command → State → Bool × State
  | 0, _, _, st => (false, st)
  | _, _, [], st => (false, st)
  | fuel + 1, o, c :: r, st =>
    match execute fuel c st with
    | (none, st) => (true, st)
    | (some answer, st) => obey fuel o r (st.write (.did (st.nameOf o) c answer))

/-- The commands of a client, reported one by one, up to one that fails. -/
def follow : Nat → List Command → State → Bool × List Report × State
  | 0, _, st => (false, [], st)
  | _, [], st => (false, [], st)
  | fuel + 1, c :: r, st =>
    match execute fuel c st with
    | (none, st) => (true, [], st)
    | (some answer, st) =>
      let (report, st) := st.report answer
      let (failed, reports, st) := follow fuel r st
      (failed, report :: reports, st)

/-- One command. A command that fails has no answer. -/
def execute : Nat → Command → State → Option Answer × State
  | 0, _, st => (some .ok, st)
  | fuel + 1, c, st =>
    let ask (r : Request) (st : State) : State :=
      settle fuel st.monitor.stack.length (st.take (.request r))
    match c with
    | .register name => (some .ok, ask (.register (st.idOf name)) st)
    | .unregister name => (some .ok, ask (.unregister (st.idOf name)) st)
    | .subscribed name commands =>
      let o := st.idOf name
      let (failed, reports, st) := follow fuel commands (ask (.subscribe o) st)
      (if failed then none else some (.subscribed reports), ask (.release o) st)
    | .push s =>
      if st.monitor.driver.hasSink then (some .ok, ask (.deliver s) st) else (some .noSink, st)
    | .setInitial s =>
      (some .ok, { st with monitor := { st.monitor with driver := st.monitor.driver.setInitial s } })
    | .tick rounds => (some .ok, Nat.repeat (ask .poll) rounds st)
    | .lookUp id =>
      let st := ask .query st
      (some (match st.monitor.interfaces.get? id with
        | some i => .interface i
        | none => .notFound id), st)
    | .interfaces =>
      let st := ask .query st
      (some (.ids st.monitor.interfaces.keys), st)
    | .enumerate failing =>
      let moment := st.monitor.past.length
      let st := ask .visit st
      (some (.visited (st.visitedSince moment failing)), st)
    | .count => (some (.number st.monitor.observers.length), st)
    | .shutdown => (some .ok, ask .shutdown st)
    | .summary => (some (.text st.monitor.summary), st)
    | .fail => (none, st)

end

/-- More steps than any scenario takes. -/
def fuel : Nat := 1000000

/-- The reports of a scenario, and the counts of the driver after the monitor is gone. -/
def run (driver : ScenarioDriver) (actors : List Actor) (commands : List Command) :
    List Report × DriverCounts :=
  let (_, reports, st) := follow fuel commands ⟨.new driver, actors, []⟩
  (reports, (st.take (.request .shutdown)).monitor.driver.counts)

end LinkWatch.Scenario
