import LinkWatch.Event
import LinkWatch.Monitor.Driver

/-!
# The monitor

A monitor keeps the latest snapshot and a list of observers, and tells every observer what has
changed whenever its driver hands over another snapshot. A new observer is first told everything
that is known, as arrivals. The driver runs while anybody is registered.

While an observer is being told something it may call the monitor again, so operations nest. The
state therefore holds the operations that are under way as a stack of frames, and the monitor is
given as a machine: its clients and the observers make requests and return from calls, and in
between the monitor proceeds with the topmost operation.
-/

namespace LinkWatch

/-- Observers are told apart by identity. -/
abbrev ObserverId := Nat

/-- An operation that cannot go on before there is a first snapshot. -/
inductive Awaiting where
  /-- A registration; a guarded one hands out a guard when it returns. -/
  | register (o : ObserverId) (guarded : Bool)
  /-- A look at the snapshot. -/
  | query
  /-- A visit to every interface. -/
  | visit
deriving DecidableEq

/-- An operation under way. -/
inductive Frame where
  /-- The first snapshot is being taken. -/
  | await (next : Awaiting)
  /-- Events are handed out, each to every observer of the time when the snapshot came. -/
  | dispatch (pending : List (Event × ObserverId))
  /-- A new observer is told what is known. -/
  | replay (o : ObserverId) (pending : List Event) (isFirst : Bool) (guarded : Bool)
  /-- An observer is being told of an event. -/
  | callback (o : ObserverId) (e : Event)
  /-- Interfaces are visited. -/
  | visits (pending : List Interface)
  /-- A visitor is at an interface. -/
  | visit (i : Interface)
  /-- A round of the driver's worker. -/
  | poll (worker : Nat)

/-- True for a call of an observer or a visitor. -/
def Frame.isCall : Frame → Bool
  | .callback .. => true
  | .visit _ => true
  | _ => false

/-- True for an operation that catches the failure of a call that it makes. -/
def Frame.catches : Frame → Bool
  | .dispatch _ => true
  | .replay .. => true
  | .visits _ => true
  | _ => false

/-- What is still under way after a failure. -/
def unwind : List Frame → List Frame
  | [] => []
  | f :: r => if f.catches then f :: r else unwind r

/-- How many steps an operation takes at most when nobody interferes and the snapshot has a given
size. -/
def Frame.work (size : Nat) : Frame → Nat
  | .await (.register ..) => 2 * size + 2
  | .await .query => 1
  | .await .visit => 2 * size + 2
  | .dispatch pending => 2 * pending.length + 1
  | .replay _ pending _ _ => 2 * pending.length + 1
  | .callback .. => 1
  | .visits pending => 2 * pending.length + 1
  | .visit _ => 1
  | .poll _ => 1

/-- What can be seen of a monitor at work. -/
inductive Signal where
  /-- An observer was added to the list. -/
  | joined (o : ObserverId)
  /-- An observer was removed from the list. -/
  | left (o : ObserverId)
  /-- An observer was told of an event. -/
  | invoked (o : ObserverId) (e : Event)
  /-- A visitor was shown an interface. -/
  | visited (i : Interface)
  /-- A query was answered from a snapshot. -/
  | answered (s : Snapshot)
  /-- The driver was started. -/
  | started
  /-- The driver was stopped while so many replays were under way. -/
  | stopped (depth : Nat)

/-- What is decided about the driver when observers come and go. -/
inductive DriverCall where
  | start
  | stop
deriving Repr, DecidableEq

/-- A monitor and the operations under way. -/
structure Monitor (δ : Type) where
  /-- The snapshot that was handed over last. -/
  interfaces : Snapshot
  /-- The registered observers, in the order of registration. -/
  observers : List ObserverId
  /-- How many replays are under way. -/
  replayDepth : Nat
  /-- The last observer left during a replay, and the driver was not stopped yet. -/
  stopPending : Bool
  driver : δ
  /-- The observers of the guards that are alive. -/
  guards : List ObserverId
  /-- The operations under way, the innermost first. -/
  stack : List Frame
  /-- What was seen so far, the latest first. -/
  past : List Signal

/-- What a client or an observer can ask of a monitor. -/
inductive Request where
  | register (o : ObserverId)
  /-- A registration that hands out a guard. -/
  | subscribe (o : ObserverId)
  /-- The end of a guard, which unregisters its observer. -/
  | release (o : ObserverId)
  | unregister (o : ObserverId)
  | shutdown
  | query
  | visit
  /-- The driver hands over a snapshot of its own accord. -/
  | deliver (s : Snapshot)
  /-- The driver's worker makes a round. -/
  | poll

/-- What can happen next. -/
inductive Label where
  | request (r : Request)
  /-- The observer or the visitor that is called returns. -/
  | finish
  /-- The observer or the visitor that is called fails. -/
  | panic
  /-- The monitor goes on. -/
  | proceed

namespace Monitor

variable {δ : Type}

/-- A monitor without observers that has seen nothing. -/
def new (driver : δ) : Monitor δ where
  interfaces := .empty
  observers := []
  replayDepth := 0
  stopPending := false
  driver := driver
  guards := []
  stack := []
  past := []

/-- True when an observer is in the list. -/
def isRegistered (m : Monitor δ) (o : ObserverId) : Bool := m.observers.contains o

/-- Puts an operation on top of those under way. -/
def push (f : Frame) (m : Monitor δ) : Monitor δ := { m with stack := f :: m.stack }

/-- Notes what was seen. -/
def note (s : Signal) (m : Monitor δ) : Monitor δ := { m with past := s :: m.past }

/-- True when clients and observers have the next move: nothing is under way, or an observer or a
visitor is being called. -/
def isOpen (m : Monitor δ) : Bool :=
  match m.stack with
  | [] => true
  | .callback .. :: _ => true
  | .visit _ :: _ => true
  | _ => false

/-! ## Snapshots -/

/-- Keeps a snapshot and begins to hand out what it changes, to the observers of this moment. -/
def keep (s : Snapshot) (m : Monitor δ) : Monitor δ :=
  let pairs := (Snapshot.diff m.interfaces s).flatMap fun e => m.observers.map fun o => (e, o)
  { m with interfaces := s }.push (.dispatch pairs)

/-- Keeps a snapshot if there is one. -/
def keep? (s : Option Snapshot) (m : Monitor δ) : Monitor δ :=
  match s with
  | some s => m.keep s
  | none => m

/-! ## Decisions about the driver

Every change to the list of observers comes with a decision about the driver, which is carried out
afterwards. -/

/-- If the last observer has left the driver is to be stopped, but not before the end of the
replays that are under way. -/
def releaseDriver (emptied : Bool) (m : Monitor δ) : Option DriverCall × Monitor δ :=
  if !emptied then (none, m)
  else if 0 < m.replayDepth then (none, { m with stopPending := true })
  else (some .stop, m)

/-- Ends a replay. The driver is to be stopped if that was put off and nobody has come since, or
else started if this was the first observer and somebody is still there. -/
def closeReplay (isFirst : Bool) (m : Monitor δ) : Option DriverCall × Monitor δ :=
  let depth := m.replayDepth - 1
  let call :=
    if depth == 0 && m.stopPending && m.observers.isEmpty then some .stop
    else if isFirst && !m.observers.isEmpty then some .start
    else none
  (call, { m with replayDepth := depth, stopPending := m.stopPending && depth != 0 })

/-- Removes an observer from the list. -/
def remove (o : ObserverId) (m : Monitor δ) : Option DriverCall × Monitor δ :=
  if m.isRegistered o then
    let rest := m.observers.filter (· != o)
    ({ m with observers := rest }.note (.left o)).releaseDriver rest.isEmpty
  else (none, m)

/-- Removes all observers from the list. -/
def clear (m : Monitor δ) : Option DriverCall × Monitor δ :=
  { m with
    observers := []
    past := (m.observers.map Signal.left).reverse ++ m.past }.releaseDriver (!m.observers.isEmpty)

variable [PollingDriver δ]

/-! ## The driver -/

/-- Starts the driver. -/
def startDriver (m : Monitor δ) : Monitor δ :=
  { m with driver := PollingDriver.start m.driver }.note .started

/-- Stops the driver. -/
def stopDriver (m : Monitor δ) : Monitor δ :=
  { m with driver := PollingDriver.stop m.driver }.note (.stopped m.replayDepth)

/-- Carries out what was decided about the driver. -/
def steer : Option DriverCall × Monitor δ → Monitor δ
  | (none, m) => m
  | (some .start, m) => m.startDriver
  | (some .stop, m) => m.stopDriver

/-- Waits for the first snapshot before an operation goes on. -/
def await (next : Awaiting) (m : Monitor δ) : Option (Monitor δ) :=
  match PollingDriver.beginWait m.driver with
  | none => none
  | some (s, driver) => some (({ m with driver := driver }.push (.await next)).keep? s)

/-! ## Registration -/

/-- Hands out a guard if the registration is to have one. -/
def grant (guarded : Bool) (o : ObserverId) (m : Monitor δ) : Monitor δ :=
  if guarded then { m with guards := o :: m.guards } else m

/-- Adds an observer and begins to tell it what is known. A registered observer is not added
again. -/
def beginReplay (o : ObserverId) (guarded : Bool) (m : Monitor δ) : Monitor δ :=
  if m.isRegistered o then m.grant guarded o
  else
    ({ m with observers := m.observers ++ [o], replayDepth := m.replayDepth + 1 }.note
      (.joined o)).push
      (.replay o (Snapshot.diff .empty m.interfaces) m.observers.isEmpty guarded)

/-- Ends the replay to an observer. -/
def endReplay (o : ObserverId) (isFirst guarded : Bool) (m : Monitor δ) : Monitor δ :=
  (steer (m.closeReplay isFirst)).grant guarded o

/-- Removes an observer. -/
def unregister (o : ObserverId) (m : Monitor δ) : Monitor δ := steer (m.remove o)

/-- Removes all observers. -/
def shutdown (m : Monitor δ) : Monitor δ := steer m.clear

/-! ## Steps -/

/-- What an operation does once there is a first snapshot. -/
def resume (next : Awaiting) (m : Monitor δ) : Monitor δ :=
  match next with
  | .register o guarded => m.beginReplay o guarded
  | .query => m.note (.answered m.interfaces)
  | .visit => m.push (.visits m.interfaces.values)

/-- The start of a request. Only guards that are alive can end, and a wait that could never end
does not begin. -/
def request (r : Request) (m : Monitor δ) : Option (Monitor δ) :=
  match r with
  | .register o => m.await (.register o false)
  | .subscribe o => m.await (.register o true)
  | .release o =>
    if m.guards.contains o then some ({ m with guards := m.guards.erase o }.unregister o) else none
  | .unregister o => some (m.unregister o)
  | .shutdown => some m.shutdown
  | .query => m.await .query
  | .visit => m.await .visit
  | .deliver s => some (m.keep s)
  | .poll =>
    match PollingDriver.beginPoll m.driver with
    | (none, driver) => some { m with driver := driver }
    | (some (worker, s), driver) =>
      some (({ m with driver := driver }.push (.poll worker)).keep? s)

/-- The monitor goes on with the innermost operation. Observers that have left by then are not
told anything more. -/
def proceed (m : Monitor δ) : Option (Monitor δ) :=
  match m.stack with
  | .await next :: r =>
    some ({ m with stack := r, driver := PollingDriver.endWait m.driver }.resume next)
  | .dispatch [] :: r => some { m with stack := r }
  | .dispatch ((e, o) :: pending) :: r =>
    let m := { m with stack := .dispatch pending :: r }
    some (if m.isRegistered o then (m.push (.callback o e)).note (.invoked o e) else m)
  | .replay o [] isFirst guarded :: r => some ({ m with stack := r }.endReplay o isFirst guarded)
  | .replay o (e :: pending) isFirst guarded :: r =>
    if m.isRegistered o then
      some (({ m with stack := .replay o pending isFirst guarded :: r }.push
        (.callback o e)).note (.invoked o e))
    else some ({ m with stack := r }.endReplay o isFirst guarded)
  | .visits [] :: r => some { m with stack := r }
  | .visits (i :: pending) :: r =>
    some (({ m with stack := .visits pending :: r }.push (.visit i)).note (.visited i))
  | .poll worker :: r =>
    some { m with stack := r, driver := PollingDriver.endPoll worker m.driver }
  | _ => none

/-- The call on top ends. A failure ends with the call: whoever made the call goes on. -/
def endCall (m : Monitor δ) : Option (Monitor δ) :=
  match m.stack with
  | .callback .. :: r => some { m with stack := r }
  | .visit _ :: r => some { m with stack := r }
  | _ => none

/-- One step. -/
def step (m : Monitor δ) : Label → Option (Monitor δ)
  | .request r => if m.isOpen then m.request r else none
  | .finish => m.endCall
  | .panic => m.endCall
  | .proceed => m.proceed

/-- Steps in order. -/
def run (m : Monitor δ) : List Label → Option (Monitor δ)
  | [] => some m
  | l :: r => (m.step l).bind fun m => run m r

/-! ## Failures

A failure ends every operation under way up to the innermost one that catches it. What is left out
that way is never made up for. -/

/-- The call on top fails. -/
def fail (m : Monitor δ) : Option (Monitor δ) :=
  match m.stack with
  | [] => none
  | f :: r => if f.isCall then some { m with stack := unwind r } else none

/-- One step, where a failure ends all that does not catch it. -/
def unwindingStep (m : Monitor δ) : Label → Option (Monitor δ)
  | .panic => m.fail
  | l => m.step l

/-- Steps in order. -/
def unwindingRun (m : Monitor δ) : List Label → Option (Monitor δ)
  | [] => some m
  | l :: r => (m.unwindingStep l).bind fun m => unwindingRun m r

/-! ## Runs without nesting -/

/-- A step in which observers and visitors return at once. -/
def quietStep (m : Monitor δ) : Monitor δ :=
  (m.proceed.or m.endCall).getD m

/-- How many steps the operations under way take at most. -/
def work (m : Monitor δ) : Nat := m.stack.foldl (fun n f => n + f.work m.interfaces.size) 0

/-- Takes quiet steps until everything under way has ended. -/
def settle (m : Monitor δ) : Monitor δ := Nat.repeat quietStep m.work m

/-- A whole request of a client, with observers that only look on. -/
def perform (m : Monitor δ) (r : Request) : Option (Monitor δ) := (m.request r).map settle

/-! ## What was seen -/

/-- What an observer was told, in order. -/
def received (m : Monitor δ) (o : ObserverId) : List Event :=
  (m.past.filterMap fun
    | .invoked o' e => if o' = o then some e else none
    | _ => none).reverse

/-- The text of a look-up that found nothing. -/
def notFoundMessage (id : String) : String := "Interface not found: " ++ id

/-- The sizes of a monitor, for logs. -/
def summary (m : Monitor δ) : String :=
  "InterfaceMonitor \x7b interfaces: " ++ toString m.interfaces.size ++ ", observers: "
    ++ toString m.observers.length ++ ", .. \x7d"

end Monitor
end LinkWatch
