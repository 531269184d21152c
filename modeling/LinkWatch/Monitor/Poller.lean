import LinkWatch.Monitor.Driver
import LinkWatch.Monitor.Fetcher
import LinkWatch.Text.Numeral

/-!
# The poller

The usual driver. It takes a snapshot at once for whoever first waits for one, and while it runs a
worker takes another in every round. A barrier remembers whether a snapshot was handed over since
the driver was last stopped; while the first one is being taken, others wait for it. Every worker
has a number of its own, so that a worker that was stopped in the middle of a round cannot be
taken for the one that replaced it.
-/

namespace LinkWatch

/-- How far the first snapshot has come. -/
inductive Barrier where
  /-- Nothing was handed over since the last stop. -/
  | pending
  /-- Somebody is taking the first snapshot. -/
  | inProgress
  | done
deriving Repr, DecidableEq

/-- A worker that was started and not stopped. -/
structure Worker where
  number : Nat
  /-- False when a crash has ended it. -/
  isAlive : Bool
deriving Repr, DecidableEq

/-- The driver that takes snapshots from a fetcher. -/
structure Poller (φ : Type) where
  fetcher : φ
  /-- The time between two rounds, in milliseconds. -/
  interval : Nat
  barrier : Barrier
  worker : Option Worker
  /-- The number of the next worker. -/
  nextWorker : Nat

namespace Poller

variable {φ : Type}

/-- The time between two rounds, in milliseconds, unless another is chosen. -/
def defaultInterval : Nat := 1000

/-- A poller at rest. -/
def new (fetcher : φ) (interval : Nat) : Poller φ := ⟨fetcher, interval, .pending, none, 0⟩

/-- True from a start to the next stop. -/
def isRunning (p : Poller φ) : Bool := p.worker.isSome

/-! ## Waiting for the first snapshot -/

/-- Takes the first snapshot unless it was taken already. Nobody can wait here for a snapshot that
is still being handed over, since it is the caller who is handing it over.

A fetch that a waiter makes ends with a snapshot or a failure, and a crash counts as a failure here.
A fetcher that panics under a waiter, and so unwinds out of the wait with the barrier in progress
for good, is not modelled. -/
def beginWait [Fetcher φ] (p : Poller φ) : Option (Option Snapshot × Poller φ) :=
  match p.barrier with
  | .done => some (none, p)
  | .inProgress => none
  | .pending =>
    let (o, fetcher) := Fetcher.fetch p.fetcher
    some (o.snapshot?, { p with fetcher := fetcher, barrier := .inProgress })

/-- Lets through everybody who waits, even if the fetch failed. -/
def endWait (p : Poller φ) : Poller φ := { p with barrier := .done }

/-! ## The worker -/

/-- Starts a worker unless there is one. -/
def start (p : Poller φ) : Poller φ :=
  match p.worker with
  | some _ => p
  | none => { p with worker := some ⟨p.nextWorker, true⟩, nextWorker := p.nextWorker + 1 }

/-- Stops the worker, if there is one, and forgets that a snapshot was handed over. -/
def stop (p : Poller φ) : Poller φ :=
  match p.worker with
  | none => p
  | some _ => { p with worker := none, barrier := .pending }

/-- Ends the poller: its worker is stopped. -/
def close (p : Poller φ) : Poller φ := { p with worker := none }

/-- The fetch at the start of a round. A worker that crashes does not finish its round. -/
def beginPoll [Fetcher φ] (p : Poller φ) : Option (Nat × Option Snapshot) × Poller φ :=
  match p.worker with
  | some ⟨n, true⟩ =>
    let (o, fetcher) := Fetcher.fetch p.fetcher
    match o with
    | .crash _ => (none, { p with fetcher := fetcher, worker := some ⟨n, false⟩ })
    | o => (some (n, o.snapshot?), { p with fetcher := fetcher })
  | _ => (none, p)

/-- Ends a round: the barrier opens, unless the worker was stopped during the round. -/
def endPoll (n : Nat) (p : Poller φ) : Poller φ :=
  match p.worker with
  | some w => if w.number = n then { p with barrier := .done } else p
  | none => p

instance [Fetcher φ] : PollingDriver (Poller φ) where
  beginWait := beginWait
  endWait := endWait
  start := start
  stop := stop
  beginPoll := beginPoll
  endPoll := endPoll

/-! ## Without a monitor -/

/-- A whole wait, and the snapshots that it hands over. -/
def wait [Fetcher φ] (p : Poller φ) : List Snapshot × Poller φ :=
  match p.beginWait with
  | some (s, p) => (s.toList, p.endWait)
  | none => ([], p)

/-- A whole round of the worker, and the snapshots that it hands over. -/
def poll [Fetcher φ] (p : Poller φ) : List Snapshot × Poller φ :=
  match p.beginPoll with
  | (some (n, s), p) => (s.toList, p.endPoll n)
  | (none, p) => ([], p)

/-- The same step several times, with all snapshots that it hands over. -/
def repeated (step : Poller φ → List Snapshot × Poller φ) :
    Nat → Poller φ → List Snapshot × Poller φ
  | 0, p => ([], p)
  | n + 1, p =>
    let (s, p) := step p
    let (r, p) := repeated step n p
    (s ++ r, p)

/-! ## Text -/

/-- A time in milliseconds in the largest unit it has a whole one of, without closing zeros. -/
def durationText (ms : Nat) : String :=
  if ms = 0 then "0ns"
  else if ms < 1000 then toString ms ++ "ms"
  else
    let fraction := Text.decimal (1000 + ms % 1000) |>.drop 1
    let shown := (fraction.reverse.dropWhile (· = '0')).reverse
    toString (ms / 1000) ++ (if shown.isEmpty then "" else "." ++ String.ofList shown) ++ "s"

/-- The state of a poller, for logs. -/
def summary (p : Poller φ) : String :=
  "ThreadPoller \x7b interval: " ++ durationText p.interval ++ ", running: "
    ++ toString p.isRunning ++ ", .. \x7d"

end Poller
end LinkWatch
