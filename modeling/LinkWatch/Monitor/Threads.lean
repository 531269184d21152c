import LinkWatch.Monitor.Poller

/-!
# A poller among threads

The poller as the threads see it that share it. Any number of callers wait for the first snapshot,
any number of calls stop the worker, and every worker that was ever started may still be on its
way to its end. What one thread does under a lock, or with one look at a flag, is one step; the
steps of different threads come in any order. Sleepers may wake at any time, so that it does not
matter here who wakes them.

A stop takes the worker, raises its flag, waits for the worker's end, and shuts the barrier. An
observer may ask for it from inside the worker itself, which then does not wait for its own end.
-/

namespace LinkWatch

/-- A thread that may take snapshots. -/
inductive PollerThread where
  | caller (n : Nat)
  | worker (n : Nat)
deriving Repr, DecidableEq

/-- How far a thread is with taking a snapshot and handing it over. -/
inductive Refresh where
  /-- The fetch is to begin. -/
  | ready
  | fetching
  /-- The observers are told of a snapshot. -/
  | handing (s : Snapshot)
  | complete

/-- How far a call is that stops the worker. -/
inductive StopPhase where
  /-- The worker is to be taken from its place. -/
  | taking
  /-- The flag of the worker is to be raised. -/
  | flagging (worker : Nat)
  /-- The worker is to end. -/
  | joining (worker : Nat)
  /-- The barrier is to be shut. -/
  | shutting (worker : Nat)
  /-- The call has returned. It may have found no worker. -/
  | returned (worker : Option Nat)
deriving Repr, DecidableEq

/-- How far a caller is that waits for the first snapshot. -/
inductive WaitPhase where
  /-- The call has not begun. -/
  | away
  /-- The barrier is to be looked at. -/
  | looking
  | sleeping
  /-- This caller takes the first snapshot. -/
  | refreshing (r : Refresh)
  | returned

/-- How far a worker is. -/
inductive WorkPhase where
  /-- The worker was never started. -/
  | absent
  /-- The flag is to be looked at before a round. -/
  | checking
  /-- A round is under way; an observer may be stopping the worker from inside it. -/
  | refreshing (r : Refresh) (stop : Option StopPhase)
  /-- The flag is to be looked at after the round. -/
  | rechecking
  /-- The barrier is to be opened. -/
  | opening
  | resting
  | ended

/-- What can be seen of a poller at work. -/
inductive PollerEvent where
  | fetchBegan (thread : PollerThread)
  | fetchEnded (thread : PollerThread) (s : Option Snapshot)
  /-- The observers begin to be told of a snapshot. -/
  | handing (thread : PollerThread) (s : Snapshot)
  /-- The observers were told of a snapshot. -/
  | handed (thread : PollerThread) (s : Snapshot)
  /-- The barrier was opened. -/
  | opened (thread : PollerThread)
  /-- A call that stops a worker has shut the barrier and returned. It was made from inside a
  worker, or by a thread that is no worker. -/
  | shut (self : Option Nat) (worker : Nat)
  /-- A wait has returned. -/
  | passed (caller : Nat)

/-- A poller and everybody who is busy with it. -/
structure Threads where
  barrier : Barrier
  /-- The worker that was started and not taken by a stop. -/
  worker : Option Nat
  /-- The number of the next worker. -/
  nextWorker : Nat
  /-- The flags that tell workers to end. -/
  stopped : Nat → Bool
  waits : Nat → WaitPhase
  work : Nat → WorkPhase
  /-- The calls that stop the worker from threads other than a worker's. -/
  stops : Nat → StopPhase
  /-- What was seen so far, the latest first. -/
  past : List PollerEvent

/-- A choice that the poller does not make itself. -/
inductive Move where
  /-- The thread goes on. -/
  | proceed
  /-- The fetch ends, with or without a snapshot. -/
  | fetched (s : Option Snapshot)
  /-- An observer stops the worker. -/
  | stop

/-- What can happen next. -/
inductive PollerStep where
  /-- The first observer came. -/
  | start
  | caller (n : Nat) (m : Move)
  | worker (n : Nat) (m : Move)
  /-- A call that stops the worker goes on. -/
  | stop (n : Nat)

namespace Threads

/-- A function changed at one place. -/
def replaced {α : Type} (f : Nat → α) (n : Nat) (a : α) : Nat → α :=
  fun k => if k = n then a else f k

/-- A poller at rest. -/
def new : Threads where
  barrier := .pending
  worker := none
  nextWorker := 0
  stopped := fun _ => false
  waits := fun _ => .away
  work := fun _ => .absent
  stops := fun _ => .taking
  past := []

/-- Notes what was seen. -/
def note (e : PollerEvent) (t : Threads) : Threads := { t with past := e :: t.past }

/-- Moves a caller to a phase. -/
def setWait (n : Nat) (p : WaitPhase) (t : Threads) : Threads :=
  { t with waits := replaced t.waits n p }

/-- Moves a worker to a phase. -/
def setWork (n : Nat) (p : WorkPhase) (t : Threads) : Threads :=
  { t with work := replaced t.work n p }

/-! ## Taking a snapshot -/

/-- A thread goes on with taking a snapshot and handing it over. -/
def refresh (thread : PollerThread) (m : Move) (r : Refresh) (t : Threads) :
    Option (Refresh × Threads) :=
  match r, m with
  | .ready, .proceed => some (.fetching, t.note (.fetchBegan thread))
  | .fetching, .fetched none => some (.complete, t.note (.fetchEnded thread none))
  | .fetching, .fetched (some s) =>
    some (.handing s, (t.note (.fetchEnded thread (some s))).note (.handing thread s))
  | .handing s, .proceed => some (.complete, t.note (.handed thread s))
  | _, _ => none

/-- Opens the barrier. -/
def openBarrier (thread : PollerThread) (t : Threads) : Threads :=
  { t with barrier := .done }.note (.opened thread)

/-! ## Waiting -/

/-- A caller goes on with its wait. It looks at the barrier under the lock, and a sleeper that
wakes looks again. -/
def stepCaller (n : Nat) (m : Move) (t : Threads) : Option Threads :=
  match t.waits n, m with
  | .away, .proceed => some (t.setWait n .looking)
  | .looking, .proceed =>
    match t.barrier with
    | .done => some ((t.setWait n .returned).note (.passed n))
    | .inProgress => some (t.setWait n .sleeping)
    | .pending => some ({ t with barrier := .inProgress }.setWait n (.refreshing .ready))
  | .sleeping, .proceed => some (t.setWait n .looking)
  | .refreshing .complete, .proceed =>
    some (((t.openBarrier (.caller n)).setWait n .returned).note (.passed n))
  | .refreshing r, m =>
    (t.refresh (.caller n) m r).map fun (r, t) => t.setWait n (.refreshing r)
  | _, _ => none

/-! ## Stopping -/

/-- A call that stops the worker goes on. A worker does not wait for its own end. -/
def stepStop (self : Option Nat) (p : StopPhase) (t : Threads) : Option (StopPhase × Threads) :=
  match p with
  | .taking =>
    match t.worker with
    | none => some (.returned none, t)
    | some w => some (.flagging w, { t with worker := none })
  | .flagging w =>
    some (if self = some w then .shutting w else .joining w,
      { t with stopped := replaced t.stopped w true })
  | .joining w =>
    match t.work w with
    | .ended => some (.shutting w, t)
    | _ => none
  | .shutting w => some (.returned (some w), { t with barrier := .pending }.note (.shut self w))
  | .returned _ => none

/-! ## The worker -/

/-- A worker goes on. While an observer stops the worker from inside a round, the round waits. -/
def stepWorker (n : Nat) (m : Move) (t : Threads) : Option Threads :=
  match t.work n, m with
  | .checking, .proceed =>
    some (t.setWork n (if t.stopped n then .ended else .refreshing .ready none))
  | .refreshing (.handing s) none, .stop =>
    some (t.setWork n (.refreshing (.handing s) (some .taking)))
  | .refreshing (.handing s) (some (.returned _)), .stop =>
    some (t.setWork n (.refreshing (.handing s) (some .taking)))
  | .refreshing .complete _, .proceed => some (t.setWork n .rechecking)
  | .refreshing r none, m =>
    (t.refresh (.worker n) m r).map fun (r, t) => t.setWork n (.refreshing r none)
  | .refreshing r (some (.returned w)), m =>
    (t.refresh (.worker n) m r).map fun (r, t) =>
      t.setWork n (.refreshing r (some (.returned w)))
  | .refreshing r (some p), .proceed =>
    (t.stepStop (some n) p).map fun (p, t) => t.setWork n (.refreshing r (some p))
  | .rechecking, .proceed => some (t.setWork n (if t.stopped n then .ended else .opening))
  | .opening, .proceed => some ((t.openBarrier (.worker n)).setWork n .resting)
  | .resting, .proceed => some (t.setWork n .checking)
  | _, _ => none

/-- Starts a worker unless one is in its place. -/
def start (t : Threads) : Threads :=
  match t.worker with
  | some _ => t
  | none =>
    { t with worker := some t.nextWorker, nextWorker := t.nextWorker + 1 }.setWork t.nextWorker
      .checking

/-! ## Runs -/

/-- One step. -/
def step (t : Threads) : PollerStep → Option Threads
  | .start => some t.start
  | .caller n m => t.stepCaller n m
  | .worker n m => t.stepWorker n m
  | .stop n =>
    (t.stepStop none (t.stops n)).map fun (p, t) => { t with stops := replaced t.stops n p }

/-- Steps in order. -/
def run (t : Threads) : List PollerStep → Option Threads
  | [] => some t
  | l :: r => (t.step l).bind fun t => run t r

end Threads
end LinkWatch
