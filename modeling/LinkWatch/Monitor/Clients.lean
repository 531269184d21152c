import LinkWatch.Monitor.Basic

/-!
# Clients at the same time

Several clients may register and unregister observers at once. The list of observers is guarded by
a lock, and what is decided about the driver under the lock is carried out after the lock was let
go, so between the decision and the deed other clients may come first. A call therefore has up to
three steps, and any client whose call has not returned may take the next one. The observers here
do nothing when they are told of an event.
-/

namespace LinkWatch

/-- A call of a client. -/
inductive ClientCall where
  | register (o : ObserverId)
  | unregister (o : ObserverId)
deriving Repr, DecidableEq

/-- How far a call has come. -/
inductive ClientPhase where
  /-- Nothing was done yet; a registration first waits for a snapshot. -/
  | waiting
  /-- The lock is to be taken next. -/
  | entering
  /-- The lock was let go, and the driver is to be called. -/
  | steering (call : DriverCall)
  | returned
deriving Repr, DecidableEq

/-- A client in the middle of its call. -/
structure Client where
  call : ClientCall
  phase : ClientPhase
deriving Repr, DecidableEq

/-- A client whose call has just begun. Only a registration waits. -/
def Client.new (call : ClientCall) : Client :=
  match call with
  | .register _ => ⟨call, .waiting⟩
  | .unregister _ => ⟨call, .entering⟩

namespace Monitor

variable {δ : Type}

/-! ## Whole sections of a call -/

/-- Keeps a snapshot and tells the observers, who do nothing. -/
def absorb (s : Snapshot) (m : Monitor δ) : Monitor δ :=
  let told := (Snapshot.diff m.interfaces s).flatMap fun e =>
    m.observers.map fun o => Signal.invoked o e
  { m with interfaces := s, past := told.reverse ++ m.past }

/-- The whole wait for the first snapshot. -/
def awaitFirst [PollingDriver δ] (m : Monitor δ) : Option (Monitor δ) :=
  match PollingDriver.beginWait m.driver with
  | none => none
  | some (none, driver) => some { m with driver := PollingDriver.endWait driver }
  | some (some s, driver) =>
    some ({ m with driver := PollingDriver.endWait driver }.absorb s)

/-- What a registration does under the lock: the observer joins and is told what is known. -/
def join (o : ObserverId) (m : Monitor δ) : Option DriverCall × Monitor δ :=
  if m.isRegistered o then (none, m)
  else
    let told := (Snapshot.diff .empty m.interfaces).map (Signal.invoked o)
    { m with
      observers := m.observers ++ [o]
      replayDepth := m.replayDepth + 1
      past := told.reverse ++ Signal.joined o :: m.past }.closeReplay m.observers.isEmpty

end Monitor

/-! ## Steps -/

/-- The phase after the lock was let go. -/
def ClientPhase.ofDecision : Option DriverCall → ClientPhase
  | some call => .steering call
  | none => .returned

/-- The next step of a call. -/
def Client.step {δ : Type} [PollingDriver δ] (c : Client) (m : Monitor δ) :
    Option (Client × Monitor δ) :=
  match c.phase, c.call with
  | .waiting, _ => m.awaitFirst.map fun m => ({ c with phase := .entering }, m)
  | .entering, .register o =>
    let (call, m) := m.join o
    some ({ c with phase := .ofDecision call }, m)
  | .entering, .unregister o =>
    let (call, m) := m.remove o
    some ({ c with phase := .ofDecision call }, m)
  | .steering call, _ => some ({ c with phase := .returned }, Monitor.steer (some call, m))
  | .returned, _ => none

/-- A monitor and the clients that call it. -/
structure Clients (δ : Type) where
  monitor : Monitor δ
  clients : List Client

namespace Clients

variable {δ : Type} [PollingDriver δ]

/-- Clients that begin their calls, with a monitor that nobody has used. -/
def new (driver : δ) (calls : List ClientCall) : Clients δ := ⟨.new driver, calls.map Client.new⟩

/-- One client takes its next step. -/
def step (i : Nat) (c : Clients δ) : Option (Clients δ) :=
  c.clients[i]?.bind fun client =>
    (client.step c.monitor).map fun (client, monitor) => ⟨monitor, c.clients.set i client⟩

/-- Clients take steps in a given order. -/
def run (c : Clients δ) : List Nat → Option (Clients δ)
  | [] => some c
  | i :: r => (c.step i).bind fun c => run c r

/-- All calls have returned. -/
def AllReturned (c : Clients δ) : Prop := ∀ client ∈ c.clients, client.phase = .returned

end Clients
end LinkWatch
