import LinkWatch.Event

/-!
# Observers and the event channel

An observer has one handler for each kind of event. The event channel is an observer that turns
every call back into an event and queues it for the reader at the other end. Either end can be
closed: what is sent to a closed reader is lost, and a reader whose sender is gone first gets what
is still queued and then the end.
-/

namespace LinkWatch

/-- Handlers for the events, acting on a state. -/
structure Observer (σ : Type) where
  onAdded : Interface → σ → σ
  onRemoved : Interface → σ → σ
  onEnabled : Interface → Bool → σ → σ
  onConnected : Interface → Bool → σ → σ
  onAlias : Interface → String → σ → σ
  onAddresses : Interface → List Assignment → σ → σ
  onGateways : Interface → List IpAddress → σ → σ

/-- Calls the handler of an event. -/
def Event.notify {σ : Type} (o : Observer σ) : Event → σ → σ
  | .added i => o.onAdded i
  | .removed i => o.onRemoved i
  | .changed i (.enabled v) => o.onEnabled i v
  | .changed i (.connected v) => o.onConnected i v
  | .changed i (.aliasName v) => o.onAlias i v
  | .changed i (.addresses v) => o.onAddresses i v
  | .changed i (.gateways v) => o.onGateways i v

/-! ## The event channel -/

/-- The queue between an observer and the reader of its events. -/
structure Channel where
  /-- Events sent and not yet read, oldest first. -/
  queue : List Event
  observerAlive : Bool
  streamAlive : Bool
deriving Repr, DecidableEq

/-- The answer to a reader. -/
inductive Poll where
  | event (e : Event)
  /-- Nothing is queued yet. -/
  | pending
  /-- Nothing is queued and nothing will be. -/
  | finished
deriving Repr, DecidableEq

namespace Channel

/-- A channel with both ends alive. -/
def new : Channel := ⟨[], true, true⟩

/-- Queues an event if anyone can still read it. -/
def send (e : Event) (c : Channel) : Channel :=
  if c.streamAlive then { c with queue := c.queue ++ [e] } else c

/-- The observer at the sending end. -/
def observer : Observer Channel where
  onAdded i := send (.added i)
  onRemoved i := send (.removed i)
  onEnabled i v := send (.changed i (.enabled v))
  onConnected i v := send (.changed i (.connected v))
  onAlias i v := send (.changed i (.aliasName v))
  onAddresses i v := send (.changed i (.addresses v))
  onGateways i v := send (.changed i (.gateways v))

/-- Takes the oldest event, or tells whether one can still come. -/
def poll (c : Channel) : Poll × Channel :=
  match c.queue with
  | e :: r => (.event e, { c with queue := r })
  | [] => (if c.observerAlive && c.streamAlive then .pending else .finished, c)

/-- Reads up to a number of events, until none is queued. -/
def readAll : Nat → Channel → List Event × Channel
  | 0, c => ([], c)
  | n + 1, c =>
    match c.poll with
    | (.event e, c) =>
      let (r, c) := readAll n c
      (e :: r, c)
    | (_, c) => ([], c)

/-- Closes the sending end. -/
def dropObserver (c : Channel) : Channel := { c with observerAlive := false }

/-- Closes the reading end; what is queued is lost. -/
def dropStream (c : Channel) : Channel := { c with streamAlive := false, queue := [] }

/-- True once the reading end is closed. -/
def isClosed (c : Channel) : Bool := !c.streamAlive

end Channel
end LinkWatch
