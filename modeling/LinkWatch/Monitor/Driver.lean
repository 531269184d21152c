import LinkWatch.Interface

/-!
# Polling drivers

A driver feeds a monitor with snapshots. It may take a first snapshot when somebody waits for one,
and it runs from the moment it is started until it is stopped. Taking a snapshot and handing it
over are separate steps of the driver, because handing it over runs the observers, which may call
the driver again.
-/

namespace LinkWatch

/-- What a monitor asks of a driver. -/
class PollingDriver (δ : Type) where
  /-- Begins to wait for the first snapshot: what is to be handed over, if anything, before
  `endWait`. A wait that could never end has no result. -/
  beginWait : δ → Option (Option Snapshot × δ)
  /-- Ends a wait whose snapshot was handed over. -/
  endWait : δ → δ
  /-- The first observer came. -/
  start : δ → δ
  /-- The last observer went. -/
  stop : δ → δ
  /-- Begins one round of the worker, if one is at work: its number, and what is to be handed over
  before `endPoll`. -/
  beginPoll : δ → Option (Nat × Option Snapshot) × δ
  /-- Ends the round of a worker. -/
  endPoll : Nat → δ → δ

/-! ## Fed by hand -/

/-- A driver that hands over a given snapshot when it is first waited for, and counts what is
asked of it. -/
structure ManualDriver where
  initial : Option Snapshot
  enumerated : Bool
  /-- True once anybody has waited, so that snapshots have somewhere to go. -/
  hasSink : Bool
  waits : Nat
  starts : Nat
  stops : Nat

namespace ManualDriver

/-- A driver that nothing was asked of yet. -/
def new (initial : Option Snapshot) : ManualDriver := ⟨initial, false, false, 0, 0, 0⟩

instance : PollingDriver ManualDriver where
  beginWait d :=
    some (if d.enumerated then none else d.initial,
      { d with waits := d.waits + 1, hasSink := true, enumerated := true })
  endWait d := d
  start d := { d with starts := d.starts + 1 }
  stop d := { d with stops := d.stops + 1, enumerated := false }
  beginPoll d := (none, d)
  endPoll _ d := d

end ManualDriver
end LinkWatch
