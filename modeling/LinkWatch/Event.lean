import LinkWatch.Interface

/-!
# Events

A change between two snapshots is a list of events: interfaces that went, interfaces that came,
and single fields that changed. Every event carries the record as it is after the change; the
event of an interface that went carries its last record.
-/

namespace LinkWatch

/-- A tracked field of an interface with its new value. -/
inductive FieldChange where
  | enabled (value : Bool)
  | connected (value : Bool)
  | aliasName (value : String)
  | addresses (value : List Assignment)
  | gateways (value : List IpAddress)
deriving Repr, DecidableEq

/-- A change observed between two snapshots. -/
inductive Event where
  | added (interface : Interface)
  | removed (interface : Interface)
  | changed (interface : Interface) (change : FieldChange)
deriving Repr, DecidableEq

namespace Event

/-- The record that the event carries. -/
def interface : Event → Interface
  | added i => i
  | removed i => i
  | changed i _ => i

/-- True for the arrival of an interface. -/
def isAdded : Event → Bool
  | added _ => true
  | _ => false

/-- True for the departure of an interface. -/
def isRemoved : Event → Bool
  | removed _ => true
  | _ => false

end Event

/-! ## Difference of two snapshots -/

/-- The tracked fields in which two records of an interface differ, with the values of the second,
in a fixed order. -/
def Interface.changes (old new : Interface) : List FieldChange :=
  (if old.isEnabled = new.isEnabled then [] else [.enabled new.isEnabled])
    ++ (if old.isConnected = new.isConnected then [] else [.connected new.isConnected])
    ++ (if old.aliasName = new.aliasName then [] else [.aliasName new.aliasName])
    ++ (if old.addresses = new.addresses then [] else [.addresses new.addresses])
    ++ (if old.gateways = new.gateways then [] else [.gateways new.gateways])

namespace Snapshot

/-- The departures between two snapshots, in key order. -/
def departures (previous next : Snapshot) : List Event :=
  (previous.entries.filter fun e => !next.contains e.1).map fun e => .removed e.2

/-- The arrivals between two snapshots, in key order. -/
def arrivals (previous next : Snapshot) : List Event :=
  (next.entries.filter fun e => !previous.contains e.1).map fun e => .added e.2

/-- The field changes between two snapshots, in key order. -/
def fieldChanges (previous next : Snapshot) : List Event :=
  previous.entries.flatMap fun e =>
    match next.get? e.1 with
    | some new => (e.2.changes new).map (.changed new)
    | none => []

/-- The events between two snapshots: departures, then arrivals, then field changes. -/
def diff (previous next : Snapshot) : List Event :=
  departures previous next ++ arrivals previous next ++ fieldChanges previous next

/-! ## Events as a patch -/

/-- What one event does to a snapshot: a departure deletes the id, an arrival or a change puts the
carried record under its id. -/
def applyEvent (s : Snapshot) : Event → Snapshot
  | .removed i => s.erase i.id
  | .added i => s.insert i.id i
  | .changed i _ => s.insert i.id i

/-- What a list of events does to a snapshot, in order. -/
def applyEvents (s : Snapshot) (events : List Event) : Snapshot :=
  events.foldl applyEvent s

end Snapshot
end LinkWatch
