import LinkWatch.Filter

/-!
# Taking snapshots

A fetcher takes the snapshots that a monitor is fed with. A script is a fetcher whose outcomes are
written down beforehand; a filtered fetcher drops what its filter rejects, so that to the monitor
a rejected interface is an absent one.
-/

namespace LinkWatch

/-- What comes of taking a snapshot. -/
inductive FetchOutcome where
  | snapshot (s : Snapshot)
  | failure (e : FetchError)
  /-- A failure that also ends the worker whose round meets it. Crashes are for rounds only: for a
  caller that waits this is a failure like any other. -/
  | crash (e : FetchError)

/-- The snapshot, if one was taken. -/
def FetchOutcome.snapshot? : FetchOutcome → Option Snapshot
  | snapshot s => some s
  | _ => none

/-- The outcome as a caller of the fetcher sees it. -/
def FetchOutcome.result : FetchOutcome → Except FetchError Snapshot
  | snapshot s => .ok s
  | failure e => .error e
  | crash e => .error e

/-- Something that snapshots can be taken from. -/
class Fetcher (φ : Type) where
  fetch : φ → FetchOutcome × φ

/-! ## Scripts -/

/-- Outcomes that are written down, used one for each fetch. When none is left the last snapshot
is repeated. -/
structure Script where
  upcoming : List FetchOutcome
  /-- The last snapshot that was handed out. -/
  last : Snapshot
  /-- How many fetches were made. -/
  fetched : Nat

namespace Script

/-- A script from which nothing was fetched yet. -/
def new (outcomes : List FetchOutcome) : Script := ⟨outcomes, .empty, 0⟩

/-- Uses the next outcome. -/
def fetch (s : Script) : FetchOutcome × Script :=
  match s.upcoming with
  | [] => (.snapshot s.last, { s with fetched := s.fetched + 1 })
  | o :: r => (o, ⟨r, o.snapshot?.getD s.last, s.fetched + 1⟩)

instance : Fetcher Script := ⟨fetch⟩

end Script

/-! ## Filtered fetchers -/

/-- A fetcher whose snapshots are cut down by a filter. -/
structure FilteredFetcher (φ : Type) where
  inner : φ
  filter : Filter (String → Bool)

/-- Cuts down the snapshot, if one was taken. -/
def FetchOutcome.restrict (f : Filter (String → Bool)) : FetchOutcome → FetchOutcome
  | snapshot s => .snapshot (f.restrict s)
  | failure e => .failure e
  | crash e => .crash e

instance {φ : Type} [Fetcher φ] : Fetcher (FilteredFetcher φ) where
  fetch f :=
    let (o, inner) := Fetcher.fetch f.inner
    (o.restrict f.filter, { f with inner := inner })

end LinkWatch
