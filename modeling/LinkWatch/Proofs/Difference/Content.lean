import LinkWatch.Proofs.Difference

/-!
# What a difference consists of

A difference is described twice: by the events in it (`Snapshot.Reports`), without the passes that
find them, and by the order in which they come (`Event.Precedes`): departures, arrivals, changes,
each by id, and the changes of one interface by field. Both together determine the whole list
(`diff_exact_and_ordered`), since no event can come twice in a strict order.
-/

namespace LinkWatch

/-! ## Tracked fields -/

/-- The fields of a record whose changes are told. -/
inductive TrackedField where
  | enabled
  | connected
  | aliasName
  | addresses
  | gateways
deriving DecidableEq

namespace TrackedField

/-- All tracked fields, in the order in which their changes are told. -/
def all : List TrackedField := [enabled, connected, aliasName, addresses, gateways]

/-- The place of a field in this order. -/
def place : TrackedField → Nat
  | enabled => 0
  | connected => 1
  | aliasName => 2
  | addresses => 3
  | gateways => 4

/-- No tracked field is missing from the list. -/
theorem mem_all (f : TrackedField) : f ∈ all := by
  cases f <;> decide

/-- The tracked fields are listed in the order of their places. -/
theorem pairwise_all : all.Pairwise fun f g => f.place < g.place := by decide

end TrackedField

/-- The field that a change is a change of. -/
def FieldChange.field : FieldChange → TrackedField
  | enabled _ => .enabled
  | connected _ => .connected
  | aliasName _ => .aliasName
  | addresses _ => .addresses
  | gateways _ => .gateways

namespace Interface

/-- The value of a tracked field, as the change to this value. -/
def tracked (i : Interface) : TrackedField → FieldChange
  | .enabled => .enabled i.isEnabled
  | .connected => .connected i.isConnected
  | .aliasName => .aliasName i.aliasName
  | .addresses => .addresses i.addresses
  | .gateways => .gateways i.gateways

@[simp] theorem field_tracked (i : Interface) (f : TrackedField) : (i.tracked f).field = f := by
  cases f <;> rfl

/-- Two records agree in what is tracked if they agree in every tracked field. -/
theorem sameTracked_iff {i j : Interface} :
    i.SameTracked j ↔ ∀ f, i.tracked f = j.tracked f := by
  constructor
  · rintro ⟨h1, h2, h3, h4, h5⟩ f
    cases f <;> simp [tracked, h1, h2, h3, h4, h5]
  · intro h
    have h1 := h .enabled
    have h2 := h .connected
    have h3 := h .aliasName
    have h4 := h .addresses
    have h5 := h .gateways
    simp only [tracked, FieldChange.enabled.injEq, FieldChange.connected.injEq,
      FieldChange.aliasName.injEq, FieldChange.addresses.injEq, FieldChange.gateways.injEq]
      at h1 h2 h3 h4 h5
    exact ⟨h1, h2, h3, h4, h5⟩

/-- The five comparisons are one for every tracked field. -/
theorem changes_eq_filter (old new : Interface) :
    old.changes new =
      (TrackedField.all.filter fun f => old.tracked f ≠ new.tracked f).map new.tracked := by
  -- one comparison contributes one change or none, whatever the field
  have hone (f : TrackedField) (r : List TrackedField) :
      ((f :: r).filter fun f => old.tracked f ≠ new.tracked f).map new.tracked =
        (if old.tracked f = new.tracked f then [] else [new.tracked f]) ++
          (r.filter fun f => old.tracked f ≠ new.tracked f).map new.tracked := by
    by_cases h : old.tracked f = new.tracked f <;> simp [h]
  rw [TrackedField.all, hone, hone, hone, hone, hone]
  simp [changes, tracked]

/-- A change of an interface reports the new value of a tracked field that differs. -/
theorem mem_changes {old new : Interface} {c : FieldChange} :
    c ∈ old.changes new ↔ ∃ f, old.tracked f ≠ new.tracked f ∧ c = new.tracked f := by
  rw [changes_eq_filter, List.mem_map]
  constructor
  · rintro ⟨f, hf, rfl⟩
    exact ⟨f, by simpa using (List.mem_filter.1 hf).2, rfl⟩
  · rintro ⟨f, hf, rfl⟩
    exact ⟨f, List.mem_filter.2 ⟨f.mem_all, by simpa using hf⟩, rfl⟩

/-- The changes of one interface come in the order of the fields. -/
theorem pairwise_changes (old new : Interface) :
    (old.changes new).Pairwise fun c d => c.field.place < d.field.place := by
  rw [changes_eq_filter, List.pairwise_map]
  simp only [field_tracked]
  exact TrackedField.pairwise_all.filter _

end Interface

/-! ## The order of events -/

namespace Event

/-- Departures come first, then arrivals, then changes. -/
def phase : Event → Nat
  | removed _ => 0
  | added _ => 1
  | changed .. => 2

/-- The place of the field that changed, if one did. -/
def fieldPlace : Event → Nat
  | changed _ c => c.field.place
  | _ => 0

/-- One event comes before another: by phase, then by id, then by field. -/
def Precedes (e f : Event) : Prop :=
  e.phase < f.phase ∨ e.phase = f.phase ∧ (e.interface.id < f.interface.id ∨
    e.interface.id = f.interface.id ∧ e.fieldPlace < f.fieldPlace)

/-- No event stands before itself. -/
theorem Precedes.ne {e f : Event} (h : e.Precedes f) : e ≠ f := by
  rintro rfl
  rcases h with hphase | ⟨-, hid | ⟨-, hfield⟩⟩
  · exact Nat.lt_irrefl _ hphase
  · exact String.lt_irrefl _ hid
  · exact Nat.lt_irrefl _ hfield

end Event

namespace Snapshot

/-! ## Which events there are -/

/-- The events that a change from one snapshot to another is to be told as. -/
inductive Reports (p s : Snapshot) : Event → Prop
  | removed {k : String} {old : Interface} (hp : p.get? k = some old) (hs : s.get? k = none) :
      Reports p s (.removed old)
  | added {k : String} {new : Interface} (hp : p.get? k = none) (hs : s.get? k = some new) :
      Reports p s (.added new)
  | changed {k : String} {old new : Interface} {f : TrackedField} (hp : p.get? k = some old)
      (hs : s.get? k = some new) (hf : old.tracked f ≠ new.tracked f) :
      Reports p s (.changed new (new.tracked f))

variable {p s : Snapshot} {e : Event}

theorem contains_eq_false_iff {k : String} : s.contains k = false ↔ s.get? k = none := by
  rw [Keyed.contains, Option.isSome_eq_false_iff, Option.isNone_iff_eq_none]

/-- A departure reports the old record of an interface that is gone. -/
theorem mem_departures :
    e ∈ departures p s ↔ ∃ k old, p.get? k = some old ∧ s.get? k = none ∧ e = .removed old := by
  rw [departures, List.mem_map]
  constructor
  · rintro ⟨⟨k, old⟩, hmem, rfl⟩
    obtain ⟨hp, hs⟩ := List.mem_filter.1 hmem
    exact ⟨k, old, Keyed.mem_entries_iff.1 hp, contains_eq_false_iff.1 (by simpa using hs), rfl⟩
  · rintro ⟨k, old, hp, hs, rfl⟩
    refine ⟨(k, old), List.mem_filter.2 ⟨Keyed.mem_entries_iff.2 hp, ?_⟩, rfl⟩
    simpa using contains_eq_false_iff.2 hs

/-- An arrival reports the new record of an interface that was not there. -/
theorem mem_arrivals :
    e ∈ arrivals p s ↔ ∃ k new, p.get? k = none ∧ s.get? k = some new ∧ e = .added new := by
  rw [arrivals, List.mem_map]
  constructor
  · rintro ⟨⟨k, new⟩, hmem, rfl⟩
    obtain ⟨hs, hp⟩ := List.mem_filter.1 hmem
    exact ⟨k, new, contains_eq_false_iff.1 (by simpa using hp), Keyed.mem_entries_iff.1 hs, rfl⟩
  · rintro ⟨k, new, hp, hs, rfl⟩
    refine ⟨(k, new), List.mem_filter.2 ⟨Keyed.mem_entries_iff.2 hs, ?_⟩, rfl⟩
    simpa using contains_eq_false_iff.2 hp

/-- A field change reports a tracked field of an interface that stays, with the new record. -/
theorem mem_fieldChanges :
    e ∈ fieldChanges p s ↔ ∃ k old new f, p.get? k = some old ∧ s.get? k = some new ∧
      old.tracked f ≠ new.tracked f ∧ e = .changed new (new.tracked f) := by
  rw [fieldChanges, List.mem_flatMap]
  constructor
  · rintro ⟨⟨k, old⟩, hp, he⟩
    -- an interface that has gone is left to the departures
    split at he
    · next new hs =>
      obtain ⟨c, hc, rfl⟩ := List.mem_map.1 he
      obtain ⟨f, hf, rfl⟩ := Interface.mem_changes.1 hc
      exact ⟨k, old, new, f, Keyed.mem_entries_iff.1 hp, hs, hf, rfl⟩
    · cases he
  · rintro ⟨k, old, new, f, hp, hs, hf, rfl⟩
    refine ⟨(k, old), Keyed.mem_entries_iff.2 hp, ?_⟩
    simp only [hs]
    exact List.mem_map_of_mem (Interface.mem_changes.2 ⟨f, hf, rfl⟩)

/-- The three passes find these events and no others. -/
theorem mem_diff : e ∈ diff p s ↔ Reports p s e := by
  rw [diff, List.mem_append, List.mem_append, mem_departures, mem_arrivals, mem_fieldChanges]
  constructor
  · rintro ((⟨k, old, hp, hs, rfl⟩ | ⟨k, new, hp, hs, rfl⟩) | ⟨k, old, new, f, hp, hs, hf, rfl⟩)
    · exact .removed hp hs
    · exact .added hp hs
    · exact .changed hp hs hf
  · intro h
    cases h with
    | @removed k old hp hs => exact .inl (.inl ⟨k, old, hp, hs, rfl⟩)
    | @added k new hp hs => exact .inl (.inr ⟨k, new, hp, hs, rfl⟩)
    | @changed k old new f hp hs hf => exact .inr ⟨k, old, new, f, hp, hs, hf, rfl⟩

/-- Nothing is to be told exactly when the snapshots agree. -/
theorem agrees_iff_not_reports : p.Agrees s ↔ ∀ e, ¬ Reports p s e := by
  constructor
  · -- each kind of event has a reason that contradicts the agreement about its interface
    intro h e he
    cases he with
    | @removed k old hp hs =>
      have hk := h k
      rw [hp, hs] at hk
      cases hk
    | @added k new hp hs =>
      have hk := h k
      rw [hp, hs] at hk
      cases hk
    | @changed k old new f hp hs hf =>
      have hk := h k
      rw [hp, hs, Option.rel_some_some] at hk
      exact hf (Interface.sameTracked_iff.1 hk f)
  · -- an identifier is in neither snapshot, or in one of them, or its two records are compared
    intro h k
    cases hp : p.get? k with
    | none =>
      cases hs : s.get? k with
      | none => exact .none
      | some new => exact absurd (.added hp hs) (h _)
    | some old =>
      cases hs : s.get? k with
      | none => exact absurd (.removed hp hs) (h _)
      | some new =>
        refine .some (Interface.sameTracked_iff.2 fun f => ?_)
        by_contra hf
        exact h _ (.changed hp hs hf)

/-- Nothing is reported if and only if the snapshots agree in what is tracked. -/
theorem diff_eq_nil_iff : diff p s = [] ↔ p.Agrees s := by
  rw [List.eq_nil_iff_forall_not_mem, agrees_iff_not_reports]
  exact forall_congr' fun e => not_congr mem_diff

/-! ## In which order they come -/

/-- Events of one phase, one for each of some entries, come in the order of the entries. -/
theorem pairwise_map_entries {l : List (String × Interface)} {f : Interface → Event} {n : Nat}
    (hsorted : l.Pairwise fun x y => x.1 < y.1) (hphase : ∀ i, (f i).phase = n)
    (hid : ∀ x ∈ l, (f x.2).interface.id = x.1) :
    (l.map fun x => f x.2).Pairwise Event.Precedes := by
  rw [List.pairwise_map]
  refine hsorted.imp_of_mem fun hx hy hlt => .inr ⟨?_, .inl ?_⟩
  · rw [hphase, hphase]
  · rwa [hid _ hx, hid _ hy]

/-- Departures come in the order of the identifiers. -/
theorem pairwise_departures (hp : p.IsKeyed) : (departures p s).Pairwise Event.Precedes := by
  refine pairwise_map_entries (f := .removed) (p.sorted.filter _) (fun _ => rfl) fun x hx => ?_
  exact hp.id_of_mem (List.mem_filter.1 hx).1

/-- Arrivals come in the order of the identifiers. -/
theorem pairwise_arrivals (hs : s.IsKeyed) : (arrivals p s).Pairwise Event.Precedes := by
  refine pairwise_map_entries (f := .added) (s.sorted.filter _) (fun _ => rfl) fun x hx => ?_
  exact hs.id_of_mem (List.mem_filter.1 hx).1

/-- Field changes come in the order of the identifiers, and within one interface in the order of the
fields. -/
theorem pairwise_fieldChanges (hs : s.IsKeyed) : (fieldChanges p s).Pairwise Event.Precedes := by
  rw [fieldChanges, List.pairwise_flatMap]
  constructor
  · -- the changes of one interface
    intro x _
    split
    · rw [List.pairwise_map]
      exact (Interface.pairwise_changes _ _).imp fun hlt => .inr ⟨rfl, .inr ⟨rfl, hlt⟩⟩
    · exact .nil
  · -- the changes of two interfaces
    refine p.sorted.imp fun {x y} hlt e he f hf => ?_
    split at he
    · next new hnew =>
      split at hf
      · next new' hnew' =>
        obtain ⟨c, -, rfl⟩ := List.mem_map.1 he
        obtain ⟨d, -, rfl⟩ := List.mem_map.1 hf
        refine .inr ⟨rfl, .inl ?_⟩
        change new.id < new'.id
        rwa [hs _ _ hnew, hs _ _ hnew']
      · cases hf
    · cases he

theorem phase_of_mem_departures (h : e ∈ departures p s) : e.phase = 0 := by
  obtain ⟨k, old, -, -, rfl⟩ := mem_departures.1 h
  rfl

theorem phase_of_mem_arrivals (h : e ∈ arrivals p s) : e.phase = 1 := by
  obtain ⟨k, new, -, -, rfl⟩ := mem_arrivals.1 h
  rfl

theorem phase_of_mem_fieldChanges (h : e ∈ fieldChanges p s) : e.phase = 2 := by
  obtain ⟨k, old, new, f, -, -, -, rfl⟩ := mem_fieldChanges.1 h
  rfl

/-- Every event of a difference stands before the ones after it. -/
theorem pairwise_diff (hp : p.IsKeyed) (hs : s.IsKeyed) : (diff p s).Pairwise Event.Precedes := by
  rw [diff, List.pairwise_append, List.pairwise_append]
  refine ⟨⟨pairwise_departures hp, pairwise_arrivals hs, ?_⟩, pairwise_fieldChanges hs, ?_⟩
  -- between two passes the phase decides
  · intro e he f hf
    left
    rw [phase_of_mem_departures he, phase_of_mem_arrivals hf]
    decide
  · intro e he f hf
    left
    rw [phase_of_mem_fieldChanges hf]
    rcases List.mem_append.1 he with he | he
    · rw [phase_of_mem_departures he]
      decide
    · rw [phase_of_mem_arrivals he]
      decide

/-! ## Main result -/

/-- A difference holds the events that are to be told and no others, in strictly increasing order
and hence each of them once. It is empty exactly when the snapshots have the same ids and agree in
every tracked field. -/
theorem diff_exact_and_ordered (hp : p.IsKeyed) (hs : s.IsKeyed) :
    (∀ e, e ∈ diff p s ↔ Reports p s e) ∧ (diff p s).Pairwise Event.Precedes ∧ (diff p s).Nodup ∧
      (diff p s = [] ↔ p.Agrees s) :=
  ⟨fun _ => mem_diff, pairwise_diff hp hs, (pairwise_diff hp hs).imp Event.Precedes.ne,
    diff_eq_nil_iff⟩

/-- A snapshot of three interfaces. -/
def homeSnapshot : Snapshot :=
  ((Keyed.empty.insert "eth0" (.new "eth0" .ethernet)).insert "lo" (.new "lo" .loopback)).insert
    "usb0" (.new "usb0" .ethernet)

/-- The snapshot after one of them was enabled and renamed, one has gone, one has another
description, which is not tracked, and a new one has come. -/
def awaySnapshot : Snapshot :=
  ((Keyed.empty.insert "eth0" { Interface.new "eth0" .ethernet with
    isEnabled := true, aliasName := "uplink" }).insert "usb0" { Interface.new "usb0" .ethernet with
    description := "dock" }).insert "wlan0" (.new "wlan0" .wifi)

/-- One interface is gone, one is new and one has changed in two fields. -/
theorem diff_exact_and_ordered_away :
    homeSnapshot.IsKeyed ∧ awaySnapshot.IsKeyed ∧
      (diff homeSnapshot awaySnapshot).map (fun e => (e.phase, e.interface.id, e.fieldPlace)) =
        [(0, "lo", 0), (1, "wlan0", 0), (2, "eth0", 0), (2, "eth0", 2)] ∧
      (∀ e, e ∈ diff homeSnapshot awaySnapshot ↔ Reports homeSnapshot awaySnapshot e) ∧
      (diff homeSnapshot awaySnapshot).Pairwise Event.Precedes ∧
      (diff homeSnapshot awaySnapshot).Nodup ∧
      (diff homeSnapshot awaySnapshot = [] ↔ homeSnapshot.Agrees awaySnapshot) := by
  have hhome : homeSnapshot.IsKeyed := by decide +kernel
  have haway : awaySnapshot.IsKeyed := by decide +kernel
  exact ⟨hhome, haway, by decide +kernel, diff_exact_and_ordered hhome haway⟩

end Snapshot
end LinkWatch
