import Mathlib.Data.List.Basic
import LinkWatch.Proofs.Difference.Stream
import LinkWatch.Proofs.Filter

/-!
# Differences of filtered snapshots

Behind a filter an interface that is not accepted looks like one that is not there. So the difference of
two filtered snapshots is more than a part of the difference of the snapshots themselves: an interface
goes when its record is accepted no longer, though it may still be there, and it comes when its record
is accepted for the first time, though it may have been there before. Only the field changes are taken
over as they are, for the interfaces that are accepted on both sides (`diff_restrict`).

The three passes are looked at one by one. The two about arrivals and departures see only which ids are
shown; in the third one an entry either keeps all of its changes or loses all of them
(`fieldChanges_restrict`).
-/

namespace LinkWatch.Snapshot

variable (f : Filter (String → Bool)) {p n : Snapshot}

/-! ## Changes among the events -/

/-- The changes of a difference are what its last pass finds. -/
theorem filter_isChange_diff (p n : Snapshot) : (diff p n).filter Event.isChange = fieldChanges p n := by
  have hdepartures : (departures p n).filter Event.isChange = [] := by
    rw [List.filter_eq_nil_iff]
    intro e he
    obtain ⟨k, old, -, -, rfl⟩ := mem_departures.1 he
    exact Bool.false_ne_true
  have harrivals : (arrivals p n).filter Event.isChange = [] := by
    rw [List.filter_eq_nil_iff]
    intro e he
    obtain ⟨k, new, -, -, rfl⟩ := mem_arrivals.1 he
    exact Bool.false_ne_true
  have hchanges : (fieldChanges p n).filter Event.isChange = fieldChanges p n := by
    rw [List.filter_eq_self]
    intro e he
    obtain ⟨k, old, new, field, -, -, -, rfl⟩ := mem_fieldChanges.1 he
    rfl
  rw [diff, List.filter_append, List.filter_append, hdepartures, harrivals, hchanges]
  rfl

/-! ## The three passes -/

theorem departures_restrict (p n : Snapshot) :
    departures (f.restrict p) (f.restrict n) =
      (p.entries.filter fun e => f.shows p e.1 && !f.shows n e.1).map fun e => .removed e.2 := by
  have hentries : (f.restrict p).entries = p.entries.filter fun e => f.accepts e.2 := rfl
  rw [departures, hentries, List.filter_filter]
  congr 1
  refine List.filter_congr ?_
  intro e he
  rw [f.contains_restrict, Filter.shows_of_mem_entries he, Bool.and_comm]

theorem arrivals_restrict (p n : Snapshot) :
    arrivals (f.restrict p) (f.restrict n) =
      (n.entries.filter fun e => f.shows n e.1 && !f.shows p e.1).map fun e => .added e.2 := by
  have hentries : (f.restrict n).entries = n.entries.filter fun e => f.accepts e.2 := rfl
  rw [arrivals, hentries, List.filter_filter]
  congr 1
  refine List.filter_congr ?_
  intro e he
  rw [f.contains_restrict, Filter.shows_of_mem_entries he, Bool.and_comm]

/-- What the entries that pass a test bring about, as what all of them do. -/
theorem flatMap_filter_eq (l : List (String × Interface)) (q : String × Interface → Bool)
    (g : String × Interface → List Event) :
    (l.filter q).flatMap g = l.flatMap fun x => if q x then g x else [] := by
  induction l with
  | nil => rfl
  | cons x r ih => cases hq : q x <;> simp [hq, ih]

/-- The changes of an interface all carry its new record, so they are shown together or not at all. -/
theorem fieldChanges_restrict (hn : n.IsKeyed) :
    fieldChanges (f.restrict p) (f.restrict n) =
      (fieldChanges p n).filter fun e => f.shows p e.interface.id && f.shows n e.interface.id := by
  have hentries : (f.restrict p).entries = p.entries.filter fun e => f.accepts e.2 := rfl
  rw [fieldChanges, fieldChanges, hentries, flatMap_filter_eq, List.filter_flatMap]
  refine List.flatMap_congr ?_
  intro x hx
  rw [f.get?_restrict, ← Filter.shows_of_mem_entries hx]
  cases hnew : n.get? x.1 with
  | none => simp
  | some new =>
    -- whether a change of this entry is shown depends on its id alone
    have hid : new.id = x.1 := hn _ _ hnew
    have hshown : f.shows n x.1 = f.accepts new := by simp [Filter.shows, hnew]
    have hsame (c : FieldChange) : (f.shows p (Event.changed new c).interface.id &&
        f.shows n (Event.changed new c).interface.id) = (f.shows p x.1 && f.accepts new) := by
      rw [← hshown, ← hid]
      rfl
    rw [List.filter_map]
    cases hold : f.shows p x.1 <;> cases haccepts : f.accepts new <;>
      simp [Option.filter, haccepts, Function.comp_def, hsame, hold]

/-! ## Main result -/

/-- Behind a filter, which keeps the accepted records of a snapshot, a change is told as the departures
of the interfaces that are shown before and not after, the arrivals of those that are shown after and
not before, both in the order of the ids, and the field changes of those that are shown on both sides.
The field changes are those of the unfiltered snapshots, in the same order. It does not matter how
the filter is made up; a chain inside it decides like a filter of its own. -/
theorem diff_restrict (hn : n.IsKeyed) :
    (∀ includes excludes i, (Matcher.chain includes excludes).accepts i =
      (⟨includes, excludes⟩ : Filter (String → Bool)).accepts i) ∧
    (∀ s k, (f.restrict s).get? k = (s.get? k).filter f.accepts) ∧
    diff (f.restrict p) (f.restrict n) =
      ((p.entries.filter fun e => f.shows p e.1 && !f.shows n e.1).map fun e => .removed e.2) ++
      ((n.entries.filter fun e => f.shows n e.1 && !f.shows p e.1).map fun e => .added e.2) ++
      (diff p n).filter fun e =>
        e.isChange && (f.shows p e.interface.id && f.shows n e.interface.id) := by
  refine ⟨Matcher.accepts_chain, f.get?_restrict, ?_⟩
  have hchanges : ((diff p n).filter fun e =>
      e.isChange && (f.shows p e.interface.id && f.shows n e.interface.id)) =
        fieldChanges (f.restrict p) (f.restrict n) := by
    rw [fieldChanges_restrict f hn, ← filter_isChange_diff, List.filter_filter]
    exact List.filter_congr fun e _ => Bool.and_comm _ _
  rw [hchanges, diff, departures_restrict, arrivals_restrict]

/-- Three cards, of which one goes into hiding, one comes out of it, and one is switched on. All events
of the difference are changes; behind a filter there is one of each phase. -/
theorem diff_restrict_of_hiding :
    let card (id name : String) (up : Bool) : Interface :=
      { Interface.new id .ethernet with aliasName := name, isEnabled := up }
    let p : Snapshot := ((Keyed.empty.insert "eth0" (card "eth0" "uplink" true)).insert "eth1"
      (card "eth1" "hidden" true)).insert "usb0" (card "usb0" "dock" false)
    let n : Snapshot := ((Keyed.empty.insert "eth0" (card "eth0" "hidden" true)).insert "eth1"
      (card "eth1" "uplink" true)).insert "usb0" (card "usb0" "dock" true)
    let f : Filter (String → Bool) := ⟨[], [.chain [.name (· == "hidden")] [.virtual]]⟩
    n.IsKeyed ∧ (diff p n).map Event.phase = [2, 2, 2] ∧
      (diff (f.restrict p) (f.restrict n)).map (fun e => (e.phase, e.interface.id)) =
        [(0, "eth0"), (1, "eth1"), (2, "usb0")] := by
  intro card p n f
  have hn : n.IsKeyed := by decide +kernel
  obtain ⟨-, -, hdiff⟩ := diff_restrict f (p := p) hn
  refine ⟨hn, by decide +kernel, ?_⟩
  rw [hdiff]
  decide +kernel

end LinkWatch.Snapshot
