import Mathlib.Data.List.Induction
import LinkWatch.Event
import LinkWatch.Proofs.Keyed

/-!
# The difference of two snapshots, one interface at a time

The events between two snapshots come from three passes over the maps. Seen from a single interface
they are simple: `filter_diff` gives the events of one interface from its two records alone, and
`get?_applyEvents` says that of the events that are applied to a map only the last one of an
interface counts for that interface. Together they say what a difference does to a map that need
not be the first snapshot itself (`applyEvents_diff_agrees`).
-/

namespace LinkWatch

/-! ## Records and events -/

/-- Two records that differ at most in fields that are not tracked. -/
def Interface.SameTracked (i j : Interface) : Prop :=
  i.isEnabled = j.isEnabled ∧ i.isConnected = j.isConnected ∧ i.aliasName = j.aliasName ∧
    i.addresses = j.addresses ∧ i.gateways = j.gateways

theorem Interface.SameTracked.refl (i : Interface) : i.SameTracked i := ⟨rfl, rfl, rfl, rfl, rfl⟩

theorem Interface.SameTracked.trans {i j k : Interface} (h : i.SameTracked j)
    (h' : j.SameTracked k) : i.SameTracked k := by
  obtain ⟨h1, h2, h3, h4, h5⟩ := h
  obtain ⟨h1', h2', h3', h4', h5'⟩ := h'
  exact ⟨h1.trans h1', h2.trans h2', h3.trans h3', h4.trans h4', h5.trans h5'⟩

/-- There is no change to tell exactly when the tracked fields are the same. -/
theorem Interface.changes_eq_nil_iff {old new : Interface} :
    old.changes new = [] ↔ old.SameTracked new := by
  simp [changes, SameTracked]

/-- The record that an event leaves under its id. -/
def Event.after : Event → Option Interface
  | .removed _ => none
  | .added i => some i
  | .changed i _ => some i

namespace Snapshot

/-- Every record stands under its own id. -/
def IsKeyed (s : Snapshot) : Prop := ∀ k i, s.get? k = some i → i.id = k

theorem isKeyed_empty : IsKeyed .empty := by
  intro k i h
  simp at h

theorem IsKeyed.id_of_mem {s : Snapshot} (h : s.IsKeyed) {e : String × Interface}
    (he : e ∈ s.entries) : e.2.id = e.1 := by
  obtain ⟨k, i⟩ := e
  exact h k i (Keyed.mem_entries_iff.1 he)

/-- In a keyed snapshot every record is under its own identifier. -/
theorem isKeyed_iff {s : Snapshot} : s.IsKeyed ↔ ∀ e ∈ s.entries, e.2.id = e.1 :=
  ⟨fun h _ he => h.id_of_mem he, fun h _ _ hi => h _ (Keyed.mem_entries_iff.2 hi)⟩

instance (s : Snapshot) : Decidable s.IsKeyed := decidable_of_iff' _ isKeyed_iff

/-- Two snapshots have the same ids, and the same tracked fields under each id. -/
def Agrees (s t : Snapshot) : Prop := ∀ k, Option.Rel Interface.SameTracked (s.get? k) (t.get? k)

theorem Agrees.refl (s : Snapshot) : s.Agrees s := by
  intro k
  cases s.get? k with
  | none => exact .none
  | some i => exact .some (.refl i)

/-! ## The events of one interface -/

/-- The events that two records of one interface bring about, where a missing record means that
the interface is absent. -/
def recordEvents : Option Interface → Option Interface → List Event
  | some old, none => [.removed old]
  | none, some new => [.added new]
  | some old, some new => (old.changes new).map (.changed new)
  | none, none => []

/-- Of events that come from entries, each about the key of its entry, the ones about a key are
those from the entries under it. -/
theorem filter_flatMap_key {l : List (String × Interface)} {f : String × Interface → List Event}
    (k : String) (h : ∀ x ∈ l, ∀ e ∈ f x, e.interface.id = x.1) :
    (l.flatMap f).filter (·.interface.id == k) = (l.filter (·.1 == k)).flatMap f := by
  induction l with
  | nil => rfl
  | cons x r ih =>
    have hx := h x List.mem_cons_self
    have hr := ih fun y hy => h y (List.mem_cons_of_mem _ hy)
    rw [List.flatMap_cons, List.filter_append, hr]
    -- all events of an entry are about its key, so all of them stay or none does
    by_cases hk : x.1 = k
    · have hall : (f x).filter (·.interface.id == k) = f x := by
        rw [List.filter_eq_self]
        intro e he
        simp [hx e he, hk]
      rw [hall, List.filter_cons_of_pos (by simpa using hk), List.flatMap_cons]
    · have hnone : (f x).filter (·.interface.id == k) = [] := by
        rw [List.filter_eq_nil_iff]
        intro e he
        simp [hx e he, hk]
      rw [hnone, List.filter_cons_of_neg (by simpa using hk), List.nil_append]

/-- Departures and arrivals as events that come from entries. -/
theorem map_filter_eq_flatMap (l : List (String × Interface)) (p : String × Interface → Bool)
    (f : String × Interface → Event) :
    (l.filter p).map f = l.flatMap fun x => if p x then [f x] else [] := by
  induction l with
  | nil => rfl
  | cons x r ih => cases hp : p x <;> simp [hp, ih]

/-- Of one identifier there is one departure at most. -/
theorem filter_departures {p s : Snapshot} (hp : p.IsKeyed) (k : String) :
    (departures p s).filter (·.interface.id == k) =
      if (s.get? k).isSome then [] else ((p.get? k).map Event.removed).toList := by
  rw [departures, map_filter_eq_flatMap, filter_flatMap_key, Keyed.filter_entries_key]
  · cases p.get? k <;> cases hs : s.get? k <;> simp [Keyed.contains, hs]
  · intro x hx e he
    have hid := hp.id_of_mem hx
    split at he <;> simp_all [Event.interface]

/-- Of one identifier there is one arrival at most. -/
theorem filter_arrivals {p s : Snapshot} (hs : s.IsKeyed) (k : String) :
    (arrivals p s).filter (·.interface.id == k) =
      if (p.get? k).isSome then [] else ((s.get? k).map Event.added).toList := by
  rw [arrivals, map_filter_eq_flatMap, filter_flatMap_key, Keyed.filter_entries_key]
  · cases s.get? k <;> cases hp : p.get? k <;> simp [Keyed.contains, hp]
  · intro x hx e he
    have hid := hs.id_of_mem hx
    split at he <;> simp_all [Event.interface]

/-- The field changes of one identifier are the changes between its two records. -/
theorem filter_fieldChanges {p s : Snapshot} (hs : s.IsKeyed) (k : String) :
    (fieldChanges p s).filter (·.interface.id == k) =
      match p.get? k, s.get? k with
      | some old, some new => (old.changes new).map (.changed new)
      | _, _ => [] := by
  rw [fieldChanges, filter_flatMap_key, Keyed.filter_entries_key]
  · cases p.get? k <;> cases h : s.get? k <;> simp [h]
  · intro x _ e he
    split at he
    · next new hnew =>
      obtain ⟨c, -, rfl⟩ := List.mem_map.1 he
      exact hs _ _ hnew
    · simp at he

/-- The events of one interface between two snapshots are those of its two records. -/
theorem filter_diff {p s : Snapshot} (hp : p.IsKeyed) (hs : s.IsKeyed) (k : String) :
    (diff p s).filter (·.interface.id == k) = recordEvents (p.get? k) (s.get? k) := by
  rw [diff, List.filter_append, List.filter_append, filter_departures hp, filter_arrivals hs,
    filter_fieldChanges hs]
  cases p.get? k <;> cases s.get? k <;> simp [recordEvents]

/-! ## Events as a patch -/

/-- An event changes the record of its own interface only. -/
theorem get?_applyEvent (s : Snapshot) (e : Event) (k : String) :
    (s.applyEvent e).get? k = if e.interface.id = k then e.after else s.get? k := by
  cases e <;> simp [applyEvent, Event.after, Event.interface, eq_comm]

/-- Events are applied one after another. -/
theorem applyEvents_append (s : Snapshot) (es fs : List Event) :
    s.applyEvents (es ++ fs) = (s.applyEvents es).applyEvents fs :=
  List.foldl_append

/-- Of several events only the last one about an interface counts for it. -/
theorem get?_applyEvents (s : Snapshot) (es : List Event) (k : String) :
    (s.applyEvents es).get? k =
      match (es.filter (·.interface.id == k)).getLast? with
      | some e => e.after
      | none => s.get? k := by
  -- from the right, because the last event decides
  induction es using List.reverseRecOn with
  | nil => rfl
  | append_singleton es e ih =>
    rw [applyEvents_append]
    change ((s.applyEvents es).applyEvent e).get? k = _
    rw [get?_applyEvent, List.filter_append]
    by_cases h : e.interface.id = k
    · simp [h]
    · simp [h, ih]

/-- The difference of two snapshots takes every map that agrees with the first one to a map that
agrees with the second one. -/
theorem applyEvents_diff_agrees {m p s : Snapshot} (h : m.Agrees p) (hp : p.IsKeyed)
    (hs : s.IsKeyed) : (m.applyEvents (diff p s)).Agrees s := by
  intro k
  have hk := h k
  rw [get?_applyEvents, filter_diff hp hs]
  cases hpk : p.get? k with
  | none =>
    rw [hpk] at hk
    cases hsk : s.get? k with
    | none => simpa [recordEvents] using hk
    | some new =>
      -- an arrival carries the new record
      simpa [recordEvents, Event.after] using Interface.SameTracked.refl new
  | some old =>
    rw [hpk] at hk
    cases hsk : s.get? k with
    | none => simp [recordEvents, Event.after]
    | some new =>
      cases hc : (old.changes new).getLast? with
      | none =>
        -- nothing tracked has changed, so the old record of the map still agrees
        have hsame := Interface.changes_eq_nil_iff.1 (List.getLast?_eq_none_iff.1 hc)
        obtain ⟨i, hi⟩ : ∃ i, m.get? k = some i := by
          cases hm : m.get? k with
          | none => simp [hm] at hk
          | some i => exact ⟨i, rfl⟩
        rw [hi, Option.rel_some_some] at hk
        simpa [recordEvents, hc, hi] using hk.trans hsame
      | some c =>
        -- the last change carries the new record as a whole
        simpa [recordEvents, hc, Event.after] using Interface.SameTracked.refl new

/-- From nothing, the difference is one arrival for every interface. -/
theorem diff_empty (s : Snapshot) : diff .empty s = s.values.map .added := by
  have hall : s.entries.filter (fun e => !(Keyed.empty : Snapshot).contains e.1) = s.entries :=
    List.filter_eq_self.2 fun _ _ => rfl
  have harrivals : arrivals .empty s = s.values.map .added := by
    rw [arrivals, hall, Keyed.values, List.map_map]
    rfl
  rw [diff, harrivals]
  exact List.append_nil _

end Snapshot
end LinkWatch
