import LinkWatch.Proofs.Difference.Content

/-!
# A difference as a patch

The events between two snapshots, applied one after another, lead from the first snapshot to one
that agrees with the second (`diff_is_patch`). On the way every event fits: nothing goes or changes
that is not there, and nothing comes that is there already (`admits_of_split`). Both are read off
the events of a single interface (`filter_diff`), since what an event does to the other interfaces
is nothing.
-/

namespace LinkWatch.Snapshot

/-! ## Events that fit -/

/-- True when an event can happen to a snapshot: what goes or changes is there, and what comes is
not. -/
def admits (s : Snapshot) : Event → Bool
  | .removed i => s.contains i.id
  | .added i => !s.contains i.id
  | .changed i _ => s.contains i.id

/-- Applies an event if it fits. -/
def applyEvent? (s : Snapshot) (e : Event) : Option Snapshot :=
  if s.admits e then some (s.applyEvent e) else none

/-- Applies events in order, as long as every one of them fits. -/
def applyEvents? (s : Snapshot) (es : List Event) : Option Snapshot :=
  es.foldlM applyEvent? s

/-- Events that fit one after another are applied as without the check. -/
theorem applyEvents?_eq_some {s : Snapshot} {l : List Event}
    (h : ∀ es e fs, l = es ++ e :: fs → (s.applyEvents es).admits e = true) :
    s.applyEvents? l = some (s.applyEvents l) := by
  -- from the right, so that what was applied before the last event is all the rest
  induction l using List.reverseRecOn with
  | nil => rfl
  | append_singleton l e ih =>
    have hlast := h l e [] rfl
    have hinit : s.applyEvents? l = some (s.applyEvents l) := by
      apply ih
      intro es e' fs hl
      apply h es e' (fs ++ [e])
      rw [hl, List.append_assoc, List.cons_append]
    rw [applyEvents?] at hinit
    rw [applyEvents?, List.foldlM_append, hinit, applyEvents_append]
    simp only [Option.bind_eq_bind, Option.bind_some, List.foldlM_cons, List.foldlM_nil,
      applyEvent?, hlast, if_true]
    rfl

/-- A list of one event has nothing before this event. -/
theorem eq_of_singleton_eq_append {a e : Event} {l r : List Event} (h : [a] = l ++ e :: r) :
    l = [] ∧ e = a := by
  rcases List.singleton_eq_append_iff.1 h with ⟨hl, he⟩ | ⟨-, he⟩
  · exact ⟨hl, (List.cons.inj he).1⟩
  · cases he

section

variable {p s : Snapshot}

/-- Every event of a difference fits what the events before it have left. -/
theorem admits_of_split (hp : p.IsKeyed) (hs : s.IsKeyed) {es fs : List Event} {e : Event}
    (h : diff p s = es ++ e :: fs) : (p.applyEvents es).admits e = true := by
  -- the events of this one interface: those before `e`, then `e` itself, then those after it
  have hone : recordEvents (p.get? e.interface.id) (s.get? e.interface.id) =
      es.filter (·.interface.id == e.interface.id) ++
        e :: fs.filter (·.interface.id == e.interface.id) := by
    rw [← filter_diff hp hs, h, List.filter_append, List.filter_cons_of_pos (by simp)]
  have hfound := get?_applyEvents p es e.interface.id
  generalize es.filter (·.interface.id == e.interface.id) = before at hone hfound
  generalize fs.filter (·.interface.id == e.interface.id) = after at hone
  cases hold : p.get? e.interface.id with
  | none =>
    cases hnew : s.get? e.interface.id with
    | none => simp [recordEvents, hold, hnew] at hone
    | some new =>
      -- an arrival alone
      rw [hold, hnew, recordEvents] at hone
      obtain ⟨rfl, rfl⟩ := eq_of_singleton_eq_append hone
      rw [hold] at hfound
      simp only [Event.interface] at hfound
      simp [admits, Keyed.contains, hfound]
  | some old =>
    cases hnew : s.get? e.interface.id with
    | none =>
      -- a departure alone
      rw [hold, hnew, recordEvents] at hone
      obtain ⟨rfl, rfl⟩ := eq_of_singleton_eq_append hone
      rw [hold] at hfound
      simp only [Event.interface] at hfound
      simp [admits, Keyed.contains, hfound]
    | some new =>
      -- changes only, before `e` as well, and a change leaves the interface there
      rw [hold, hnew, recordEvents] at hone
      have hchanges : ∀ f ∈ before ++ e :: after, ∃ c, Event.changed new c = f := by
        intro f hf
        rw [← hone] at hf
        obtain ⟨c, -, hc⟩ := List.mem_map.1 hf
        exact ⟨c, hc⟩
      obtain ⟨c, rfl⟩ := hchanges e (by simp)
      have hthere : ((p.applyEvents es).get? new.id).isSome = true := by
        simp only [Event.interface] at hfound hold
        rw [hfound]
        split
        · next f hf =>
          obtain ⟨c', rfl⟩ := hchanges f (List.mem_append_left _ (List.mem_of_getLast? hf))
          rfl
        · rw [hold]
          rfl
      exact hthere

/-- The record that a difference leaves under an id. -/
theorem get?_applyEvents_diff (hp : p.IsKeyed) (hs : s.IsKeyed) (k : String) :
    (p.applyEvents (diff p s)).get? k =
      match p.get? k, s.get? k with
      | some old, some new => some (if old.changes new = [] then old else new)
      | _, new? => new? := by
  rw [get?_applyEvents, filter_diff hp hs]
  cases p.get? k with
  | none => cases s.get? k <;> simp [recordEvents, Event.after]
  | some old =>
    cases s.get? k with
    | none => simp [recordEvents, Event.after]
    | some new =>
      -- the last change, if there is one, carries the whole new record
      cases hc : (old.changes new).getLast? with
      | none => simp [recordEvents, List.getLast?_eq_none_iff.1 hc]
      | some c =>
        have hne : old.changes new ≠ [] := by
          intro hnil
          rw [hnil] at hc
          cases hc
        simp [recordEvents, hc, hne, Event.after]

/-! ## Main result -/

/-- A difference applies to the first snapshot without an event that does not fit. The result has
the ids of the second snapshot, with its record for every interface that has come or has changed in
a tracked field; every other interface keeps its record, which agrees in the tracked fields. -/
theorem diff_is_patch (hp : p.IsKeyed) (hs : s.IsKeyed) :
    ∃ m, p.applyEvents? (diff p s) = some m ∧ (∀ k, m.contains k = s.contains k) ∧
      (∀ k new, s.get? k = some new → (∀ old, p.get? k = some old → ¬ old.SameTracked new) →
        m.get? k = some new) ∧
      ∀ k old new, p.get? k = some old → s.get? k = some new → old.SameTracked new →
        m.get? k = some old := by
  have hpatch : p.applyEvents? (diff p s) = some (p.applyEvents (diff p s)) :=
    applyEvents?_eq_some fun _ _ _ hsplit => admits_of_split hp hs hsplit
  refine ⟨p.applyEvents (diff p s), hpatch, ?_, ?_, ?_⟩
  · intro k
    rw [Keyed.contains, Keyed.contains, get?_applyEvents_diff hp hs]
    cases p.get? k <;> cases s.get? k <;> rfl
  · intro k new hnew hchanged
    rw [get?_applyEvents_diff hp hs, hnew]
    cases hold : p.get? k with
    | none => rfl
    | some old =>
      have hne : old.changes new ≠ [] := by
        intro hnil
        exact hchanged old hold (Interface.changes_eq_nil_iff.1 hnil)
      simp [hne]
  · intro k old new hold hnew hsame
    rw [get?_applyEvents_diff hp hs, hold, hnew]
    simp [Interface.changes_eq_nil_iff.2 hsame]

theorem diff_is_patch_away :
    homeSnapshot.IsKeyed ∧ awaySnapshot.IsKeyed ∧
      ∃ m, homeSnapshot.applyEvents? (diff homeSnapshot awaySnapshot) = some m ∧
        (∀ k, m.contains k = awaySnapshot.contains k) ∧
        m.get? "eth0" = awaySnapshot.get? "eth0" ∧ m.get? "wlan0" = awaySnapshot.get? "wlan0" ∧
        m.get? "usb0" = homeSnapshot.get? "usb0" := by
  have hhome : homeSnapshot.IsKeyed := by decide +kernel
  have haway : awaySnapshot.IsKeyed := by decide +kernel
  obtain ⟨m, hpatch, hids, hnew, hold⟩ := diff_is_patch hhome haway
  refine ⟨hhome, haway, m, hpatch, hids, ?_, ?_, ?_⟩
  · refine hnew "eth0" _ rfl fun old hp hsame => ?_
    obtain rfl : Interface.new "eth0" .ethernet = old := Option.some.inj hp
    exact absurd hsame.1 (by decide)
  · refine hnew "wlan0" _ rfl fun old hp _ => ?_
    cases hp
  · exact hold "usb0" _ _ rfl rfl ⟨rfl, rfl, rfl, rfl, rfl⟩

end

end LinkWatch.Snapshot
