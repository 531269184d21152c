import Mathlib.Tactic.ByContra
import LinkWatch.Proofs.Monitor.Step

/-!
# The life of the driver

The driver is to run while anybody is registered. Observers come and go from inside callbacks, a
stop is put off while replays are under way, and a start is decided before the replay that may
empty the list again, so the two are out of step while operations nest. `Lifecycle` says how far
they may be apart:

* a driver that still runs with nobody registered has its stop put off (`stop_due`), which can only
  be while a replay is under way (`pending_imp`);
* a driver that does not run yet with somebody registered has a replay on the stack that was the
  first (`start_due`).

Both are impossible when nothing is under way, which gives `driver_follows_observers`.
-/

namespace LinkWatch

/-- Whether a replay under way was begun for the first observer. -/
def Frame.replayFirst? : Frame → Option Bool
  | .replay _ _ first _ => some first
  | _ => none

/-- A call is no replay. -/
theorem Frame.replayFirst?_eq_none {f : Frame} (hf : f.isCall = true) :
    f.replayFirst? = none := by
  cases f with
  | replay o p first guarded => cases hf
  | _ => rfl

/-- True when the latest call of the driver, if there was one, was a start. -/
def Signal.runs : List Signal → Bool
  | [] => false
  | .started :: _ => true
  | .stopped _ :: _ => false
  | _ :: r => runs r

/-- Only starts and stops tell whether the driver runs. -/
theorem Signal.runs_cons {s : Signal} (h : s.isDriverCall = false) (r : List Signal) :
    runs (s :: r) = runs r := by
  cases s <;> simp_all [isDriverCall, runs]

theorem Signal.runs_append {p : List Signal} (h : ∀ s ∈ p, s.isDriverCall = false)
    (r : List Signal) : runs (p ++ r) = runs r := by
  induction p with
  | nil => rfl
  | cons s p ih =>
    rw [List.cons_append, runs_cons (h s List.mem_cons_self)]
    exact ih fun t ht => h t (List.mem_cons_of_mem _ ht)

namespace Monitor

variable {δ : Type}

/-- For every replay under way, innermost first, whether it was begun for the first observer. -/
def replays (m : Monitor δ) : List Bool := m.stack.filterMap Frame.replayFirst?

/-- True when the driver runs, as far as the monitor has told it to. -/
def isDriven (m : Monitor δ) : Bool := Signal.runs m.past

/-- How far the driver and the list of observers may be apart. -/
structure Lifecycle (m : Monitor δ) : Prop where
  depth_eq : m.replayDepth = m.replays.length
  pending_imp : m.stopPending = true → 0 < m.replayDepth
  stops_outside : ∀ k, Signal.stopped k ∈ m.past → k = 0
  stop_due : m.isDriven = true → m.observers = [] → m.stopPending = true
  start_due : m.isDriven = false → m.observers ≠ [] → true ∈ m.replays

/-- A new monitor drives nothing and has nobody to drive for. -/
theorem lifecycle_new (d : δ) : (new d).Lifecycle where
  depth_eq := rfl
  pending_imp h := by simp [new] at h
  stops_outside k h := by simp [new] at h
  stop_due h := by simp [isDriven, new, Signal.runs] at h
  start_due _ h := absurd rfl h

namespace Lifecycle

variable {m m' : Monitor δ}

/-! ## Steps that do not touch the list of observers -/

/-- Everything that the invariant speaks of is as it was, up to signals of other kinds. -/
theorem congr (h : m.Lifecycle) {p : List Signal} (hp : ∀ s ∈ p, s.isDriverCall = false)
    (hobservers : m'.observers = m.observers) (hdepth : m'.replayDepth = m.replayDepth)
    (hpending : m'.stopPending = m.stopPending) (hpast : m'.past = p ++ m.past)
    (hreplays : m'.replays = m.replays) : m'.Lifecycle := by
  have hdriven : m'.isDriven = m.isDriven := by
    rw [isDriven, hpast, Signal.runs_append hp, isDriven]
  refine ⟨?_, ?_, ?_, ?_, ?_⟩
  · rw [hdepth, hreplays]
    exact h.depth_eq
  · rw [hpending, hdepth]
    exact h.pending_imp
  · intro k hk
    rw [hpast, List.mem_append] at hk
    rcases hk with hk | hk
    · exact absurd (hp _ hk) (by simp [Signal.isDriverCall])
    · exact h.stops_outside k hk
  · rw [hdriven, hobservers, hpending]
    exact h.stop_due
  · rw [hdriven, hobservers, hreplays]
    exact h.start_due

/-- Only the driver or the guards change. -/
theorem set_driver (h : m.Lifecycle) (d : δ) (g : List ObserverId) :
    ({ m with driver := d, guards := g } : Monitor δ).Lifecycle :=
  h.congr (p := []) (by simp) rfl rfl rfl rfl rfl

/-- The topmost operation ends, which is not a replay. -/
theorem pop (h : m.Lifecycle) {f : Frame} {r : List Frame} (hs : m.stack = f :: r)
    (hf : f.replayFirst? = none) (d : δ) :
    ({ m with stack := r, driver := d } : Monitor δ).Lifecycle := by
  refine h.congr (p := []) (by simp) rfl rfl rfl rfl ?_
  rw [replays, replays, hs, List.filterMap_cons_none hf]

/-- The topmost operation goes on. -/
theorem advance (h : m.Lifecycle) {f g : Frame} {r : List Frame} (hs : m.stack = f :: r)
    (hfg : g.replayFirst? = f.replayFirst?) :
    ({ m with stack := g :: r } : Monitor δ).Lifecycle := by
  refine h.congr (p := []) (by simp) rfl rfl rfl rfl ?_
  rw [replays, replays, hs, List.filterMap_cons, List.filterMap_cons, hfg]

/-- An operation that is no replay makes no difference to the driver. -/
theorem push (h : m.Lifecycle) {f : Frame} (hf : f.replayFirst? = none) :
    (m.push f).Lifecycle := by
  refine h.congr (p := []) (by simp) rfl rfl rfl rfl ?_
  exact List.filterMap_cons_none hf

/-- A signal that is no start or stop makes no difference to the driver. -/
theorem note (h : m.Lifecycle) {s : Signal} (hs : s.isDriverCall = false) :
    (m.note s).Lifecycle := by
  have hone : ∀ t ∈ [s], t.isDriverCall = false := by simpa using hs
  exact h.congr hone rfl rfl rfl rfl rfl

/-- The topmost operation goes on with a call. -/
theorem call (h : m.Lifecycle) {f g c : Frame} {r : List Frame} {s : Signal}
    (hs : m.stack = f :: r) (hfg : g.replayFirst? = f.replayFirst?) (hc : c.isCall = true)
    (hsignal : s.isDriverCall = false) :
    ((({ m with stack := g :: r } : Monitor δ).push c).note s).Lifecycle :=
  ((h.advance hs hfg).push (Frame.replayFirst?_eq_none hc)).note hsignal

theorem keep (h : m.Lifecycle) (s : Snapshot) : (m.keep s).Lifecycle := by
  have hs : ({ m with interfaces := s } : Monitor δ).Lifecycle :=
    h.congr (p := []) (by simp) rfl rfl rfl rfl rfl
  exact hs.push rfl

theorem keep? (h : m.Lifecycle) (s : Option Snapshot) : (m.keep? s).Lifecycle := by
  cases s with
  | none => exact h
  | some s => exact h.keep s

theorem grant (h : m.Lifecycle) (guarded : Bool) (o : ObserverId) :
    (m.grant guarded o).Lifecycle := by
  cases guarded with
  | false => exact h
  | true => exact h.set_driver m.driver (o :: m.guards)

/-! ## Observers that come -/

/-- A replay under way is counted, and it remembers whether it is to start the driver. -/
theorem beginReplay (h : m.Lifecycle) (o : ObserverId) (guarded : Bool) :
    (m.beginReplay o guarded).Lifecycle := by
  rw [Monitor.beginReplay]
  split
  · exact h.grant guarded o
  · have hreplays : ((({ m with
        observers := m.observers ++ [o], replayDepth := m.replayDepth + 1 } : Monitor δ).note
        (.joined o)).push (.replay o (Snapshot.diff .empty m.interfaces) m.observers.isEmpty
        guarded)).replays = m.observers.isEmpty :: m.replays := rfl
    refine ⟨?_, fun _ => Nat.succ_pos _, fun k hk => ?_, fun _ hr => ?_, fun hd _ => ?_⟩
    · rw [hreplays, List.length_cons, ← h.depth_eq]
      rfl
    · rcases List.mem_cons.1 hk with hk | hk
      · cases hk
      · exact h.stops_outside k hk
    · exact absurd hr (by simp [Monitor.push, Monitor.note])
    · rw [hreplays]
      by_cases hnone : m.observers = []
      · simp [hnone]
      · have hd' : m.isDriven = false := hd
        exact List.mem_cons_of_mem _ (h.start_due hd' hnone)

/-- An operation that goes on after its wait begins a replay at most. -/
theorem resume (h : m.Lifecycle) (next : Awaiting) : (m.resume next).Lifecycle := by
  cases next with
  | register o guarded => exact h.beginReplay o guarded
  | query => exact h.note rfl
  | visit => exact h.push rfl

/-! ## Observers that leave -/

variable [PollingDriver δ]

/-- The list of observers becomes shorter, and the driver is stopped if that has emptied the list
and no replay is under way. -/
theorem leave (h : m.Lifecycle) {rest : List ObserverId} {p : List Signal} {emptied : Bool}
    (hp : ∀ s ∈ p, s.isDriverCall = false) (hrest : rest ≠ [] → m.observers ≠ [])
    (hemptied : emptied = true ↔ rest = [] ∧ m.observers ≠ []) :
    (steer ({ m with observers := rest, past := p ++ m.past }.releaseDriver emptied)).Lifecycle := by
  have hruns : Signal.runs (p ++ m.past) = m.isDriven := Signal.runs_append hp m.past
  have hstops : ∀ k, Signal.stopped k ∈ p ++ m.past → k = 0 := by
    intro k hk
    rcases List.mem_append.1 hk with hk | hk
    · exact absurd (hp _ hk) (by simp [Signal.isDriverCall])
    · exact h.stops_outside k hk
  cases emptied with
  | false =>
    -- nobody was there before, or somebody still is
    simp only [releaseDriver, steer, Bool.not_false, if_true]
    refine ⟨h.depth_eq, h.pending_imp, hstops, fun hd hr => ?_, fun hd hr => ?_⟩
    · have hnone : m.observers = [] := by
        by_contra hne
        exact absurd (hemptied.2 ⟨hr, hne⟩) (by simp)
      exact h.stop_due (hruns ▸ hd) hnone
    · exact h.start_due (hruns ▸ hd) (hrest hr)
  | true =>
    obtain ⟨hnil, -⟩ := hemptied.1 rfl
    subst hnil
    simp only [releaseDriver, Bool.not_true, Bool.false_eq_true, if_false]
    split
    · next hdepth =>
      -- a replay is under way, and the stop is put off
      exact ⟨h.depth_eq, fun _ => hdepth, hstops, fun _ _ => rfl, fun _ hr => absurd rfl hr⟩
    · next hdepth =>
      have hzero : m.replayDepth = 0 := by
        have hnot : ¬ 0 < m.replayDepth := hdepth
        omega
      refine ⟨h.depth_eq, h.pending_imp, fun k hk => ?_, fun hd => ?_, fun _ hr => absurd rfl hr⟩
      · rcases List.mem_cons.1 hk with hk | hk
        · cases hk
          exact hzero
        · exact hstops k hk
      · cases hd

/-- The driver stops with the last observer, or once the replays are over. -/
theorem unregister (h : m.Lifecycle) (o : ObserverId) : (m.unregister o).Lifecycle := by
  rw [Monitor.unregister, remove]
  split
  · next ho =>
    have hmem : o ∈ m.observers := by simpa [isRegistered] using ho
    refine h.leave (p := [.left o]) (by simp [Signal.isDriverCall]) (fun _ => ?_) ?_
    · exact List.ne_nil_of_mem hmem
    · simpa using fun _ => List.ne_nil_of_mem hmem
  · exact h

/-- The driver stops, or is to stop once the replays are over. -/
theorem shutdown (h : m.Lifecycle) : m.shutdown.Lifecycle := by
  rw [Monitor.shutdown, clear]
  refine h.leave ?_ (fun hr => absurd rfl hr) (by simp)
  simp [Signal.isDriverCall]

/-- The end of a replay is where a stop that was put off, or a start, is made up for. -/
theorem endReplay (h : m.Lifecycle) {o o' : ObserverId} {p : List Event} {first guarded g : Bool}
    {r : List Frame} (hs : m.stack = .replay o p first g :: r) :
    ({ m with stack := r }.endReplay o' first guarded).Lifecycle := by
  apply grant
  have hreplays : m.replays = first :: r.filterMap Frame.replayFirst? := by
    rw [replays, hs]
    rfl
  have hdepth : m.replayDepth - 1 = (r.filterMap Frame.replayFirst?).length := by
    rw [h.depth_eq, hreplays]
    rfl
  simp only [closeReplay]
  split
  · next hstop =>
    -- the outermost replay ends with the stop put off and nobody there
    simp only [Bool.and_eq_true, beq_iff_eq, List.isEmpty_iff] at hstop
    obtain ⟨⟨hzero, -⟩, hnone⟩ := hstop
    refine ⟨hdepth, fun hp => ?_, fun k hk => ?_, fun hd => ?_, fun _ hr => absurd hnone hr⟩
    · simp [steer, stopDriver, Monitor.note, hzero] at hp
    · rcases List.mem_cons.1 hk with hk | hk
      · cases hk
        exact hzero
      · exact h.stops_outside k hk
    · cases hd
  · next hstop =>
    split
    · next hstart =>
      -- the first observer was told everything, and somebody is still there
      simp only [Bool.and_eq_true, Bool.not_eq_true', List.isEmpty_eq_false_iff] at hstart
      refine ⟨hdepth, fun hp => ?_, fun k hk => ?_, fun _ hr => absurd hr hstart.2, fun hd => ?_⟩
      · simp [steer, startDriver, Monitor.note] at hp
        exact Nat.pos_of_ne_zero hp.2
      · rcases List.mem_cons.1 hk with hk | hk
        · cases hk
        · exact h.stops_outside k hk
      · cases hd
    · next hstart =>
      refine ⟨hdepth, fun hp => ?_, h.stops_outside, fun hd hr => ?_, fun hd hr => ?_⟩
      · simp only [steer, Bool.and_eq_true, bne_iff_ne, ne_eq] at hp
        exact Nat.pos_of_ne_zero hp.2
      · -- the stop is still put off, so another replay is under way
        have hnone : m.observers = [] := hr
        have hpending := h.stop_due hd hnone
        have hne : m.replayDepth - 1 ≠ 0 := by
          intro hzero
          simp [hzero, hpending, hnone] at hstop
        simp [steer, hpending, hne]
      · -- the replay that was the first is not this one
        have hsome : m.observers ≠ [] := hr
        have hmem := h.start_due hd hsome
        rw [hreplays, List.mem_cons] at hmem
        rcases hmem with hfirst | hmem
        · simp [← hfirst, hsome] at hstart
        · exact hmem

/-! ## Steps and runs -/

/-- Every step keeps the driver and the observers as close as they have to be. -/
theorem step {l : Label} (h : m.Lifecycle) (hstep : m.step l = some m') : m'.Lifecycle := by
  cases Transition.of_step hstep with
  | await _ hr hd => exact ((h.set_driver _ m.guards).push rfl).keep? _
  | release _ ho => exact (h.set_driver m.driver _).unregister _
  | unregister _ => exact h.unregister _
  | shutdown _ => exact h.shutdown
  | deliver _ => exact h.keep _
  | idle _ hd => exact h.set_driver _ m.guards
  | poll _ hd => exact ((h.set_driver _ m.guards).push rfl).keep? _
  | resume hs => exact (h.pop hs rfl _).resume _
  | dispatched hs => exact h.pop hs rfl m.driver
  | tell hs ho => exact h.call hs rfl rfl rfl
  | skip hs ho => exact h.advance hs rfl
  | replay hs ho => exact h.call hs rfl rfl rfl
  | replayed hs ho => exact h.endReplay hs
  | visited hs => exact h.pop hs rfl m.driver
  | visit hs => exact h.call hs rfl rfl rfl
  | polled hs => exact h.pop hs rfl _
  | returned hs hf hl => exact h.pop hs (Frame.replayFirst?_eq_none hf) m.driver

/-- Every run keeps the books about the driver. -/
theorem run {d : δ} {ls : List Label} (h : (new d).run ls = some m) : m.Lifecycle :=
  run_induction (fun _ _ _ hm hstep => hm.step hstep) (lifecycle_new d) h

end Lifecycle

/-! ## Main result -/

/-- However calls nest, the driver is never stopped while a replay is under way, and whenever
nothing is under way the driver runs exactly if somebody is registered. -/
theorem driver_follows_observers [PollingDriver δ] {d : δ} {ls : List Label} {m : Monitor δ}
    (h : (new d).run ls = some m) :
    m.replayDepth = m.replays.length ∧ (∀ k, Signal.stopped k ∈ m.past → k = 0) ∧
      (m.stack = [] → (m.isDriven = true ↔ m.observers ≠ [])) := by
  have hm := Lifecycle.run h
  refine ⟨hm.depth_eq, hm.stops_outside, fun hidle => ?_⟩
  have hnone : m.replays = [] := by rw [replays, hidle, List.filterMap_nil]
  constructor
  · intro hd hobservers
    have hpos := hm.pending_imp (hm.stop_due hd hobservers)
    rw [hm.depth_eq, hnone] at hpos
    exact absurd hpos (by simp)
  · intro hobservers
    by_contra hd
    have hmem := hm.start_due (by simpa using hd) hobservers
    rw [hnone] at hmem
    exact absurd hmem (by simp)

/-- Steps in which the first observer leaves in its own replay, a second one comes and leaves inside
that, and a third one comes afterwards. -/
def nestedLabels : List Label :=
  [.request (.register 0), .proceed, .proceed, .proceed, .request (.unregister 0),
    .request (.register 1), .proceed, .proceed, .request (.unregister 1), .finish, .proceed,
    .panic, .proceed, .request (.register 2), .proceed, .proceed, .proceed, .finish, .proceed]

/-- Observers come and go in the middle of replays, and the driver runs for the one that is left. -/
theorem driver_follows_observers_nested :
    ∃ m, (new (ManualDriver.new (some (Keyed.empty.insert "lo" (.new "lo" .loopback))))).run
        nestedLabels = some m ∧ m.stack = [] ∧ m.observers = [2] ∧
      m.replayDepth = m.replays.length ∧ (∀ k, Signal.stopped k ∈ m.past → k = 0) ∧
      (m.isDriven = true ↔ m.observers ≠ []) := by
  obtain ⟨m, hrun, hidle, hobservers⟩ : ∃ m, (new (ManualDriver.new (some (Keyed.empty.insert "lo"
      (.new "lo" .loopback))))).run nestedLabels = some m ∧ m.stack = [] ∧ m.observers = [2] :=
    ⟨_, rfl, rfl, rfl⟩
  obtain ⟨hdepth, hstops, hdriven⟩ := driver_follows_observers hrun
  exact ⟨m, hrun, hidle, hobservers, hdepth, hstops, hdriven hidle⟩

end Monitor
end LinkWatch
