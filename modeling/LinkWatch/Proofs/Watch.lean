import LinkWatch.Program
import LinkWatch.Proofs.Channel
import LinkWatch.Proofs.Difference.Stream
import LinkWatch.Proofs.Monitor.Sections

/-!
# What watching tells

The whole way from the fetches to the printed lines. The first fetch is made before the watcher
joins, and every other one by a round of the worker; a fetch either hands over what the filter
accepts of a snapshot, or fails and hands over nothing (`accepted`). After every fetch the monitor
holds the last of these snapshots, and what the reader of the channel gets are the differences
between all of them, from the empty one on (`watch_tells_differences`).
-/

namespace LinkWatch

/-! ## Fetching -/

namespace Fetcher

variable {φ : Type} [Fetcher φ]

/-- The fetcher after a number of fetches. -/
def after (n : Nat) (fetcher : φ) : φ := Nat.repeat (fun f => (fetch f).2) n fetcher

/-- What comes of the first fetches. -/
def outcomes (n : Nat) (fetcher : φ) : List FetchOutcome :=
  (List.range n).map fun k => (fetch (after k fetcher)).1

theorem outcomes_succ (n : Nat) (fetcher : φ) :
    outcomes (n + 1) fetcher = outcomes n fetcher ++ [(fetch (after n fetcher)).1] := by
  rw [outcomes, List.range_succ, List.map_append]
  rfl

theorem take_outcomes {k n : Nat} (h : k ≤ n) (fetcher : φ) :
    (outcomes n fetcher).take k = outcomes k fetcher := by
  rw [outcomes, ← List.map_take, List.take_range, Nat.min_eq_left h, outcomes]

end Fetcher

/-- A fetch that ends no worker, by the result that its caller sees. -/
def FetchOutcome.ofResult : Except FetchError Snapshot → FetchOutcome
  | .ok s => .snapshot s
  | .error e => .failure e

/-- What a filter accepts of the snapshots that were taken. Failures give none. -/
def accepted (f : Filter (String → Bool)) (results : List (Except FetchError Snapshot)) :
    List Snapshot :=
  results.filterMap fun r => r.toOption.map f.restrict

theorem accepted_concat (f : Filter (String → Bool)) (results : List (Except FetchError Snapshot))
    (r : Except FetchError Snapshot) :
    accepted f (results ++ [r]) = accepted f results ++ (r.toOption.map f.restrict).toList := by
  cases r <;> simp [accepted, Except.toOption]

/-! ## The poller -/

namespace Poller

variable {φ : Type} {f : Filter (String → Bool)} {fetcher : φ}

@[simp] theorem endPoll_worker (p : Poller φ) (n : Nat) : (p.endPoll n).worker = p.worker := by
  rw [endPoll]
  split
  · split <;> rfl
  · rfl

@[simp] theorem endPoll_fetcher (p : Poller φ) (n : Nat) : (p.endPoll n).fetcher = p.fetcher := by
  rw [endPoll]
  split
  · split <;> rfl
  · rfl

variable [Fetcher φ] {r : Except FetchError Snapshot}

theorem fetch_filtered (f : Filter (String → Bool))
    (hfetch : (Fetcher.fetch fetcher).1 = .ofResult r) :
    Fetcher.fetch (⟨fetcher, f⟩ : FilteredFetcher φ) =
      ((FetchOutcome.ofResult r).restrict f, ⟨(Fetcher.fetch fetcher).2, f⟩) := by
  rw [← hfetch]
  rfl

/-- The wait for the first snapshot fetches once, and hands over what is accepted of the result. -/
theorem beginWait_of_fetch {p : Poller (FilteredFetcher φ)} (hbarrier : p.barrier = .pending)
    (hfetcher : p.fetcher = ⟨fetcher, f⟩) (hfetch : (Fetcher.fetch fetcher).1 = .ofResult r) :
    p.beginWait = some (r.toOption.map f.restrict,
      { p with fetcher := ⟨(Fetcher.fetch fetcher).2, f⟩, barrier := .inProgress }) := by
  rw [beginWait, hbarrier]
  simp only [hfetcher, fetch_filtered f hfetch]
  cases r <;> rfl

/-- A round fetches once, and hands over what is accepted of the result. -/
theorem beginPoll_of_fetch {p : Poller (FilteredFetcher φ)} {n : Nat}
    (hworker : p.worker = some ⟨n, true⟩) (hfetcher : p.fetcher = ⟨fetcher, f⟩)
    (hfetch : (Fetcher.fetch fetcher).1 = .ofResult r) :
    p.beginPoll = (some (n, r.toOption.map f.restrict),
      { p with fetcher := ⟨(Fetcher.fetch fetcher).2, f⟩ }) := by
  rw [beginPoll, hworker]
  simp only [hfetcher, fetch_filtered f hfetch]
  cases r <;> rfl

end Poller

/-! ## What an observer is shown -/

namespace Monitor

variable {δ : Type} {m m' : Monitor δ} {o : ObserverId} {ss : List Snapshot}

theorem received_of_told {told : List Event}
    (h : m'.past = (told.map (Signal.invoked o)).reverse ++ m.past) :
    m'.received o = m.received o ++ told := by
  rw [received, received, h, List.filterMap_append, List.reverse_append, List.filterMap_reverse,
    List.reverse_reverse, List.filterMap_map]
  simp only [Function.comp_def, if_true, List.filterMap_some]

/-- The observer was told how these snapshots differ, from the empty one on, and the last of them
is what the monitor holds. -/
structure HasShown (o : ObserverId) (ss : List Snapshot) (m : Monitor δ) : Prop where
  interfaces_eq : m.interfaces = ss.getLastD .empty
  received_eq : m.received o = Snapshot.diffs .empty ss

/-- A snapshot that is handed over while nobody is there is told to nobody. -/
theorem absorb?_past (h : m.observers = []) (s : Option Snapshot) :
    (m.absorb? s).past = m.past := by
  cases s with
  | none => rfl
  | some s => simp [Monitor.absorb?, absorb, h]

/-- The only observer is shown every snapshot that is handed over. -/
theorem HasShown.absorb? (h : m.HasShown o ss) (ho : m.observers = [o]) (s : Option Snapshot) :
    (m.absorb? s).HasShown o (ss ++ s.toList) := by
  cases s with
  | none => simpa [Monitor.absorb?] using h
  | some s =>
    -- with one observer, each event of the difference is told once
    have hpast : (m.absorb s).past =
        ((Snapshot.diff m.interfaces s).map (Signal.invoked o)).reverse ++ m.past := by
      simp [absorb, ho, List.map_eq_flatMap]
    refine ⟨List.getLastD_concat.symm, ?_⟩
    rw [Option.toList_some, Snapshot.diffs_concat, ← h.interfaces_eq, ← h.received_eq]
    exact received_of_told hpast

theorem HasShown.grant (h : m.HasShown o ss) (guarded : Bool) :
    (m.grant guarded o).HasShown o ss := by
  cases guarded <;> exact ⟨h.interfaces_eq, h.received_eq⟩

theorem HasShown.steer [PollingDriver δ] {c : Option DriverCall × Monitor δ}
    (h : c.2.HasShown o ss) : (steer c).HasShown o ss := by
  obtain ⟨_ | _ | _, m⟩ := c <;> exact ⟨h.interfaces_eq, h.received_eq⟩

/-- An observer that has not been told anything is shown what the monitor holds when it joins. -/
theorem hasShown_join (ho : m.isRegistered o = false) (hnone : m.received o = []) :
    (m.join o).2.HasShown o [m.interfaces] := by
  have hpast : (m.join o).2.past =
      ((Snapshot.diff .empty m.interfaces).map (Signal.invoked o)).reverse ++
        (m.note (.joined o)).past := by
    rw [join, if_neg (by simp [ho])]
    rfl
  have hnote : (m.note (.joined o)).received o = [] := hnone
  refine ⟨?_, ?_⟩
  · rw [join, if_neg (by simp [ho])]
    rfl
  · rw [received_of_told hpast, hnote, Snapshot.diffs, Snapshot.diffs, List.append_nil,
      List.nil_append]

section First

variable [PollingDriver δ] (d : δ) (s : Option Snapshot) (o : ObserverId)

/-- The first observer of a monitor starts the driver. -/
theorem driver_of_first :
    (steer (((new d).absorb? s).join o)).driver = PollingDriver.start d := by
  cases s <;> rfl

theorem observers_of_first : (steer (((new d).absorb? s).join o)).observers = [o] := by
  cases s <;> rfl

/-- The first observer is shown the first snapshot, though it was handed over before. -/
theorem hasShown_first : (steer (((new d).absorb? s).join o)).HasShown o s.toList := by
  have ho : ((new d).absorb? s).isRegistered o = false := by cases s <;> rfl
  have hnone : ((new d).absorb? s).received o = [] := by
    rw [received, absorb?_past rfl]
    rfl
  -- what it joins is the snapshot, or the empty one where the fetch has failed
  have hshown := (hasShown_join ho hnone).steer
  cases s with
  | none => exact ⟨hshown.interfaces_eq, hshown.received_eq⟩
  | some s => exact hshown

end First

end Monitor

/-! ## The watcher -/

namespace Program

variable {φ : Type} {f : Filter (String → Bool)} {results : List (Except FetchError Snapshot)}
  {fetcher : φ} {m : AppMonitor φ}

/-- The monitor of the watcher when some fetches were made, with these results, and the fetcher has
come this far. -/
structure Watching (f : Filter (String → Bool)) (results : List (Except FetchError Snapshot))
    (fetcher : φ) (m : AppMonitor φ) : Prop where
  stack_eq : m.stack = []
  observers_eq : m.observers = [watcher]
  worker_eq : ∃ n, m.driver.worker = some ⟨n, true⟩
  fetcher_eq : m.driver.fetcher = ⟨fetcher, f⟩
  hasShown : m.HasShown watcher (accepted f results)

/-- The reader of the channel gets everything that the watcher was told. -/
theorem eventsRead_eq_received (m : AppMonitor φ) : eventsRead m = m.received watcher := by
  rw [eventsRead, Channel.readAll_eq_take, List.take_length, channelOf,
    Channel.queue_foldl_notify _ rfl]
  rfl

/-! ### One fetch after another -/

variable [Fetcher φ] {r : Except FetchError Snapshot}

/-- The first fetch is made before the watcher joins, and is told as arrivals. -/
theorem watching_beginWatch (s : Settings) (hfetch : (Fetcher.fetch fetcher).1 = .ofResult r) :
    Watching s.filter [r] (Fetcher.fetch fetcher).2 (beginWatch s fetcher) := by
  have hidle : (newMonitor s fetcher).stack = [] := rfl
  have hbegin : PollingDriver.beginWait (newMonitor s fetcher).driver = _ :=
    Poller.beginWait_of_fetch rfl rfl hfetch
  rw [beginWatch, ask, Monitor.perform_subscribe hidle, Monitor.awaitFirst_eq_map, hbegin,
    Option.map_some, Option.map_some, Option.getD_some]
  refine ⟨?_, ?_, ⟨0, ?_⟩, ?_, ?_⟩
  · rw [Monitor.grant_stack, Monitor.steer_stack, Monitor.join_stack, Monitor.absorb?_stack, hidle]
  · exact Monitor.observers_of_first _ _ watcher
  · exact congrArg Poller.worker (Monitor.driver_of_first _ _ watcher)
  · exact congrArg Poller.fetcher (Monitor.driver_of_first _ _ watcher)
  · have haccepted := accepted_concat s.filter [] r
    rw [List.nil_append] at haccepted
    rw [haccepted]
    exact (Monitor.hasShown_first _ _ watcher).grant true

/-- A round of the worker tells what has changed, or nothing when its fetch fails. -/
theorem Watching.poll (h : Watching f results fetcher m)
    (hfetch : (Fetcher.fetch fetcher).1 = .ofResult r) :
    Watching f (results ++ [r]) (Fetcher.fetch fetcher).2 (ask .poll m) := by
  -- the worker is alive, since no fetch so far has crashed
  obtain ⟨n, hworker⟩ := h.worker_eq
  have hbegin : PollingDriver.beginPoll m.driver = _ :=
    Poller.beginPoll_of_fetch hworker h.fetcher_eq hfetch
  rw [ask, Monitor.perform_poll h.stack_eq, Option.getD_some, Monitor.round, hbegin]
  refine ⟨?_, ?_, ⟨n, ?_⟩, ?_, ?_⟩
  · exact (Monitor.absorb?_stack _ _).trans h.stack_eq
  · exact (Monitor.absorb?_observers _ _).trans h.observers_eq
  · rw [Monitor.absorb?_driver]
    exact (Poller.endPoll_worker _ n).trans hworker
  · rw [Monitor.absorb?_driver]
    exact Poller.endPoll_fetcher _ n
  · rw [accepted_concat]
    have hshown : ({ m with driver := PollingDriver.endPoll n { m.driver with
        fetcher := ⟨(Fetcher.fetch fetcher).2, f⟩ } } : AppMonitor φ).HasShown watcher
          (accepted f results) := ⟨h.hasShown.interfaces_eq, h.hasShown.received_eq⟩
    exact hshown.absorb? h.observers_eq _

/-- After a number of polls, one fetch more was made. -/
theorem watching_watched (s : Settings) (fetcher : φ) {polls : Nat}
    (h : Fetcher.outcomes (polls + 1) fetcher = results.map .ofResult) :
    Watching s.filter results (Fetcher.after (polls + 1) fetcher) (watched s fetcher polls) := by
  induction polls generalizing results with
  | zero =>
    obtain ⟨r, hr, hfetch⟩ := List.map_eq_singleton_iff.1 h.symm
    rw [hr]
    exact watching_beginWatch s hfetch.symm
  | succ polls ih =>
    -- the last result is the one of the last poll
    rw [Fetcher.outcomes_succ] at h
    obtain ⟨earlier, last, hsplit, hearlier, hlast⟩ := List.map_eq_append_iff.1 h.symm
    obtain ⟨r, hr, hfetch⟩ := List.map_eq_singleton_iff.1 hlast
    rw [hsplit, hr]
    exact (ih hearlier.symm).poll hfetch.symm

/-- Whatever comes of the fetches, after each of them the reader of the watcher's channel has the
differences of the accepted snapshots, one after another from the empty one on, and the last of
these snapshots is what the monitor holds. What is printed are the lines of these events. -/
theorem watch_tells_differences (s : Settings) (fetcher : φ) (polls : Nat)
    (results : List (Except FetchError Snapshot))
    (h : Fetcher.outcomes (polls + 1) fetcher = results.map .ofResult) :
    (∀ k ≤ polls,
        eventsRead (watched s fetcher k) =
            Snapshot.diffs .empty (accepted s.filter (results.take (k + 1))) ∧
          (watched s fetcher k).interfaces =
            (accepted s.filter (results.take (k + 1))).getLastD .empty) ∧
      watch s fetcher polls =
        ⟨Report.unlines ((Snapshot.diffs .empty (accepted s.filter results)).map
          (Report.event s.hardwareFormat)), none⟩ := by
  have hwatching : ∀ k ≤ polls, Watching s.filter (results.take (k + 1))
      (Fetcher.after (k + 1) fetcher) (watched s fetcher k) := by
    intro k hk
    apply watching_watched
    rw [← Fetcher.take_outcomes (Nat.succ_le_succ hk), h, List.map_take]
  constructor
  · intro k hk
    have hshown := (hwatching k hk).hasShown
    exact ⟨(eventsRead_eq_received _).trans hshown.received_eq, hshown.interfaces_eq⟩
  · have hreceived := (watching_watched s fetcher h).hasShown.received_eq
    rw [watch, eventsRead_eq_received, hreceived]

/-- Settings that leave out loopback interfaces. -/
def withoutLoopback : Settings := ⟨1000, ⟨[], [.kinds [.loopback]]⟩, .default, false⟩

/-- The first fetch and the third fail. The second finds a loopback interface and another one,
which is connected when it is found again. -/
def patchyResults : List (Except FetchError Snapshot) :=
  let known : Snapshot := Keyed.empty.insert "lo" (.new "lo" .loopback)
  let eth0 := Interface.new "eth0" .ethernet
  [.error (.platform "no answer"), .ok (known.insert "eth0" eth0), .error (.platform "no answer"),
    .ok (known.insert "eth0" { eth0 with isConnected := true })]

theorem watch_tells_differences_patchy :
    Fetcher.outcomes 4 (Script.new (patchyResults.map .ofResult)) = patchyResults.map .ofResult ∧
      (watched withoutLoopback (Script.new (patchyResults.map .ofResult)) 2).interfaces =
        Keyed.empty.insert "eth0" (.new "eth0" .ethernet) ∧
      watch withoutLoopback (Script.new (patchyResults.map .ofResult)) 3 =
        ⟨"+ eth0 (eth0) [Ethernet] down\n~ eth0 connected=true\n", none⟩ := by
  have hfetched : Fetcher.outcomes 4 (Script.new (patchyResults.map .ofResult)) =
      patchyResults.map .ofResult := rfl
  obtain ⟨hpolls, hwatch⟩ := watch_tells_differences withoutLoopback
    (Script.new (patchyResults.map .ofResult)) 3 patchyResults hfetched
  obtain ⟨-, hsecond⟩ := hpolls 2 (by decide)
  refine ⟨hfetched, ?_, ?_⟩
  · rw [hsecond]
    decide +kernel
  · rw [hwatch]
    decide +kernel

end Program
end LinkWatch
