import LinkWatch.Proofs.Monitor.Failure
import LinkWatch.Proofs.Monitor.Lifecycle
import LinkWatch.Proofs.Monitor.Period

/-!
# The bookkeeping of the registry

The list of observers, the depth of replays and the mark of a stop that was put off are changed
before and after callbacks, each of which may ask for anything and may fail. `Bookkeeping` says what
is right about them at every moment. It is kept by every step, since a failure ends its call alone
and no replay is left without its end.

The depth counts replays exactly, so a replay that ends finds it above zero
(`Bookkeeping.depth_pos`) and takes one from it (`Bookkeeping.depth_of_ended`).
-/

namespace LinkWatch.Monitor

variable {δ : Type} {m m' : Monitor δ}

/-- The list of observers, the depth of replays and the mark of a stop put off are right. -/
structure Bookkeeping (m : Monitor δ) : Prop where
  nodup : m.observers.Nodup
  depth_eq : m.replayDepth = m.replays.length
  pending_imp : m.stopPending = true → 0 < m.replayDepth

namespace Bookkeeping

/-! ## What follows at a moment -/

/-- When nothing is under way, no replay is counted and no stop is put off. -/
theorem idle (h : m.Bookkeeping) (hidle : m.stack = []) :
    m.replayDepth = 0 ∧ m.stopPending = false := by
  have hzero : m.replayDepth = 0 := by
    rw [h.depth_eq, replays, hidle]
    rfl
  refine ⟨hzero, ?_⟩
  by_contra hpending
  have hpos := h.pending_imp (by simpa using hpending)
  omega

section Replaying

variable {o : ObserverId} {p : List Event} {first guarded : Bool} {r : List Frame}

/-- A replay on top of the stack is counted, with those below it. -/
theorem depth_eq_succ (h : m.Bookkeeping) (hs : m.stack = .replay o p first guarded :: r) :
    m.replayDepth = (r.filterMap Frame.replayFirst?).length + 1 := by
  rw [h.depth_eq, replays, hs]
  rfl

/-- The count is not zero when a replay ends, so that it can be taken down by one. -/
theorem depth_pos (h : m.Bookkeeping) (hs : m.stack = .replay o p first guarded :: r) :
    0 < m.replayDepth := by
  rw [h.depth_eq_succ hs]
  exact Nat.succ_pos _

/-- The end of a replay takes the count down by one. -/
theorem depth_of_ended (h : m.Bookkeeping) (h' : m'.Bookkeeping)
    (hs : m.stack = .replay o p first guarded :: r) (hs' : m'.stack = r) :
    m'.replayDepth + 1 = m.replayDepth := by
  rw [h.depth_eq_succ hs, h'.depth_eq, replays, hs']

end Replaying

/-! ## Steps and runs -/

variable [PollingDriver δ]

/-- The books are right after every run, whatever fails in it. -/
theorem of_unwindingRun {d : δ} {ls : List Label} (h : (new d).unwindingRun ls = some m) :
    m.Bookkeeping := by
  -- unwinding leaves out nothing, so the invariants of runs without failures apply
  have hrun : (new d).run ls = some m := unwindingRun_eq (m := new d) trivial ls ▸ h
  have hlife := Lifecycle.run hrun
  exact ⟨nodup_of_run hrun, hlife.depth_eq, hlife.pending_imp⟩

/-- The bookkeeping is right after one step more. -/
theorem of_unwindingStep {d : δ} {ls : List Label} {l : Label}
    (h : (new d).unwindingRun ls = some m) (hstep : m.unwindingStep l = some m') :
    m'.Bookkeeping := by
  have hrun : (new d).unwindingRun (ls ++ [l]) = some m' := by
    rw [unwindingRun_append, h, Option.bind_some, unwindingRun, hstep, Option.bind_some,
      unwindingRun]
  exact of_unwindingRun hrun

end Bookkeeping

/-! ## Main result -/

/-- The registry is kept in order. After every run, and so at every moment of one, with callbacks
that ask for anything and fail at any time: no observer is on the list twice, the depth of replays
is the number of replays under way, and a stop is only put off while it is above zero. When nothing
is under way the depth is zero and no stop is put off. A replay that goes on finds the depth above
zero, and takes one from it when it ends. -/
theorem registry_is_kept [PollingDriver δ] {d : δ} {ls : List Label}
    (h : (new d).unwindingRun ls = some m) :
    m.observers.Nodup ∧ m.replayDepth = m.replays.length ∧
      (m.stopPending = true → 0 < m.replayDepth) ∧
      (m.stack = [] → m.replayDepth = 0 ∧ m.stopPending = false) ∧
      ∀ o p first guarded r, m.stack = .replay o p first guarded :: r → 0 < m.replayDepth ∧
        ∀ m', m.unwindingStep .proceed = some m' → m'.stack = r →
          m'.replayDepth + 1 = m.replayDepth := by
  have hm := Bookkeeping.of_unwindingRun h
  refine ⟨hm.nodup, hm.depth_eq, hm.pending_imp, hm.idle, ?_⟩
  intro o p first guarded r hs
  refine ⟨hm.depth_pos hs, fun m' hstep hs' => ?_⟩
  -- both sides of the step count the replays on their stacks
  exact hm.depth_of_ended (.of_unwindingStep h hstep) hs hs'

/-- Steps up to the moment when two replays are under way, the inner one has nothing more to tell,
both observers have left, and the stop is put off. The inner replay ends, and then everything else
does. -/
theorem registry_is_kept_nested :
    ∃ m m' n : Monitor ManualDriver,
      (new (ManualDriver.new (some (Keyed.empty.insert "lo" (.new "lo" .loopback))))).unwindingRun
        (nestedLabels.take 10) = some m ∧
      m.observers.Nodup ∧ m.replayDepth = 2 ∧ m.stopPending = true ∧ 0 < m.replayDepth ∧
      m.unwindingStep .proceed = some m' ∧ m'.replayDepth = 1 ∧
      (new (ManualDriver.new (some (Keyed.empty.insert "lo" (.new "lo" .loopback))))).unwindingRun
        nestedLabels = some n ∧
      n.stack = [] ∧ n.replayDepth = 0 ∧ n.stopPending = false := by
  obtain ⟨m, m', hrun, hpending, hreplays, hs, hstep, hs'⟩ : ∃ m m' : Monitor ManualDriver,
      (new (ManualDriver.new (some (Keyed.empty.insert "lo" (.new "lo" .loopback))))).unwindingRun
        (nestedLabels.take 10) = some m ∧
      m.stopPending = true ∧ m.replays.length = 2 ∧
      m.stack = .replay 1 [] true false :: m.stack.tail ∧
      m.unwindingStep .proceed = some m' ∧ m'.stack = m.stack.tail :=
    ⟨_, _, rfl, rfl, rfl, rfl, rfl, rfl⟩
  obtain ⟨n, hrunAll, hidle⟩ : ∃ n : Monitor ManualDriver,
      (new (ManualDriver.new (some (Keyed.empty.insert "lo" (.new "lo" .loopback))))).unwindingRun
        nestedLabels = some n ∧ n.stack = [] :=
    ⟨_, rfl, rfl⟩
  obtain ⟨hnodup, hdepth, hpos, -, hreplay⟩ := registry_is_kept hrun
  obtain ⟨-, hended⟩ := hreplay 1 [] true false _ hs
  obtain ⟨-, -, -, hend, -⟩ := registry_is_kept hrunAll
  have htwo : m.replayDepth = 2 := hdepth.trans hreplays
  have hone : m'.replayDepth = 1 := Nat.succ.inj ((hended m' hstep hs').trans htwo)
  exact ⟨m, m', n, hrun, hnodup, htwo, hpending, hpos hpending, hstep, hone, hrunAll, hidle,
    hend hidle⟩

end LinkWatch.Monitor
