import LinkWatch.Monitor.Threads

/-!
# What a step of a shared poller can do

`Transition` lists the steps of a poller among threads, one constructor for each thing that a thread
can do under a lock or with one look at a flag. Three questions about a step are answered here for
all of them: which thread may have made what is seen of it (`Transition.past`), which threads it
leaves where they are (`Transition.waits_eq`, `Transition.work_eq`), and how a call comes to its
phase that stops a worker (`Transition.stopping`).
-/

namespace LinkWatch

/-- The thread that what was seen belongs to, if it belongs to taking snapshots. -/
def PollerEvent.thread : PollerEvent → Option PollerThread
  | .fetchBegan thread => some thread
  | .fetchEnded thread _ => some thread
  | .handing thread _ => some thread
  | .handed thread _ => some thread
  | .opened thread => some thread
  | .shut .. => none
  | .passed _ => none

/-- The thread that goes on, if it is one that may take snapshots. -/
def PollerStep.thread : PollerStep → Option PollerThread
  | .caller n _ => some (.caller n)
  | .worker n _ => some (.worker n)
  | .start => none
  | .stop _ => none

theorem PollerStep.eq_worker_of_thread {l : PollerStep} {n : Nat}
    (h : l.thread = some (.worker n)) : ∃ m, l = .worker n m := by
  cases l with
  | worker k m =>
    cases h
    exact ⟨m, rfl⟩
  | _ => cases h

/-- The worker that a call under way is stopping, once it has taken it. -/
def StopPhase.target : StopPhase → Option Nat
  | .taking => none
  | .flagging w => some w
  | .joining w => some w
  | .shutting w => some w
  | .returned _ => none

namespace Threads

@[simp] theorem replaced_self {α : Type} (f : Nat → α) (n : Nat) (a : α) : replaced f n a n = a :=
  if_pos rfl

theorem replaced_of_ne {α : Type} (f : Nat → α) {n k : Nat} (a : α) (h : k ≠ n) :
    replaced f n a k = f k :=
  if_neg h

/-- Notes several things, the latest first. -/
def noteAll (es : List PollerEvent) (t : Threads) : Threads := { t with past := es ++ t.past }

section Fields

variable (t : Threads) (n : Nat)

@[simp] theorem setWork_work_self (p : WorkPhase) : (t.setWork n p).work n = p :=
  replaced_self ..

theorem setWork_work_of_ne {k : Nat} (p : WorkPhase) (h : k ≠ n) :
    (t.setWork n p).work k = t.work k :=
  replaced_of_ne _ _ h

@[simp] theorem setWait_waits_self (p : WaitPhase) : (t.setWait n p).waits n = p :=
  replaced_self ..

theorem setWait_waits_of_ne {k : Nat} (p : WaitPhase) (h : k ≠ n) :
    (t.setWait n p).waits k = t.waits k :=
  replaced_of_ne _ _ h

end Fields

/-! ## Taking a snapshot -/

/-- How taking a snapshot goes on, and what is seen of it. -/
inductive RefreshStep (thread : PollerThread) : Refresh → Refresh → List PollerEvent → Prop
  | began : RefreshStep thread .ready .fetching [.fetchBegan thread]
  | failed : RefreshStep thread .fetching .complete [.fetchEnded thread none]
  | fetched (s : Snapshot) :
      RefreshStep thread .fetching (.handing s) [.handing thread s, .fetchEnded thread (some s)]
  | handed (s : Snapshot) : RefreshStep thread (.handing s) .complete [.handed thread s]

section Refresh

variable {t t' : Threads} {thread : PollerThread} {m : Move} {r r' : Refresh}
  {es : List PollerEvent}

/-- Every step of taking a snapshot is one of these. -/
theorem RefreshStep.of_refresh (h : t.refresh thread m r = some (r', t')) :
    ∃ es, RefreshStep thread r r' es ∧ t' = t.noteAll es := by
  unfold refresh at h
  split at h
  · cases h
    exact ⟨_, .began, rfl⟩
  · cases h
    exact ⟨_, .failed, rfl⟩
  · next s =>
    cases h
    exact ⟨_, .fetched s, rfl⟩
  · next s =>
    cases h
    exact ⟨_, .handed s, rfl⟩
  · cases h

/-- What is seen of taking a snapshot belongs to the thread that takes it. -/
theorem RefreshStep.thread_eq (h : RefreshStep thread r r' es) :
    ∀ e ∈ es, e.thread = some thread := by
  cases h <;> simp [PollerEvent.thread]

end Refresh

/-! ## Stopping -/

/-- How a call goes on that stops a worker, and what is seen of it. -/
inductive StopStep (self : Option Nat) (t : Threads) :
    StopPhase → StopPhase → List PollerEvent → Threads → Prop
  /-- No worker is in its place. -/
  | missed (hw : t.worker = none) : StopStep self t .taking (.returned none) [] t
  | taken {w : Nat} (hw : t.worker = some w) :
      StopStep self t .taking (.flagging w) [] { t with worker := none }
  | raised (w : Nat) :
      StopStep self t (.flagging w) (if self = some w then .shutting w else .joining w) []
        { t with stopped := replaced t.stopped w true }
  | joined {w : Nat} (hw : t.work w = .ended) : StopStep self t (.joining w) (.shutting w) [] t
  | shut (w : Nat) :
      StopStep self t (.shutting w) (.returned (some w)) [.shut self w]
        ({ t with barrier := .pending }.note (.shut self w))

/-- Every step of a stop is one of these. -/
theorem StopStep.of_stepStop {self : Option Nat} {t t' : Threads} {p p' : StopPhase}
    (h : t.stepStop self p = some (p', t')) : ∃ es, StopStep self t p p' es t' := by
  unfold stepStop at h
  cases p with
  | taking =>
    simp only at h
    split at h
    · next hw =>
      cases h
      exact ⟨_, .missed hw⟩
    · next w hw =>
      cases h
      exact ⟨_, .taken hw⟩
  | flagging w =>
    cases h
    exact ⟨_, .raised w⟩
  | joining w =>
    simp only at h
    split at h
    · next hw =>
      cases h
      exact ⟨_, .joined hw⟩
    · cases h
  | shutting w =>
    cases h
    exact ⟨_, .shut w⟩
  | returned w => cases h

section StopStep

variable {self : Option Nat} {t t' : Threads} {p p' : StopPhase} {es : List PollerEvent}

theorem StopStep.waits_eq (h : StopStep self t p p' es t') : t'.waits = t.waits := by
  cases h <;> rfl

theorem StopStep.work_eq (h : StopStep self t p p' es t') : t'.work = t.work := by
  cases h <;> rfl

theorem StopStep.stops_eq (h : StopStep self t p p' es t') : t'.stops = t.stops := by
  cases h <;> rfl

theorem StopStep.nextWorker_eq (h : StopStep self t p p' es t') :
    t'.nextWorker = t.nextWorker := by
  cases h <;> rfl

/-- What is seen of a stop is added to the past. -/
theorem StopStep.past_eq (h : StopStep self t p p' es t') : t'.past = es ++ t.past := by
  cases h <;> rfl

/-- A flag that is up stays up. -/
theorem StopStep.stopped_of_stopped (h : StopStep self t p p' es t') {w : Nat}
    (hw : t.stopped w = true) : t'.stopped w = true := by
  cases h with
  | raised v =>
    by_cases hv : w = v
    · subst hv
      exact replaced_self ..
    · exact (replaced_of_ne _ _ hv).trans hw
  | _ => exact hw

/-- The worker stays in its place, or the call has taken it. -/
theorem StopStep.worker_eq_or (h : StopStep self t p p' es t') :
    t'.worker = t.worker ∨ ∃ w, t.worker = some w ∧ p' = .flagging w := by
  cases h with
  | taken hw => exact .inr ⟨_, hw, rfl⟩
  | _ => exact .inl rfl

/-- The barrier is shut where that is seen, and left alone otherwise. -/
theorem StopStep.barrier_eq_or (h : StopStep self t p p' es t') :
    t'.barrier = t.barrier ∧ es = [] ∨ t'.barrier = .pending ∧ ∃ w, es = [.shut self w] := by
  cases h with
  | shut w => exact .inr ⟨rfl, w, rfl⟩
  | _ => exact .inl ⟨rfl, rfl⟩

/-- All that is seen of a call is that it shuts the barrier. -/
theorem StopStep.eq_shut_of_mem (h : StopStep self t p p' es t') {e : PollerEvent} (he : e ∈ es) :
    ∃ w, e = .shut self w ∧ p = .shutting w := by
  cases h with
  | shut w =>
    rw [List.mem_singleton] at he
    exact ⟨w, he, rfl⟩
  | _ => cases he

end StopStep

/-! ## Transitions -/

/-- A step, by the thread that goes on and by what it does, with what is seen of it. -/
inductive Transition (t : Threads) : PollerStep → List PollerEvent → Threads → Prop
  /-- A worker is in its place already. -/
  | manned {w : Nat} (hw : t.worker = some w) : Transition t .start [] t
  | started (hw : t.worker = none) :
      Transition t .start []
        ({ t with worker := some t.nextWorker, nextWorker := t.nextWorker + 1 }.setWork t.nextWorker
          .checking)
  /-- A call begins, or a sleeper wakes. -/
  | look {n : Nat} (hn : t.waits n = .away ∨ t.waits n = .sleeping) :
      Transition t (.caller n .proceed) [] (t.setWait n .looking)
  | pass {n : Nat} (hn : t.waits n = .looking) (hb : t.barrier = .done) :
      Transition t (.caller n .proceed) [.passed n] ((t.setWait n .returned).note (.passed n))
  | sleep {n : Nat} (hn : t.waits n = .looking) (hb : t.barrier = .inProgress) :
      Transition t (.caller n .proceed) [] (t.setWait n .sleeping)
  | take {n : Nat} (hn : t.waits n = .looking) (hb : t.barrier = .pending) :
      Transition t (.caller n .proceed) []
        ({ t with barrier := .inProgress }.setWait n (.refreshing .ready))
  | refresh {n : Nat} {m : Move} {r r' : Refresh} {es : List PollerEvent}
      (hn : t.waits n = .refreshing r) (hr : RefreshStep (.caller n) r r' es) :
      Transition t (.caller n m) es ((t.noteAll es).setWait n (.refreshing r'))
  | release {n : Nat} (hn : t.waits n = .refreshing .complete) :
      Transition t (.caller n .proceed) [.passed n, .opened (.caller n)]
        (((t.openBarrier (.caller n)).setWait n .returned).note (.passed n))
  | check {n : Nat} (hn : t.work n = .checking) :
      Transition t (.worker n .proceed) []
        (t.setWork n (if t.stopped n then .ended else .refreshing .ready none))
  /-- An observer begins to stop the worker from inside the round. -/
  | ask {n : Nat} {s : Snapshot} {p : Option StopPhase}
      (hn : t.work n = .refreshing (.handing s) p) (hp : ∀ q ∈ p, ∃ w, q = .returned w) :
      Transition t (.worker n .stop) []
        (t.setWork n (.refreshing (.handing s) (some .taking)))
  | round {n : Nat} {m : Move} {r r' : Refresh} {p : Option StopPhase} {es : List PollerEvent}
      (hn : t.work n = .refreshing r p) (hp : ∀ q ∈ p, ∃ w, q = .returned w)
      (hr : RefreshStep (.worker n) r r' es) :
      Transition t (.worker n m) es ((t.noteAll es).setWork n (.refreshing r' p))
  /-- The call goes on that stops the worker from inside the round. -/
  | inside {n : Nat} {r : Refresh} {p p' : StopPhase} {es : List PollerEvent} {t' : Threads}
      (hn : t.work n = .refreshing r (some p)) (hstop : StopStep (some n) t p p' es t') :
      Transition t (.worker n .proceed) es (t'.setWork n (.refreshing r (some p')))
  | rounded {n : Nat} {p : Option StopPhase} (hn : t.work n = .refreshing .complete p) :
      Transition t (.worker n .proceed) [] (t.setWork n .rechecking)
  | recheck {n : Nat} (hn : t.work n = .rechecking) :
      Transition t (.worker n .proceed) []
        (t.setWork n (if t.stopped n then .ended else .opening))
  | openUp {n : Nat} (hn : t.work n = .opening) :
      Transition t (.worker n .proceed) [.opened (.worker n)]
        ((t.openBarrier (.worker n)).setWork n .resting)
  | rested {n : Nat} (hn : t.work n = .resting) :
      Transition t (.worker n .proceed) [] (t.setWork n .checking)
  | outside {n : Nat} {p : StopPhase} {es : List PollerEvent} {t' : Threads}
      (hstop : StopStep none t (t.stops n) p es t') :
      Transition t (.stop n) es { t' with stops := replaced t'.stops n p }

/-- A start is one of the transitions, whether a worker is in its place or not. -/
theorem Transition.of_start (t : Threads) : ∃ es, Transition t .start es t.start := by
  unfold start
  split
  · next w hw => exact ⟨_, .manned hw⟩
  · next hw => exact ⟨_, .started hw⟩

/-- Every step of a caller is one of the transitions. -/
theorem Transition.of_stepCaller {t t' : Threads} {n : Nat} {m : Move}
    (h : t.stepCaller n m = some t') : ∃ es, Transition t (.caller n m) es t' := by
  unfold stepCaller at h
  split at h
  · next hn =>
    cases h
    exact ⟨_, .look (.inl hn)⟩
  · next hn =>
    -- what a caller does that has the lock depends on the barrier
    split at h
    · next hb =>
      cases h
      exact ⟨_, .pass hn hb⟩
    · next hb =>
      cases h
      exact ⟨_, .sleep hn hb⟩
    · next hb =>
      cases h
      exact ⟨_, .take hn hb⟩
  · next hn =>
    cases h
    exact ⟨_, .look (.inr hn)⟩
  · next hn =>
    cases h
    exact ⟨_, .release hn⟩
  · next hn _ =>
    obtain ⟨⟨r', t1⟩, h1, h2⟩ := Option.map_eq_some_iff.1 h
    obtain ⟨es, hr, rfl⟩ := RefreshStep.of_refresh h1
    cases h2
    exact ⟨es, .refresh hn hr⟩
  · cases h

/-- Every step of a worker is one of the transitions. -/
theorem Transition.of_stepWorker {t t' : Threads} {n : Nat} {m : Move}
    (h : t.stepWorker n m = some t') : ∃ es, Transition t (.worker n m) es t' := by
  unfold stepWorker at h
  split at h
  · next hn =>
    cases h
    exact ⟨_, .check hn⟩
  -- an observer may begin a stop if there was none in this round, or if the last one is over
  · next hn =>
    cases h
    exact ⟨_, .ask hn (by simp)⟩
  · next hn =>
    cases h
    exact ⟨_, .ask hn (by simp)⟩
  · next hn =>
    cases h
    exact ⟨_, .rounded hn⟩
  · next hn _ _ =>
    obtain ⟨⟨r', t1⟩, h1, h2⟩ := Option.map_eq_some_iff.1 h
    obtain ⟨es, hr, rfl⟩ := RefreshStep.of_refresh h1
    cases h2
    exact ⟨es, .round hn (by simp) hr⟩
  -- the same after a stop that has returned
  · next w hn _ _ =>
    obtain ⟨⟨r', t1⟩, h1, h2⟩ := Option.map_eq_some_iff.1 h
    obtain ⟨es, hr, rfl⟩ := RefreshStep.of_refresh h1
    cases h2
    exact ⟨es, .round hn (by simp) hr⟩
  · next _ _ hn =>
    obtain ⟨⟨p', t1⟩, h1, h2⟩ := Option.map_eq_some_iff.1 h
    obtain ⟨es, hstop⟩ := StopStep.of_stepStop h1
    cases h2
    exact ⟨es, .inside hn hstop⟩
  · next hn =>
    cases h
    exact ⟨_, .recheck hn⟩
  · next hn =>
    cases h
    exact ⟨_, .openUp hn⟩
  · next hn =>
    cases h
    exact ⟨_, .rested hn⟩
  · cases h

/-- Every step is one of the transitions. -/
theorem Transition.of_step {t t' : Threads} {l : PollerStep} (h : t.step l = some t') :
    ∃ es, Transition t l es t' := by
  cases l with
  | start =>
    cases h
    exact Transition.of_start t
  | caller n m => exact Transition.of_stepCaller h
  | worker n m => exact Transition.of_stepWorker h
  | stop n =>
    obtain ⟨⟨p, t1⟩, h1, h2⟩ := Option.map_eq_some_iff.1 h
    obtain ⟨es, hstop⟩ := StopStep.of_stepStop h1
    cases h2
    exact ⟨es, .outside hstop⟩

/-! ## What a step leaves alone -/

section Frame

variable {t t' : Threads} {l : PollerStep} {es : List PollerEvent}

/-- What is seen of a step is added to the past. -/
theorem Transition.past_eq (h : Transition t l es t') : t'.past = es ++ t.past := by
  cases h with
  | inside _ hstop => exact hstop.past_eq
  | outside hstop => exact hstop.past_eq
  | _ => rfl

/-- What is new belongs to the thread that went on, or to none that takes snapshots. -/
theorem Transition.thread_of_mem (h : Transition t l es t') :
    ∀ e ∈ es, e.thread = none ∨ e.thread = l.thread := by
  intro e he
  cases h with
  | refresh _ hr => exact .inr (hr.thread_eq e he)
  | round _ _ hr => exact .inr (hr.thread_eq e he)
  | inside _ hstop =>
    obtain ⟨w, rfl, -⟩ := hstop.eq_shut_of_mem he
    exact .inl rfl
  | outside hstop =>
    obtain ⟨w, rfl, -⟩ := hstop.eq_shut_of_mem he
    exact .inl rfl
  | pass =>
    rw [List.mem_singleton] at he
    exact .inl (he ▸ rfl)
  | openUp =>
    rw [List.mem_singleton] at he
    exact .inr (he ▸ rfl)
  | release =>
    -- the caller opens the barrier and passes in one step
    simp only [List.mem_cons, List.not_mem_nil, or_false] at he
    rcases he with rfl | rfl
    · exact .inl rfl
    · exact .inr rfl
  | _ => cases he

/-- Nobody takes a flag down. -/
theorem Transition.stopped_of_stopped (h : Transition t l es t') {w : Nat}
    (hw : t.stopped w = true) : t'.stopped w = true := by
  cases h with
  | inside hn hstop => exact hstop.stopped_of_stopped hw
  | outside hstop => exact hstop.stopped_of_stopped hw
  | _ => exact hw

/-- A caller stays where it is while others go on. -/
theorem Transition.waits_eq (h : Transition t l es t') {n : Nat}
    (hl : l.thread ≠ some (.caller n)) : t'.waits n = t.waits n := by
  have hne : ∀ {k m}, l = .caller k m → n ≠ k := by
    rintro k m rfl rfl
    exact hl rfl
  cases h with
  | look | pass | sleep | take | refresh | release => exact setWait_waits_of_ne _ _ _ (hne rfl)
  | inside hn hstop => exact congrFun hstop.waits_eq n
  | outside hstop => exact congrFun hstop.waits_eq n
  | _ => rfl

/-- A call from outside stays where it is while others go on. -/
theorem Transition.stops_eq (h : Transition t l es t') {n : Nat} (hl : l ≠ .stop n) :
    t'.stops n = t.stops n := by
  cases h with
  | inside hn hstop => exact congrFun hstop.stops_eq n
  | @outside k p _ t1 hstop =>
    have hne : n ≠ k := by
      rintro rfl
      exact hl rfl
    exact (replaced_of_ne _ _ hne).trans (congrFun hstop.stops_eq n)
  | _ => rfl

/-- A worker stays where it is while others go on, or is the one that is being started. -/
theorem Transition.work_eq_or (h : Transition t l es t') {n : Nat}
    (hl : l.thread ≠ some (.worker n)) :
    t'.work n = t.work n ∨
      l = .start ∧ n = t.nextWorker ∧ t'.nextWorker = n + 1 ∧ t'.worker = some n ∧
        t'.work n = .checking := by
  have hne : ∀ {k m}, l = .worker k m → n ≠ k := by
    rintro k m rfl rfl
    exact hl rfl
  cases h with
  | started =>
    -- a start gives the next number to a worker
    by_cases hn : n = t.nextWorker
    · subst hn
      exact .inr ⟨rfl, rfl, rfl, rfl, replaced_self ..⟩
    · exact .inl (replaced_of_ne _ _ hn)
  | check | ask | round | rounded | recheck | openUp | rested =>
    exact .inl (setWork_work_of_ne _ _ _ (hne rfl))
  | inside _ hstop =>
    exact .inl ((setWork_work_of_ne _ _ _ (hne rfl)).trans (congrFun hstop.work_eq n))
  | outside hstop => exact .inl (congrFun hstop.work_eq n)
  | _ => exact .inl rfl

/-- Workers are never numbered anew. -/
theorem Transition.nextWorker_le (h : Transition t l es t') : t.nextWorker ≤ t'.nextWorker := by
  cases h with
  | started => exact Nat.le_succ _
  | inside hn hstop => exact Nat.le_of_eq hstop.nextWorker_eq.symm
  | outside hstop => exact Nat.le_of_eq hstop.nextWorker_eq.symm
  | _ => exact Nat.le_refl _

/-- A worker that was not started or has ended does not go on. -/
theorem Transition.thread_ne_worker (h : Transition t l es t') {n : Nat}
    (hn : t.work n = .absent ∨ t.work n = .ended) : l.thread ≠ some (.worker n) := by
  intro hl
  obtain ⟨m, rfl⟩ := PollerStep.eq_worker_of_thread hl
  cases h with
  | check hn' | ask hn' | round hn' | inside hn' | rounded hn' | recheck hn' | openUp hn'
  | rested hn' =>
    rw [hn'] at hn
    rcases hn with hn | hn <;> cases hn

end Frame

/-! ## Calls that stop a worker -/

/-- A call is at a phase that stops a worker. It was made from inside a worker, or by a thread that
is no worker. -/
inductive Stopping (t : Threads) : Option Nat → StopPhase → Prop
  | outside (n : Nat) : Stopping t none (t.stops n)
  | inside {n : Nat} {r : Refresh} {p : StopPhase} (hn : t.work n = .refreshing r (some p)) :
      Stopping t (some n) p

section Stopping

variable {t t' : Threads} {l : PollerStep} {es : List PollerEvent} {self : Option Nat}

theorem Stopping.of_stops {n : Nat} {p : StopPhase} (h : t.stops n = p) : t.Stopping none p :=
  h ▸ .outside n

/-- In a round that an observer may be stopping, the step was none of its worker's, or an observer
has begun a stop, or the round has gone on after a stop, or the stop has. -/
theorem Transition.work_refreshing (h : Transition t l es t') {n : Nat} {r : Refresh}
    {p : StopPhase} (hn : t'.work n = .refreshing r (some p)) :
    t.work n = .refreshing r (some p) ∨ (p = .taking ∧ ∃ s, r = .handing s) ∨
      (∃ r0 w, t.work n = .refreshing r0 (some p) ∧ p = .returned w ∧
        RefreshStep (.worker n) r0 r es) ∨
      ∃ q t1, t.work n = .refreshing r (some q) ∧ StopStep (some n) t q p es t1 ∧
        t'.stopped = t1.stopped ∧ t'.worker = t1.worker := by
  by_cases hl : l.thread = some (.worker n)
  · obtain ⟨m, rfl⟩ := PollerStep.eq_worker_of_thread hl
    cases h with
    | check | recheck =>
      -- a round begins without a stop
      rw [setWork_work_self] at hn
      split at hn <;> cases hn
    | ask =>
      rw [setWork_work_self] at hn
      cases hn
      exact .inr (.inl ⟨rfl, _, rfl⟩)
    | round hn' hp hr =>
      rw [setWork_work_self] at hn
      cases hn
      obtain ⟨w, hw⟩ := hp p rfl
      exact .inr (.inr (.inl ⟨_, w, hn', hw, hr⟩))
    | inside hn' hstop =>
      rw [setWork_work_self] at hn
      cases hn
      exact .inr (.inr (.inr ⟨_, _, hn', hstop, rfl, rfl⟩))
    | rounded | openUp | rested =>
      rw [setWork_work_self] at hn
      cases hn
  · rcases h.work_eq_or hl with heq | ⟨-, -, -, -, hchecking⟩
    · exact .inl (heq ▸ hn)
    · rw [hchecking] at hn
      cases hn

/-- A call was at its phase before the step, or has just begun, or the step was its own. -/
theorem Transition.stopping (h : Transition t l es t') {p : StopPhase} (hp : t'.Stopping self p) :
    t.Stopping self p ∨ p = .taking ∨
      ∃ q t1, t.Stopping self q ∧ StopStep self t q p es t1 ∧ t'.stopped = t1.stopped ∧
        t'.worker = t1.worker := by
  cases hp with
  | outside n =>
    by_cases hl : l = .stop n
    · subst hl
      cases h with
      | @outside _ p _ t1 hstop =>
        have hp : replaced t1.stops n p n = p := replaced_self ..
        refine .inr (.inr ⟨_, t1, .outside n, ?_, rfl, rfl⟩)
        simpa only [hp] using hstop
    · rw [h.stops_eq hl]
      exact .inl (.outside n)
  | inside hn =>
    rcases h.work_refreshing hn with hsame | ⟨rfl, -⟩ | ⟨r0, w, hround, -, -⟩ | ⟨q, t1, hq, hstop⟩
    · exact .inl (.inside hsame)
    · exact .inr (.inl rfl)
    · exact .inl (.inside hround)
    · exact .inr (.inr ⟨q, t1, .inside hq, hstop⟩)

/-- The worker stays in its place, or it is a new one, or a call has taken it. -/
theorem Transition.worker_eq_or (h : Transition t l es t') :
    t'.worker = t.worker ∨ t.worker = none ∨
      ∃ self w, t.worker = some w ∧ t'.Stopping self (.flagging w) := by
  cases h with
  | started hw => exact .inr (.inl hw)
  | @inside n r p p' _ t1 hn hstop =>
    rcases hstop.worker_eq_or with heq | ⟨w, hw, rfl⟩
    · exact .inl heq
    · exact .inr (.inr ⟨some n, w, hw, .inside (setWork_work_self ..)⟩)
  | @outside n p _ t1 hstop =>
    rcases hstop.worker_eq_or with heq | ⟨w, hw, rfl⟩
    · exact .inl heq
    · exact .inr (.inr ⟨none, w, hw, .of_stops (replaced_self ..)⟩)
  | _ => exact .inl rfl

/-- Where a stop is seen, the step was the last one of the call. -/
theorem Transition.stopping_of_shut (h : Transition t l es t') {w : Nat}
    (hmem : .shut self w ∈ es) : t.Stopping self (.shutting w) := by
  cases h with
  | inside hn hstop =>
    obtain ⟨v, hv, rfl⟩ := hstop.eq_shut_of_mem hmem
    cases hv
    exact .inside hn
  | @outside n p _ t1 hstop =>
    obtain ⟨v, hv, hp⟩ := hstop.eq_shut_of_mem hmem
    cases hv
    exact hp ▸ .outside n
  | refresh hn hr | round hn hp hr => cases hr.thread_eq _ hmem
  | pass | openUp => cases List.mem_singleton.1 hmem
  | release => simp at hmem
  | _ => cases hmem

end Stopping

/-! ## Runs -/

/-- A run can be cut into two anywhere. -/
theorem run_append (t : Threads) (ls ls' : List PollerStep) :
    t.run (ls ++ ls') = (t.run ls).bind fun t => t.run ls' := by
  induction ls generalizing t with
  | nil => rfl
  | cons l r ih =>
    rw [List.cons_append, run, run, Option.bind_assoc]
    exact Option.bind_congr fun n _ => ih n

/-- What every step keeps holds after every run. -/
theorem run_induction {P : Threads → Prop}
    (hstep : ∀ t l es t', P t → Transition t l es t' → P t') {t t' : Threads}
    {ls : List PollerStep} (h0 : P t) (h : t.run ls = some t') : P t' := by
  induction ls generalizing t with
  | nil =>
    cases h
    exact h0
  | cons l r ih =>
    rw [run, Option.bind_eq_some_iff] at h
    obtain ⟨t1, h1, hr⟩ := h
    obtain ⟨es, ht⟩ := Transition.of_step h1
    exact ih (hstep t l es t1 h0 ht) hr

/-- What was seen before a run stays. -/
theorem exists_past {t t' : Threads} {ls : List PollerStep} (h : t.run ls = some t') :
    ∃ es, t'.past = es ++ t.past := by
  refine run_induction (P := fun t' => ∃ es, t'.past = es ++ t.past) ?_ ⟨[], rfl⟩ h
  rintro t1 l es' t2 ⟨es, hpast⟩ ht
  exact ⟨es' ++ es, by rw [ht.past_eq, hpast, List.append_assoc]⟩

/-- What every step keeps holds of what was seen in a run and of the state after it. -/
theorem run_induction_past {P : List PollerEvent → Threads → Prop} {t t' : Threads}
    {ls : List PollerStep} {es : List PollerEvent}
    (hstep : ∀ es t1 l es' t2, l ∈ ls → P es t1 → Transition t1 l es' t2 → P (es' ++ es) t2)
    (h0 : P [] t) (h : t.run ls = some t') (hpast : t'.past = es ++ t.past) : P es t' := by
  -- on the steps that are still to come, with what was seen since the start of the run
  suffices hgen : ∀ r before t1, (∀ l ∈ r, l ∈ ls) → t1.past = before ++ t.past → P before t1 →
      t1.run r = some t' → P es t' from
    hgen ls [] t (fun _ hl => hl) rfl h0 h
  intro r
  induction r with
  | nil =>
    intro before t1 _ hbefore hp hr
    cases hr
    rwa [List.append_cancel_right (hpast.symm.trans hbefore)]
  | cons l r ih =>
    intro before t1 hls hbefore hp hr
    rw [run, Option.bind_eq_some_iff] at hr
    obtain ⟨t2, h2, hr⟩ := hr
    obtain ⟨es', ht⟩ := Transition.of_step h2
    refine ih (es' ++ before) t2 (fun k hk => hls k (List.mem_cons_of_mem l hk)) ?_ ?_ hr
    · rw [ht.past_eq, hbefore, List.append_assoc]
    · exact hstep before t1 l es' t2 (hls l List.mem_cons_self) hp ht

end Threads
end LinkWatch
