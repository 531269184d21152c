import LinkWatch.Proofs.Threads.Apart

/-!
# One fetch for everybody who waits

Any number of callers wait for the first snapshot of a poller that nobody stops in the meantime. At
most one of them makes a fetch: the one that finds the barrier shut and nobody at work
(`Shared`). Where no worker runs that could open the barrier, nobody passes before that fetch
(`Alone`), so that there is exactly one. None is made where the barrier is open already.

Nobody passes before the barrier was opened for a whole fetch, but the fetch may be one from before
the barrier was shut last: a stop may shut the barrier while the next worker is in the middle of a
round, and that worker opens it all the same (`passed_without_fetch_since_shut`).
-/

namespace LinkWatch

/-- True where a caller begins a fetch. -/
def PollerEvent.isCallerFetch : PollerEvent → Bool
  | .fetchBegan (.caller _) => true
  | _ => false

/-- The number of fetches that callers have begun. -/
def callerFetches (es : List PollerEvent) : Nat := es.countP PollerEvent.isCallerFetch

namespace Threads

variable {t t' : Threads} {l : PollerStep} {es es' : List PollerEvent}

theorem callerFetches_append : callerFetches (es' ++ es) = callerFetches es' + callerFetches es :=
  List.countP_append

/-! ## Fetches of callers in a step -/

/-- In a step no caller begins a fetch, or one does whose round is ready. -/
theorem Transition.callerFetches_eq (h : Transition t l es t') :
    callerFetches es = 0 ∨
      ∃ n, callerFetches es = 1 ∧ t.round (.caller n) = some .ready ∧
        t'.round (.caller n) = some .fetching := by
  cases h with
  | @refresh n m r r' es hn hr =>
    -- of the steps of a round only the first is the beginning of a fetch
    cases hr with
    | began => exact .inr ⟨n, rfl, round_caller hn, setWait_round ..⟩
    | failed | fetched | handed => exact .inl rfl
  | round _ _ hr => cases hr <;> exact .inl rfl
  | inside _ hstop | outside hstop =>
    rcases hstop.barrier_eq_or with ⟨-, rfl⟩ | ⟨-, w, rfl⟩
    · exact .inl rfl
    · exact .inl rfl
  | _ => exact .inl rfl

/-- Where no caller is taking a snapshot, none begins a fetch. -/
theorem Transition.callerFetches_of_idle (h : Transition t l es t')
    (hidle : ∀ n, t.round (.caller n) = none) : callerFetches es = 0 := by
  rcases h.callerFetches_eq with hzero | ⟨n, -, hready, -⟩
  · exact hzero
  · rw [hidle n] at hready
    cases hready

/-- A caller was taking a snapshot before the step, or it is the one that goes on and has found that
nobody has made the first fetch. -/
theorem Transition.caller_round (h : Transition t l es t') {n : Nat} {r' : Refresh}
    (hr : t'.round (.caller n) = some r') :
    (∃ r, t.round (.caller n) = some r) ∨
      l.thread = some (.caller n) ∧ t.barrier = .pending ∧ t'.barrier = .inProgress := by
  rcases h.round_cases hr with ⟨hsame, -⟩ | ⟨hl, -, hbarrier⟩ | ⟨r, hbefore, -⟩
  · exact .inl ⟨r', hsame⟩
  · exact .inr ⟨hl, hbarrier n rfl⟩
  · exact .inl ⟨r, hbefore⟩

/-- Without a stop the barrier stays as it is, or the first fetch has begun, or it is open. -/
theorem Transition.barrier_or (h : Transition t l es t') (hes : ∀ e ∈ es, e.isShut = false) :
    t'.barrier = t.barrier ∨ t.barrier = .pending ∧ t'.barrier = .inProgress ∨
      t'.barrier = .done := by
  cases h with
  | take hn hb => exact .inr (.inl ⟨hb, rfl⟩)
  | release | openUp => exact .inr (.inr rfl)
  -- a stop leaves the barrier alone until it shuts it
  | inside _ hstop | outside hstop =>
    rcases hstop.barrier_eq_or with ⟨heq, -⟩ | ⟨-, w, rfl⟩
    · exact .inl heq
    · cases hes _ List.mem_cons_self
  | _ => exact .inl rfl

/-- Without a stop a barrier that is shut was shut before. -/
theorem Transition.barrier_pending (h : Transition t l es t') (hes : ∀ e ∈ es, e.isShut = false)
    (hb : t'.barrier = .pending) : t.barrier = .pending := by
  rcases h.barrier_or hes with heq | ⟨hpending, -⟩ | hdone
  · exact heq ▸ hb
  · exact hpending
  · rw [hdone] at hb
    cases hb

/-- Without a stop an open barrier stays open. -/
theorem Transition.barrier_stays_open (h : Transition t l es t')
    (hes : ∀ e ∈ es, e.isShut = false) (hb : t.barrier = .done) : t'.barrier = .done := by
  rcases h.barrier_or hes with heq | ⟨hpending, -⟩ | hdone
  · exact heq.trans hb
  · rw [hb] at hpending
    cases hpending
  · exact hdone

/-! ## At most one fetch -/

/-- The callers since a moment at which none of them was taking a snapshot, with what was seen since
then: where nobody has made the first fetch no caller has begun one, and at most one of them ever
does. -/
structure Shared (es : List PollerEvent) (t : Threads) : Prop where
  fresh : t.barrier = .pending → callerFetches es = 0 ∧ ∀ n, t.round (.caller n) = none
  single : ∀ n k r r', t.round (.caller n) = some r → t.round (.caller k) = some r' → n = k
  ready : ∀ n, t.round (.caller n) = some .ready → callerFetches es = 0
  most : callerFetches es ≤ 1

/-- In the beginning nobody is taking a snapshot and no fetch was seen. -/
theorem Shared.of_idle (hidle : ∀ n, t.round (.caller n) = none) : Shared [] t where
  fresh := fun _ => ⟨rfl, hidle⟩
  single := by
    intro n k r r' hn
    rw [hidle n] at hn
    cases hn
  ready := fun _ _ => rfl
  most := Nat.zero_le 1

/-- While nobody has made the first fetch, no caller goes on with one. -/
theorem Shared.fresh_step (h : Shared es t) (ht : Transition t l es' t')
    (hes : ∀ e ∈ es', e.isShut = false) (hb : t'.barrier = .pending) :
    callerFetches (es' ++ es) = 0 ∧ ∀ n, t'.round (.caller n) = none := by
  obtain ⟨hzero, hidle⟩ := h.fresh (ht.barrier_pending hes hb)
  refine ⟨?_, fun n => ?_⟩
  · rw [callerFetches_append, ht.callerFetches_of_idle hidle, hzero]
  · cases hr : t'.round (.caller n) with
    | none => rfl
    | some r' =>
      rcases ht.caller_round hr with ⟨r, hbefore⟩ | ⟨-, -, hprogress⟩
      · rw [hidle n] at hbefore
        cases hbefore
      · rw [hb] at hprogress
        cases hprogress

/-- A second caller begins a round only where nobody has made the first fetch, and then no other is
in one. -/
theorem Shared.single_step (h : Shared es t) (ht : Transition t l es' t') {n k : Nat}
    {r r' : Refresh} (hn : t'.round (.caller n) = some r) (hk : t'.round (.caller k) = some r') :
    n = k := by
  rcases ht.caller_round hn with ⟨r0, hn0⟩ | ⟨hln, hpending, -⟩
  · rcases ht.caller_round hk with ⟨r0', hk0⟩ | ⟨-, hpending, -⟩
    · exact h.single n k r0 r0' hn0 hk0
    · -- one was in its round, so that the other cannot have found the barrier shut
      rw [(h.fresh hpending).2 n] at hn0
      cases hn0
  · rcases ht.caller_round hk with ⟨r0', hk0⟩ | ⟨hlk, -, -⟩
    · rw [(h.fresh hpending).2 k] at hk0
      cases hk0
    · -- both are the caller that goes on
      rw [hln] at hlk
      cases hlk
      rfl

/-- The caller that is to begin its fetch is the only one, so no fetch was seen before. -/
theorem Shared.ready_step (h : Shared es t) (ht : Transition t l es' t') {n : Nat}
    (hn : t'.round (.caller n) = some .ready) : callerFetches (es' ++ es) = 0 := by
  rw [callerFetches_append]
  rcases ht.round_cases hn with ⟨hsame, -⟩ | ⟨-, -, hbarrier⟩ | ⟨r, -, hstep⟩
  · rw [h.ready n hsame, Nat.add_zero]
    rcases ht.callerFetches_eq with hzero | ⟨k, -, hk, hfetching⟩
    · exact hzero
    · -- the caller that begins its fetch is this one, which has not begun
      rw [h.single k n _ _ hk hsame, hn] at hfetching
      cases hfetching
  · obtain ⟨hzero, hidle⟩ := h.fresh (hbarrier n rfl).1
    rw [ht.callerFetches_of_idle hidle, hzero]
  · cases hstep

/-- A step without a stop keeps what the callers share. -/
theorem Shared.step (h : Shared es t) (ht : Transition t l es' t')
    (hes : ∀ e ∈ es', e.isShut = false) : Shared (es' ++ es) t' where
  fresh := h.fresh_step ht hes
  single := fun _ _ _ _ => h.single_step ht
  ready := fun _ => h.ready_step ht
  most := by
    rw [callerFetches_append]
    rcases ht.callerFetches_eq with hzero | ⟨n, hone, hready, -⟩
    · have hmost := h.most
      omega
    · -- the caller that begins its fetch was ready, so this is the first
      have hzero := h.ready n hready
      omega

/-! ## No fetch where the barrier is open -/

/-- The callers since a moment at which the barrier was open and none of them was taking a
snapshot. -/
structure Idle (es : List PollerEvent) (t : Threads) : Prop where
  opened : t.barrier = .done
  idle : ∀ n, t.round (.caller n) = none
  none : callerFetches es = 0

/-- Where the barrier is open, no caller begins a round. -/
theorem Idle.step (h : Idle es t) (ht : Transition t l es' t')
    (hes : ∀ e ∈ es', e.isShut = false) : Idle (es' ++ es) t' where
  opened := ht.barrier_stays_open hes h.opened
  idle := by
    intro n
    cases hr : t'.round (.caller n) with
    | none => rfl
    | some r' =>
      rcases ht.caller_round hr with ⟨r, hbefore⟩ | ⟨-, hpending, -⟩
      · rw [h.idle n] at hbefore
        cases hbefore
      · rw [h.opened] at hpending
        cases hpending
  none := by rw [callerFetches_append, ht.callerFetches_of_idle h.idle, h.none]

/-! ## One fetch where no worker runs -/

/-- The callers since a moment at which nobody had made the first fetch and no worker ran, and with
no worker since then: nobody gets past the barrier before a caller has begun a fetch. -/
structure Alone (es : List PollerEvent) (t : Threads) : Prop where
  unmanned : ∀ w, t.work w = .absent ∨ ∃ self, t.Retired self w
  opened : t.barrier = .done → 0 < callerFetches es
  begun : ∀ n r, t.round (.caller n) = some r → r = .ready ∨ 0 < callerFetches es
  passed : ∀ n, .passed n ∈ es → 0 < callerFetches es

theorem callerFetches_pos_append (h : 0 < callerFetches es) : 0 < callerFetches (es' ++ es) := by
  rw [callerFetches_append]
  exact Nat.add_pos_right _ h

/-- No worker comes to life unless one is started. -/
theorem Alone.unmanned_step (h : Alone es t) (ho : Ordered t) (ht : Transition t l es' t')
    (hl : l ≠ .start) (w : Nat) : t'.work w = .absent ∨ ∃ self, t'.Retired self w := by
  rcases h.unmanned w with habsent | ⟨self, hr⟩
  · -- a number comes into use with a start only
    rcases ht.work_eq_or (ht.thread_ne_worker (.inl habsent)) with heq | ⟨hstart, -⟩
    · exact .inl (heq.trans habsent)
    · exact absurd hstart hl
  · exact .inr ⟨self, (hr.step ho ht).1⟩

/-- Only a caller can open the barrier here, at the end of a round with a fetch. -/
theorem Alone.opened_step (h : Alone es t) (ho : Ordered t) (ht : Transition t l es' t')
    (hb : t'.barrier = .done) : 0 < callerFetches (es' ++ es) := by
  rcases ht.barrier_done hb with ⟨hdone, -⟩ | ⟨thread, before, hcomplete, rfl, -⟩
  · exact callerFetches_pos_append (h.opened hdone)
  · cases thread with
    | caller n =>
      rcases h.begun n _ hcomplete with hready | hpos
      · cases hready
      · exact callerFetches_pos_append hpos
    | worker w =>
      -- a worker that is done with does not open the barrier
      rcases h.unmanned w with habsent | ⟨self, hr⟩
      · rw [round_worker habsent] at hcomplete
        cases hcomplete
      · have hmem : .opened (.worker w) ∈ before ++ [.opened (.worker w)] :=
          List.mem_append_right before List.mem_cons_self
        exact absurd rfl ((hr.step ho ht).2 _ hmem)

/-- A caller that is past the beginning of its round has begun a fetch. -/
theorem Alone.begun_step (h : Alone es t) (ht : Transition t l es' t') {n : Nat} {r : Refresh}
    (hr : t'.round (.caller n) = some r) : r = .ready ∨ 0 < callerFetches (es' ++ es) := by
  rcases ht.round_cases hr with ⟨hsame, -⟩ | ⟨-, hready, -⟩ | ⟨r0, hbefore, hstep⟩
  · exact (h.begun n r hsame).imp_right callerFetches_pos_append
  · exact .inl hready
  · right
    rcases h.begun n r0 hbefore with rfl | hpos
    · -- its fetch begins in this step
      cases hstep
      rw [callerFetches_append]
      exact Nat.add_pos_left Nat.one_pos _
    · exact callerFetches_pos_append hpos

/-- Whoever passes finds the barrier open, which takes a fetch. -/
theorem Alone.passed_step (h : Alone es t) (ht : Transition t l es' t') {n : Nat}
    (hmem : .passed n ∈ es' ++ es) : 0 < callerFetches (es' ++ es) := by
  rcases List.mem_append.1 hmem with hnew | hold
  · obtain ⟨later, earlier, hes⟩ := List.append_of_mem hnew
    rcases ht.passed hes with ⟨hdone, -⟩ | ⟨hcomplete, -⟩
    · exact callerFetches_pos_append (h.opened hdone)
    · rcases h.begun n _ hcomplete with hready | hpos
      · cases hready
      · exact callerFetches_pos_append hpos
  · exact callerFetches_pos_append (h.passed n hold)

theorem Alone.step (h : Alone es t) (ho : Ordered t) (ht : Transition t l es' t')
    (hl : l ≠ .start) : Alone (es' ++ es) t' where
  unmanned := h.unmanned_step ho ht hl
  opened := h.opened_step ho ht
  begun := fun _ _ => h.begun_step ht
  passed := fun _ => h.passed_step ht

/-- A poller whose worker is not in its place and is not being stopped is done with all workers. -/
theorem Alone.of_pending (haccounted : Accounted t) (hworker : t.worker = none)
    (hstops : ∀ self p, t.Stopping self p → p.target = none) (hb : t.barrier = .pending)
    (hidle : ∀ n, t.round (.caller n) = none) : Alone [] t where
  unmanned := by
    -- a worker that was started is in its place, is being stopped, or is done with
    intro w
    rcases haccounted w with habsent | hplace | ⟨self, p, hp, hw⟩ | hr
    · exact .inl habsent
    · rw [hworker] at hplace
      cases hplace
    · rw [hstops self p hp] at hw
      cases hw
    · exact .inr hr
  opened := by
    intro hdone
    rw [hb] at hdone
    cases hdone
  begun := by
    intro n r hr
    rw [hidle n] at hr
    cases hr
  passed := fun n hmem => by cases hmem

/-! ## Runs without a stop -/

section Runs

variable {ls : List PollerStep}

/-- What every step keeps that does not shut the barrier holds as long as nobody shuts it. -/
theorem run_induction_unshut {P : List PollerEvent → Threads → Prop}
    (hstep : ∀ es t1 l es' t2, P es t1 → Transition t1 l es' t2 → (∀ e ∈ es', e.isShut = false) →
      P (es' ++ es) t2)
    (h0 : P [] t) (hrun : t.run ls = some t') (hpast : t'.past = es ++ t.past)
    (hes : ∀ e ∈ es, e.isShut = false) : P es t' := by
  revert hes
  refine run_induction_past (P := fun es t => (∀ e ∈ es, e.isShut = false) → P es t) ?_
    (fun _ => h0) hrun hpast
  intro es t1 l es' t2 _ hkept ht hes
  obtain ⟨hnew, hold⟩ := List.forall_mem_append.1 hes
  exact hstep es t1 l es' t2 (hkept hold) ht hnew

theorem Shared.run (h : Shared [] t) (hrun : t.run ls = some t') (hpast : t'.past = es ++ t.past)
    (hes : ∀ e ∈ es, e.isShut = false) : Shared es t' :=
  run_induction_unshut (fun _ _ _ _ _ hkept => hkept.step) h hrun hpast hes

theorem Idle.run (h : Idle [] t) (hrun : t.run ls = some t') (hpast : t'.past = es ++ t.past)
    (hes : ∀ e ∈ es, e.isShut = false) : Idle es t' :=
  run_induction_unshut (fun _ _ _ _ _ hkept => hkept.step) h hrun hpast hes

theorem Alone.run (h : Alone [] t) (ho : Ordered t) (hrun : t.run ls = some t')
    (hpast : t'.past = es ++ t.past) (hstart : .start ∉ ls) : Alone es t' := by
  have hkept : Ordered t' ∧ Alone es t' := by
    refine run_induction_past (P := fun es t => Ordered t ∧ Alone es t) ?_ ⟨ho, h⟩ hrun hpast
    rintro es t1 l es' t2 hl ⟨hordered, halone⟩ ht
    refine ⟨hordered.step ht, halone.step hordered ht ?_⟩
    rintro rfl
    exact hstart hl
  exact hkept.2

end Runs

/-! ## Main result -/

/-- Any number of callers wait for the first snapshot while nobody shuts the barrier, and in the
beginning none of them is taking it. At most one of them makes a fetch, and none where the barrier is
open in the beginning. Where nobody has made the first fetch, no worker runs and none is started,
exactly one of them makes a fetch before anybody passes.

Whether somebody shuts the barrier or not, nobody passes before it was opened for a fetch that has
ended and whose snapshot, if there is one, was handed over. Such a fetch was made since the barrier
was shut last, unless it was shut in the middle of the round that it was opened for. This does not
happen where no worker is started and no caller takes a snapshot while a stop is under way. -/
theorem waiters_share_one_fetch {before ls : List PollerStep} (hbefore : new.run before = some t)
    (hidle : ∀ n r, t.waits n ≠ .refreshing r) (hrun : t.run ls = some t') :
    ∃ es, t'.past = es ++ t.past ∧
      ((∀ self w, .shut self w ∉ es) →
        callerFetches es ≤ 1 ∧ (t.barrier = .done → callerFetches es = 0) ∧
        (t.barrier = .pending → t.worker = none →
          (∀ self p, t.Stopping self p → p.target = none) → .start ∉ ls → (∃ n, .passed n ∈ es) →
          callerFetches es = 1)) ∧
      (∀ later n earlier, es = later ++ .passed n :: earlier →
        ∃ thread round, OpenedFor thread round (earlier ++ t.past) ∧
          (Backed (earlier ++ t.past) ∨ ∃ self w, .shut self w ∈ round)) ∧
      (StopsApart new (before ++ ls) →
        ∀ later n earlier, es = later ++ .passed n :: earlier → Backed (earlier ++ t.past)) := by
  obtain ⟨es, hpast⟩ := exists_past hrun
  have hround : ∀ n, t.round (.caller n) = none := by
    intro n
    cases hn : t.waits n with
    | refreshing r => exact absurd hn (hidle n r)
    | _ => exact round_caller hn
  have hrun' : new.run (before ++ ls) = some t' := by
    rw [run_append, hbefore, Option.bind_some, hrun]
  have hpassed {later earlier : List PollerEvent} {n : Nat}
      (hes : es = later ++ .passed n :: earlier) :
      t'.past = later ++ .passed n :: (earlier ++ t.past) := by
    rw [hpast, hes, List.append_assoc, List.cons_append]
  refine ⟨es, hpast, fun hshut => ?_, fun later n earlier hes => ?_,
    fun hapart later n earlier hes => ?_⟩
  · -- how many fetches there are, while the barrier is not shut
    have hes := forall_isShut_eq_false hshut
    have hshared := (Shared.of_idle hround).run hrun hpast hes
    refine ⟨hshared.most, fun hdone => ?_, fun hpending hworker hstops hstart hpassed => ?_⟩
    · exact (Idle.run ⟨hdone, hround, rfl⟩ hrun hpast hes).none
    · have halone := (Alone.of_pending (.run hbefore) hworker hstops hpending hround).run
        (.run hbefore) hrun hpast hstart
      obtain ⟨n, hn⟩ := hpassed
      exact Nat.le_antisymm hshared.most (halone.passed n hn)
  · -- the fetch behind whoever passes, whether the barrier is shut or not
    obtain ⟨thread, round, hopened⟩ := openedFor_of_passed hrun' (hpassed hes)
    refine ⟨thread, round, hopened, ?_⟩
    by_cases hshut : ∃ self w, .shut self w ∈ round
    · exact .inr hshut
    · exact .inl (hopened.backed (forall_isShut_eq_false fun self w hmem => hshut ⟨self, w, hmem⟩))
  · exact backed_of_passed hapart hrun' (hpassed hes)

/-- Steps of three callers. The first makes a fetch, which fails, while the second sleeps and wakes
for no reason; the third comes when the barrier is open. -/
def threeCallers : List PollerStep :=
  [.caller 0 .proceed, .caller 1 .proceed, .caller 0 .proceed, .caller 1 .proceed,
    .caller 0 .proceed, .caller 1 .proceed, .caller 1 .proceed, .caller 0 (.fetched none),
    .caller 0 .proceed, .caller 1 .proceed, .caller 1 .proceed, .caller 2 .proceed,
    .caller 2 .proceed]

/-- A worker is stopped before three callers come. They share one fetch, and the last one passes
with it behind it. -/
theorem waiters_share_one_fetch_after_stop :
    ∃ t t' es, new.run stoppedOutside = some t ∧ (∀ n r, t.waits n ≠ .refreshing r) ∧
      t.run threeCallers = some t' ∧ t'.past = es ++ t.past ∧ callerFetches es = 1 ∧
      es = .passed 2 :: es.tail ∧ StopsApart new (stoppedOutside ++ threeCallers) ∧
      Backed (es.tail ++ t.past) := by
  obtain ⟨t, t', es, hbefore, hshut, hwaits, hwork, hstops, hworker, hpending, hrun, hpast, hes⟩ :
      ∃ t t' es, new.run stoppedOutside = some t ∧
        t.past = [.shut none 0, .handed (.worker 0) .empty, .handing (.worker 0) .empty,
          .fetchEnded (.worker 0) (some .empty), .fetchBegan (.worker 0)] ∧
        (∀ n, t.waits n = .away) ∧
        (∀ n, (t.work n).refresh? = none) ∧
        (∀ n, (t.stops n).target = none) ∧ t.worker = none ∧ t.barrier = .pending ∧
        t.run threeCallers = some t' ∧ t'.past = es ++ t.past ∧
        es = [.passed 2, .passed 1, .passed 0, .opened (.caller 0), .fetchEnded (.caller 0) none,
          .fetchBegan (.caller 0)] :=
    ⟨_, _, _, rfl, rfl, fun _ => rfl, by rintro (_ | n) <;> rfl, by rintro (_ | n) <;> rfl, rfl,
      rfl, rfl, rfl, rfl⟩
  have hidle : ∀ n r, t.waits n ≠ .refreshing r := fun n r hr => by
    rw [hwaits n] at hr
    cases hr
  have htarget : ∀ self p, t.Stopping self p → p.target = none := by
    intro self p hp
    cases hp with
    | outside n => exact hstops n
    | @inside n r _ hn =>
      have hnone := hwork n
      rw [hn] at hnone
      cases hnone
  -- the worker is stopped before anybody waits
  have houtside : StopsApart new stoppedOutside :=
    ⟨fun hstopping => absurd hstopping not_isStopping_new, fun t1 h1 =>
      .of_away (by cases h1; exact fun _ => rfl) (by simp [PollerStep.thread])⟩
  have hapart : StopsApart new (stoppedOutside ++ threeCallers) := by
    refine houtside.append fun t1 h1 => .of_callers ?_ (by simp [threeCallers])
    rw [hbefore] at h1
    cases h1
    rintro ⟨self, p, w, hp, hw⟩
    rw [htarget self p hp] at hw
    cases hw
  obtain ⟨es', hpast', hshared, -, hbacked⟩ := waiters_share_one_fetch hbefore hidle hrun
  obtain rfl : es' = es := List.append_cancel_right (hpast'.symm.trans hpast)
  have hnone : ∀ self w, .shut self w ∉ es' := by simp [hes]
  have hone : callerFetches es' = 1 := (hshared hnone).2.2 hpending hworker htarget
    (by simp [threeCallers]) ⟨0, by simp [hes]⟩
  have hlast : es' = .passed 2 :: es'.tail := by rw [hes]; rfl
  exact ⟨t, t', es', hbefore, hidle, hrun, hpast, hone, hlast, hapart,
    hbacked hapart [] 2 es'.tail hlast⟩

/-! ## A fetch from before -/

/-- Steps in which a stop has taken the first worker, and shuts the barrier when the second one has
made a fetch, which failed, and is about to open it. -/
def lateShut : List PollerStep :=
  [.start, .stop 0, .start, .worker 1 .proceed, .worker 1 .proceed, .worker 1 (.fetched none),
    .worker 1 .proceed, .worker 1 .proceed, .stop 0, .worker 0 .proceed, .stop 0, .stop 0]

/-- Steps in which a caller waits, and a stop then finds no worker. -/
def missedStop : List PollerStep :=
  [.caller 0 .proceed, .caller 0 .proceed, .caller 0 .proceed, .caller 0 (.fetched none),
    .caller 0 .proceed, .stop 0]

/-- Nobody is stopping a worker any more and no caller has come yet. A caller passes without any
fetch since the barrier was shut last. A caller also passes without any fetch since a stop that has
found no worker, since such a stop does not shut the barrier. -/
theorem passed_without_fetch_since_shut :
    (∃ t t' es, new.run lateShut = some t ∧ (∀ n, t.waits n = .away) ∧
      (∀ self p, t.Stopping self p → p.target = none) ∧ t.barrier = .pending ∧
      t.run [.worker 1 .proceed, .caller 0 .proceed, .caller 0 .proceed] = some t' ∧
      t'.past = es ++ t.past ∧ (∀ self w, .shut self w ∉ es) ∧
      es = .passed 0 :: es.tail ∧ ¬ Backed (es.tail ++ t.past)) ∧
    ∃ t t', new.run missedStop = some t ∧ t.stops 0 = .returned none ∧ t.barrier = .done ∧
      t.run [.caller 1 .proceed, .caller 1 .proceed] = some t' ∧
      t'.past = .passed 1 :: t.past := by
  constructor
  · obtain ⟨t, t', hbefore, hpast, haway, hfirst, hsecond, hothers, hstops, hpending, hrun,
        hpast'⟩ :
        ∃ t t', new.run lateShut = some t ∧
          t.past = [.shut none 0, .fetchEnded (.worker 1) none, .fetchBegan (.worker 1)] ∧
          (∀ n, t.waits n = .away) ∧
          t.work 0 = .ended ∧ t.work 1 = .opening ∧ (∀ n, t.work (n + 2) = .absent) ∧
          (∀ n, (t.stops n).target = none) ∧ t.barrier = .pending ∧
          t.run [.worker 1 .proceed, .caller 0 .proceed, .caller 0 .proceed] = some t' ∧
          t'.past = [.passed 0, .opened (.worker 1)] ++ t.past :=
      ⟨_, _, rfl, rfl, fun _ => rfl, rfl, rfl, fun _ => rfl, by rintro (_ | n) <;> rfl, rfl, rfl,
        rfl⟩
    have htarget : ∀ self p, t.Stopping self p → p.target = none := by
      intro self p hp
      cases hp with
      | outside n => exact hstops n
      | @inside n r _ hn =>
        -- no worker is in a round
        match n with
        | 0 => rw [hfirst] at hn; cases hn
        | 1 => rw [hsecond] at hn; cases hn
        | n + 2 => rw [hothers n] at hn; cases hn
    refine ⟨t, t', _, hbefore, haway, htarget, hpending, hrun, hpast', by simp, rfl, ?_⟩
    -- all that was seen since then is that the barrier was opened
    rintro ⟨thread, s, hfetch⟩
    rw [hpast] at hfetch
    have hsince : (wholeFetch thread s).length ≤ 1 := hfetch.length_le
    cases s with
    | none => exact absurd hsince (Nat.not_succ_le_self 1)
    | some s => exact absurd hsince (by simp [wholeFetch])
  · exact ⟨_, _, rfl, rfl, rfl, rfl, rfl⟩

end Threads
end LinkWatch
