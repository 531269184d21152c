import LinkWatch.Proofs.Threads.Step

/-!
# A worker that was stopped is done with

Once a call that stops a worker has returned, the worker begins no fetch and does not open the
barrier any more. If the call was made by another thread, the worker has ended, since the call has
waited for that. If an observer has made it from inside the worker, the round comes to its end with
the flag up.

`Ordered` is what the argument needs of the workers and of the calls at any time: an observer stops
a worker from inside only while it is being told of a snapshot, after the fetch, and each call has
brought about what its phase says.
-/

namespace LinkWatch

/-- What a worker does not do any more that is done with. If it was stopped from inside its own
round, it still comes to the end of it. -/
def PollerEvent.Revives (self : Option Nat) (w : Nat) : PollerEvent → Prop
  | .fetchBegan thread => thread = .worker w
  | .fetchEnded thread _ => thread = .worker w
  | .handing thread _ => thread = .worker w
  | .handed thread _ => thread = .worker w ∧ self ≠ some w
  | .opened thread => thread = .worker w
  | .shut .. => False
  | .passed _ => False

/-- A phase from which a worker comes to its end without another fetch if its flag is up. -/
def WorkPhase.IsLast : WorkPhase → Prop
  | .refreshing (.handing _) _ => True
  | .refreshing .complete _ => True
  | .rechecking => True
  | .ended => True
  | _ => False

theorem PollerEvent.thread_of_revives {self : Option Nat} {w : Nat} {e : PollerEvent}
    (h : e.Revives self w) : e.thread = some (.worker w) := by
  cases e with
  | handed thread s => rw [PollerEvent.thread, h.1]
  | shut => cases h
  | passed => cases h
  | _ =>
    rw [PollerEvent.thread]
    exact congrArg some h

namespace Threads

variable {t t' : Threads} {l : PollerStep} {self : Option Nat} {w : Nat} {p : StopPhase}
  {es : List PollerEvent}

/-! ## Workers and calls at any time -/

/-- What a call has brought about at its phase that stops a worker. -/
def Reached (t : Threads) (self : Option Nat) : StopPhase → Prop
  | .taking => True
  | .flagging _ => True
  | .joining w => t.stopped w = true
  | .shutting w => t.stopped w = true ∧ (self = some w ∨ t.work w = .ended)
  | .returned _ => True

/-- Workers are numbered in the order in which they are started, an observer stops a worker from
inside only while it is told of a snapshot, and every call has brought about what its phase says. -/
structure Ordered (t : Threads) : Prop where
  absent : ∀ n, t.nextWorker ≤ n → t.work n = .absent
  inside : ∀ n r p, t.work n = .refreshing r (some p) →
    (∃ s, r = .handing s) ∨ r = .complete ∧ ∃ w, p = .returned w
  reached : ∀ self p, t.Stopping self p → t.Reached self p

theorem Ordered.lt_nextWorker (h : Ordered t) (hw : t.work w ≠ .absent) : w < t.nextWorker :=
  Nat.lt_of_not_le fun hle => hw (h.absent w hle)

/-- A worker stays where it is while others go on, if it was started. -/
theorem Ordered.work_eq (h : Ordered t) (ht : Transition t l es t') (hw : t.work w ≠ .absent)
    (hl : l.thread ≠ some (.worker w)) : t'.work w = t.work w := by
  rcases ht.work_eq_or hl with heq | ⟨-, hnext, -, -, -⟩
  · exact heq
  · exact absurd hnext (Nat.ne_of_lt (h.lt_nextWorker hw))

/-- A worker that has ended does not go on. -/
theorem Ordered.ended_of_ended (h : Ordered t) (ht : Transition t l es t')
    (hw : t.work w = .ended) : t'.work w = .ended := by
  rw [← hw]
  exact h.work_eq ht (by simp [hw]) (ht.thread_ne_worker (.inr hw))

theorem Ordered.new : Ordered new where
  absent := fun _ _ => rfl
  inside := fun _ _ _ h => by cases h
  reached := by
    intro self p h
    cases h with
    | outside => trivial
    | inside h => cases h

theorem Ordered.absent_step (h : Ordered t) (ht : Transition t l es t') {n : Nat}
    (hn : t'.nextWorker ≤ n) : t'.work n = .absent := by
  have habsent := h.absent n (Nat.le_trans ht.nextWorker_le hn)
  rcases ht.work_eq_or (ht.thread_ne_worker (.inl habsent)) with heq | ⟨-, -, hnext, -, -⟩
  · rw [heq, habsent]
  · rw [hnext] at hn
    exact absurd hn (Nat.not_succ_le_self n)

theorem Ordered.inside_step (h : Ordered t) (ht : Transition t l es t') {n : Nat} {r : Refresh}
    (hn : t'.work n = .refreshing r (some p)) :
    (∃ s, r = .handing s) ∨ r = .complete ∧ ∃ w, p = .returned w := by
  rcases ht.work_refreshing hn with hsame | ⟨-, hs⟩ | ⟨r0, w, hround, hw, hr⟩ | ⟨q, t1, hq, hstop, -⟩
  · exact h.inside n r p hsame
  · exact .inl hs
  · rcases h.inside n r0 p hround with ⟨s, rfl⟩ | ⟨rfl, -⟩
    · -- the observers were told
      cases hr
      exact .inr ⟨rfl, w, hw⟩
    · cases hr
  · rcases h.inside n r q hq with hs | ⟨-, v, rfl⟩
    · exact .inl hs
    · cases hstop

/-- What a call has brought about stays. -/
theorem Ordered.reached_of_reached (h : Ordered t) (ht : Transition t l es t')
    (hp : t.Reached self p) : t'.Reached self p := by
  cases p with
  | joining w => exact ht.stopped_of_stopped hp
  | shutting w =>
    obtain ⟨hstopped, hself | hended⟩ := hp
    · exact ⟨ht.stopped_of_stopped hstopped, .inl hself⟩
    · exact ⟨ht.stopped_of_stopped hstopped, .inr (h.ended_of_ended ht hended)⟩
  | _ => trivial

theorem Ordered.reached_step (h : Ordered t) (ht : Transition t l es t') (hp : t'.Stopping self p) :
    t'.Reached self p := by
  rcases ht.stopping hp with hold | rfl | ⟨q, t1, hq, hstop, hstopped, -⟩
  · exact h.reached_of_reached ht (h.reached self p hold)
  · trivial
  · have hq := h.reached self q hq
    cases hstop with
    | raised w =>
      have hw : t'.stopped w = true := by
        rw [hstopped]
        exact replaced_self ..
      split
      · next hself => exact ⟨hw, .inl hself⟩
      · exact hw
    | joined hw =>
      -- the flag was raised before the wait
      exact ⟨ht.stopped_of_stopped hq, .inr (h.ended_of_ended ht hw)⟩
    | missed | taken | shut => trivial

theorem Ordered.step (h : Ordered t) (ht : Transition t l es t') : Ordered t' where
  absent := fun _ hn => h.absent_step ht hn
  inside := fun _ _ _ hn => h.inside_step ht hn
  reached := fun _ _ hp => h.reached_step ht hp

theorem Ordered.run {ls : List PollerStep} (h : Threads.new.run ls = some t) : Ordered t :=
  run_induction (fun _ _ _ _ h ht => h.step ht) .new h

/-! ## Workers that are done with -/

/-- The flag of a worker is up, and the worker has ended. If it was stopped from inside its own
round, it may be on its way to its end. -/
structure Retired (t : Threads) (self : Option Nat) (w : Nat) : Prop where
  stopped : t.stopped w = true
  isLast : (t.work w).IsLast
  ended : self ≠ some w → t.work w = .ended

/-- When a call shuts the barrier, its worker is done with. -/
theorem Ordered.retired (h : Ordered t) (hp : t.Stopping self (.shutting w)) :
    t.Retired self w := by
  obtain ⟨hstopped, hw⟩ := h.reached self _ hp
  refine ⟨hstopped, ?_, fun hself => hw.resolve_left hself⟩
  rcases hw with rfl | hended
  · -- the call is made by an observer that is being told of a snapshot
    cases hp with
    | inside hn =>
      rcases h.inside w _ _ hn with ⟨s, rfl⟩ | ⟨-, v, hv⟩
      · rw [hn]
        trivial
      · cases hv
  · rw [hended]
    trivial

/-- The end of a round whose flag is up: what is left of it is seen, and then the worker ends. -/
theorem Transition.isLast {m : Move} (ht : Transition t (.worker w m) es t')
    (hstopped : t.stopped w = true) (hlast : (t.work w).IsLast) :
    (t'.work w).IsLast ∧ ∀ e ∈ es, ¬ e.Revives (some w) w := by
  cases ht with
  | ask hn hp => exact ⟨by rw [setWork_work_self]; trivial, by simp⟩
  | round hn hp hr =>
    rw [hn] at hlast
    rw [setWork_work_self]
    cases hr with
    | handed s =>
      refine ⟨trivial, fun e he hrevives => ?_⟩
      rw [List.mem_singleton] at he
      subst he
      exact hrevives.2 rfl
    | began | failed | fetched => cases hlast
  | @inside _ r p p' _ t1 hn hstop =>
    rw [hn] at hlast
    rw [setWork_work_self]
    refine ⟨?_, fun e he hrevives => ?_⟩
    · cases r with
      | handing | complete => trivial
      | ready | fetching => cases hlast
    · obtain ⟨v, rfl, -⟩ := hstop.eq_shut_of_mem he
      cases hrevives
  | rounded => exact ⟨by rw [setWork_work_self]; trivial, by simp⟩
  | recheck => exact ⟨by rw [setWork_work_self, if_pos hstopped]; trivial, by simp⟩
  | check hn | openUp hn | rested hn =>
    rw [hn] at hlast
    cases hlast

/-- A worker that is done with stays so, and nothing revives it. -/
theorem Retired.step (hr : t.Retired self w) (h : Ordered t) (ht : Transition t l es t') :
    t'.Retired self w ∧ ∀ e ∈ es, ¬ e.Revives self w := by
  obtain ⟨hstopped, hlast, hended⟩ := hr
  have hstopped' := ht.stopped_of_stopped hstopped
  by_cases hl : l.thread = some (.worker w)
  · obtain ⟨m, rfl⟩ := PollerStep.eq_worker_of_thread hl
    -- only a worker that was stopped from inside goes on
    have hself : self = some w := Decidable.byContradiction fun hne =>
      ht.thread_ne_worker (.inr (hended hne)) rfl
    subst hself
    obtain ⟨hlast', hes⟩ := ht.isLast hstopped hlast
    exact ⟨⟨hstopped', hlast', fun hne => absurd rfl hne⟩, hes⟩
  · have hne : t.work w ≠ .absent := by
      intro habsent
      rw [habsent] at hlast
      cases hlast
    have hwork := h.work_eq ht hne hl
    refine ⟨⟨hstopped', hwork ▸ hlast, hwork ▸ hended⟩, fun e he hrevives => ?_⟩
    have hthread := PollerEvent.thread_of_revives hrevives
    rcases ht.thread_of_mem e he with hnone | hown
    · rw [hnone] at hthread
      cases hthread
    · exact hl (hown ▸ hthread)

/-- A run after a worker is done with. -/
theorem Retired.run {ls : List PollerStep} (hr : t.Retired self w) (h : Ordered t)
    (hrun : t.run ls = some t') (hpast : t'.past = es ++ t.past) :
    ∀ e ∈ es, ¬ e.Revives self w := by
  have hkept : Ordered t' ∧ t'.Retired self w ∧ ∀ e ∈ es, ¬ e.Revives self w := by
    refine run_induction_past (P := fun es t => Ordered t ∧ t.Retired self w ∧
      ∀ e ∈ es, ¬ e.Revives self w) ?_ ⟨h, hr, by simp⟩ hrun hpast
    rintro es t1 l es' t2 - ⟨hordered, hretired, hes⟩ ht
    obtain ⟨hretired', hes'⟩ := hretired.step hordered ht
    exact ⟨hordered.step ht, hretired', List.forall_mem_append.2 ⟨hes', hes⟩⟩
  exact hkept.2.2

/-- Whoever was seen to be stopped is done with. -/
theorem retired_of_shut {ls : List PollerStep} (hrun : new.run ls = some t)
    (hshut : .shut self w ∈ t.past) : t.Retired self w := by
  have hkept : Ordered t ∧ ∀ self w, .shut self w ∈ t.past → t.Retired self w := by
    refine run_induction (P := fun t => Ordered t ∧ ∀ self w, .shut self w ∈ t.past →
      t.Retired self w) ?_ ⟨.new, fun _ _ h => by cases h⟩ hrun
    rintro t1 l es t2 ⟨hordered, hretired⟩ ht
    refine ⟨hordered.step ht, fun self w hshut => ?_⟩
    rw [ht.past_eq] at hshut
    rcases List.mem_append.1 hshut with hnew | hold
    · exact ((hordered.retired (ht.stopping_of_shut hnew)).step hordered ht).1
    · exact ((hretired self w hold).step hordered ht).1
  exact hkept.2 self w hshut

/-! ## Workers that are not done with -/

/-- A call under way stays where it is, or the step is one of its own. -/
theorem Ordered.stopping_next (h : Ordered t) (ht : Transition t l es t')
    (hp : t.Stopping self p) (hw : p.target = some w) :
    t'.Stopping self p ∨ ∃ p' t1, StopStep self t p p' es t1 ∧ t'.Stopping self p' := by
  have hreturned : ∀ v, p ≠ .returned v := by
    rintro v rfl
    cases hw
  cases hp with
  | outside n =>
    by_cases hl : l = .stop n
    · subst hl
      cases ht with
      | outside hstop => exact .inr ⟨_, _, hstop, .of_stops (replaced_self ..)⟩
    · exact .inl (.of_stops (ht.stops_eq hl))
  | @inside n r _ hn =>
    by_cases hl : l.thread = some (.worker n)
    · obtain ⟨m, rfl⟩ := PollerStep.eq_worker_of_thread hl
      cases ht with
      | inside hn' hstop =>
        rw [hn] at hn'
        cases hn'
        exact .inr ⟨_, _, hstop, .inside (setWork_work_self ..)⟩
      | ask hn' hp' | round hn' hp' =>
        -- the round goes on only when the call has returned
        rw [hn] at hn'
        cases hn'
        obtain ⟨v, hv⟩ := hp' p rfl
        exact absurd hv (hreturned v)
      | rounded hn' =>
        rw [hn] at hn'
        cases hn'
        rcases h.inside n _ _ hn with ⟨s, hs⟩ | ⟨-, v, hv⟩
        · cases hs
        · exact absurd hv (hreturned v)
      | check hn' | recheck hn' | openUp hn' | rested hn' =>
        rw [hn] at hn'
        cases hn'
    · have heq := h.work_eq ht (by rw [hn]; exact WorkPhase.noConfusion) hl
      exact .inl (.inside (heq.trans hn))

/-- Every worker that was started is in its place, or is being stopped, or is done with. -/
def Accounted (t : Threads) : Prop :=
  ∀ w, t.work w = .absent ∨ t.worker = some w ∨
    (∃ self p, t.Stopping self p ∧ p.target = some w) ∨ ∃ self, t.Retired self w

/-- A call stops the same worker until it has returned, and then the worker is done with. -/
theorem Ordered.accounted_of_stopping (h : Ordered t) (ht : Transition t l es t')
    (hp : t.Stopping self p) (hw : p.target = some w) :
    (∃ p', t'.Stopping self p' ∧ p'.target = some w) ∨ t'.Retired self w := by
  rcases h.stopping_next ht hp hw with hsame | ⟨p', t1, hstop, hp'⟩
  · exact .inl ⟨p, hsame, hw⟩
  · cases hstop with
    | missed | taken => cases hw
    | raised v =>
      cases hw
      refine .inl ⟨_, hp', ?_⟩
      split <;> rfl
    | joined =>
      cases hw
      exact .inl ⟨_, hp', rfl⟩
    | shut v =>
      cases hw
      exact .inr ((h.retired hp).step h ht).1

theorem Accounted.step (ha : Accounted t) (h : Ordered t) (ht : Transition t l es t') :
    Accounted t' := by
  intro w
  rcases ha w with habsent | hplace | ⟨self, p, hp, hw⟩ | ⟨self, hr⟩
  · rcases ht.work_eq_or (ht.thread_ne_worker (.inl habsent)) with heq | ⟨-, -, -, hplace, -⟩
    · exact .inl (heq.trans habsent)
    · exact .inr (.inl hplace)
  · rcases ht.worker_eq_or with heq | hnone | ⟨self, v, hv, hp⟩
    · exact .inr (.inl (heq.trans hplace))
    · rw [hplace] at hnone
      cases hnone
    · rw [hplace] at hv
      cases hv
      exact .inr (.inr (.inl ⟨self, _, hp, rfl⟩))
  · rcases h.accounted_of_stopping ht hp hw with ⟨p', hp', hw'⟩ | hr
    · exact .inr (.inr (.inl ⟨self, p', hp', hw'⟩))
    · exact .inr (.inr (.inr ⟨self, hr⟩))
  · exact .inr (.inr (.inr ⟨self, (hr.step h ht).1⟩))

theorem Accounted.run {ls : List PollerStep} (hrun : Threads.new.run ls = some t) :
    Accounted t := by
  have hkept : Ordered t ∧ Accounted t := by
    refine run_induction (P := fun t => Ordered t ∧ Accounted t) ?_ ⟨.new, fun w => .inl rfl⟩ hrun
    rintro t1 l es t2 ⟨hordered, haccounted⟩ ht
    exact ⟨hordered.step ht, haccounted.step hordered ht⟩
  exact hkept.2

/-! ## Main result -/

/-- Once a call has returned that stops a worker, the worker begins no fetch and does not open the
barrier, whatever the threads do afterwards. It hands over no snapshot either, unless the call was
made from inside the worker, which then comes to the end of its round. -/
theorem stopped_worker_is_inert {ls ls' : List PollerStep} (hrun : new.run ls = some t)
    (hshut : .shut self w ∈ t.past) (hrun' : t.run ls' = some t') :
    ∃ es, t'.past = es ++ t.past ∧ .fetchBegan (.worker w) ∉ es ∧ .opened (.worker w) ∉ es ∧
      (∀ s, .handing (.worker w) s ∉ es) ∧
      (self ≠ some w → ∀ s, .handed (.worker w) s ∉ es) := by
  obtain ⟨es, hpast⟩ := exists_past hrun'
  have hes := (retired_of_shut hrun hshut).run (.run hrun) hrun' hpast
  refine ⟨es, hpast, ?_, ?_, ?_, ?_⟩
  · exact fun he => hes _ he rfl
  · exact fun he => hes _ he rfl
  · exact fun s he => hes _ he rfl
  · exact fun hself s he => hes _ he ⟨rfl, hself⟩

/-- Steps in which an observer stops a worker that tells it of a snapshot. -/
def stoppedInside : List PollerStep :=
  [.start, .worker 0 .proceed, .worker 0 .proceed, .worker 0 (.fetched (some .empty)),
    .worker 0 .stop, .worker 0 .proceed, .worker 0 .proceed, .worker 0 .proceed]

/-- Steps in which another thread stops a worker in the middle of its fetch and waits for it. -/
def stoppedOutside : List PollerStep :=
  [.start, .worker 0 .proceed, .worker 0 .proceed, .stop 0, .stop 0,
    .worker 0 (.fetched (some .empty)), .worker 0 .proceed, .worker 0 .proceed, .worker 0 .proceed,
    .stop 0, .stop 0]

/-- The end of the round of a worker, if there is any, and the next worker. -/
def afterInside : List PollerStep :=
  [.worker 0 .proceed, .worker 0 .proceed, .start, .worker 1 .proceed, .worker 1 .proceed,
    .worker 0 .proceed]

theorem stopped_worker_is_inert_both_ways :
    (∃ t t', new.run stoppedInside = some t ∧ .shut (some 0) 0 ∈ t.past ∧
      t.run afterInside = some t' ∧
      t'.past = [.fetchBegan (.worker 1), .handed (.worker 0) .empty] ++ t.past ∧
      ∃ es, t'.past = es ++ t.past ∧ .fetchBegan (.worker 0) ∉ es ∧ .opened (.worker 0) ∉ es ∧
        (∀ s, .handing (.worker 0) s ∉ es) ∧
        (some 0 ≠ some 0 → ∀ s, .handed (.worker 0) s ∉ es)) ∧
    ∃ t t', new.run stoppedOutside = some t ∧ .shut none 0 ∈ t.past ∧
      t.run [.start, .worker 1 .proceed, .worker 1 .proceed] = some t' ∧
      t'.past = [.fetchBegan (.worker 1)] ++ t.past ∧
      ∃ es, t'.past = es ++ t.past ∧ .fetchBegan (.worker 0) ∉ es ∧ .opened (.worker 0) ∉ es ∧
        (∀ s, .handing (.worker 0) s ∉ es) ∧
        (none ≠ some 0 → ∀ s, .handed (.worker 0) s ∉ es) := by
  constructor
  · obtain ⟨t, t', hrun, hpast, hrun', hpast'⟩ :
        ∃ t t', new.run stoppedInside = some t ∧
          t.past = [.shut (some 0) 0, .handing (.worker 0) .empty,
            .fetchEnded (.worker 0) (some .empty), .fetchBegan (.worker 0)] ∧
          t.run afterInside = some t' ∧
          t'.past = [.fetchBegan (.worker 1), .handed (.worker 0) .empty] ++ t.past :=
      ⟨_, _, rfl, rfl, rfl, rfl⟩
    have hshut : .shut (some 0) 0 ∈ t.past := by
      rw [hpast]
      exact List.mem_cons_self
    exact ⟨t, t', hrun, hshut, hrun', hpast', stopped_worker_is_inert hrun hshut hrun'⟩
  · obtain ⟨t, t', hrun, hpast, hrun', hpast'⟩ :
        ∃ t t', new.run stoppedOutside = some t ∧
          t.past = [.shut none 0, .handed (.worker 0) .empty, .handing (.worker 0) .empty,
            .fetchEnded (.worker 0) (some .empty), .fetchBegan (.worker 0)] ∧
          t.run [.start, .worker 1 .proceed, .worker 1 .proceed] = some t' ∧
          t'.past = [.fetchBegan (.worker 1)] ++ t.past :=
      ⟨_, _, rfl, rfl, rfl, rfl⟩
    have hshut : .shut none 0 ∈ t.past := by
      rw [hpast]
      exact List.mem_cons_self
    exact ⟨t, t', hrun, hshut, hrun', hpast', stopped_worker_is_inert hrun hshut hrun'⟩

end Threads
end LinkWatch
