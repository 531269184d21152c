import LinkWatch.Proofs.Threads.Retirement
import LinkWatch.Proofs.Threads.Rounds

/-!
# Stops that nothing comes in between

A stop takes its worker first and shuts the barrier at its end. A thread that has begun a round in
between may open the barrier right after that, for a fetch from before. This cannot happen in a run
in which no worker is started and no caller takes a snapshot while a stop is under way
(`StopsApart`): then nobody passes without a whole fetch since the barrier was shut last
(`backed_of_passed`).

The invariant is `Guarded`. A stop that is under way has left no worker in its place, so that all
workers are done with when it shuts the barrier.
-/

namespace LinkWatch
namespace Threads

variable {t t' : Threads} {l : PollerStep} {es : List PollerEvent} {self : Option Nat} {w : Nat}
  {p : StopPhase}

/-- A call is under way that has taken a worker. -/
def IsStopping (t : Threads) : Prop := ∃ self p w, t.Stopping self p ∧ p.target = some w

/-- While a stop is under way, the step does not start a worker, and no caller takes a snapshot. -/
def Apart (t : Threads) (l : PollerStep) : Prop :=
  t.IsStopping → l ≠ .start ∧ ∀ n, t.round (.caller n) = none

/-- Nothing comes in between the stops of a run. -/
def StopsApart (t : Threads) : List PollerStep → Prop
  | [] => True
  | l :: r => t.Apart l ∧ ∀ t', t.step l = some t' → StopsApart t' r

/-- A run is apart if both of its parts are. -/
theorem StopsApart.append {ls ls' : List PollerStep} (h : StopsApart t ls)
    (h' : ∀ t', t.run ls = some t' → StopsApart t' ls') : StopsApart t (ls ++ ls') := by
  induction ls generalizing t with
  | nil => exact h' t rfl
  | cons l r ih =>
    refine ⟨h.1, fun t1 h1 => ih (h.2 t1 h1) fun t' ht' => h' t' ?_⟩
    rw [run, h1, Option.bind_some, ht']

/-- Where every step keeps what makes a step harmless, the stops are apart. -/
theorem StopsApart.of_invariant {P : Threads → Prop} {ls : List PollerStep} (h0 : P t)
    (hstep : ∀ t l es t', l ∈ ls → P t → Transition t l es t' → P t')
    (hapart : ∀ t l, l ∈ ls → P t → t.Apart l) : StopsApart t ls := by
  induction ls generalizing t with
  | nil => trivial
  | cons l r ih =>
    refine ⟨hapart t l List.mem_cons_self h0, fun t' ht' => ?_⟩
    obtain ⟨es, ht⟩ := Transition.of_step ht'
    refine ih (hstep t l es t' List.mem_cons_self h0 ht) ?_ ?_
    · exact fun t l es t' hl => hstep t l es t' (List.mem_cons_of_mem _ hl)
    · exact fun t l hl => hapart t l (List.mem_cons_of_mem _ hl)

/-- Stops are apart from callers that have not begun. -/
theorem StopsApart.of_away {ls : List PollerStep} (h : ∀ n, t.waits n = .away)
    (hls : ∀ l ∈ ls, l ≠ .start ∧ ∀ n, l.thread ≠ some (.caller n)) : StopsApart t ls := by
  refine .of_invariant (P := fun t => ∀ n, t.waits n = .away) h ?_ ?_
  · intro t l es t' hl haway ht n
    rw [ht.waits_eq ((hls l hl).2 n), haway n]
  · exact fun t l hl haway _ => ⟨(hls l hl).1, fun n => round_caller (haway n)⟩

/-- Callers are apart from stops that are over. -/
theorem StopsApart.of_callers {ls : List PollerStep} (h : ¬ t.IsStopping)
    (hls : ∀ l ∈ ls, ∃ n m, l = .caller n m) : StopsApart t ls := by
  refine .of_invariant (P := fun t => ¬ t.IsStopping) h ?_ fun t l _ hnone hstopping =>
    absurd hstopping hnone
  rintro t l es t' hl hnone ht ⟨self, p, w, hp, hw⟩
  obtain ⟨n, m, rfl⟩ := hls l hl
  -- no call that stops a worker goes on in the step of a caller
  have hbefore : t.Stopping self p := by
    cases hp with
    | outside k => exact .of_stops (ht.stops_eq PollerStep.noConfusion).symm
    | @inside k r _ hn =>
      rcases ht.work_eq_or (n := k) (by simp [PollerStep.thread]) with heq | ⟨hstart, -⟩
      · exact .inside (heq ▸ hn)
      · cases hstart
  exact hnone ⟨self, p, w, hbefore, hw⟩

/-! ## At most one stop -/

/-- A stop that is under way was under way before the step, or it has taken its worker in it. -/
theorem Transition.target_or (h : Transition t l es t') (hp : t'.Stopping self p)
    (hw : p.target = some w) :
    (∃ q, t.Stopping self q ∧ q.target = some w) ∨ t.worker = some w ∧ t'.worker = none := by
  rcases h.stopping hp with hold | rfl | ⟨q, t1, hq, hstop, -, hworker⟩
  · exact .inl ⟨p, hold, hw⟩
  · cases hw
  · cases hstop with
    | missed | shut => cases hw
    | taken hplace =>
      cases hw
      exact .inr ⟨hplace, hworker⟩
    | raised v =>
      refine .inl ⟨_, hq, ?_⟩
      split at hw <;> exact hw
    | joined => exact .inl ⟨_, hq, hw⟩

/-- A place stays empty unless a worker is started. -/
theorem Transition.worker_eq_none (h : Transition t l es t') (hl : l ≠ .start)
    (hworker : t.worker = none) : t'.worker = none := by
  cases h with
  | manned | started => exact absurd rfl hl
  | inside _ hstop | outside hstop =>
    rcases hstop.worker_eq_or with heq | ⟨w, hw, -⟩
    · exact heq.trans hworker
    · rw [hworker] at hw
      cases hw
  | _ => exact hworker

/-! ## The invariant -/

/-- At most one worker is being stopped, and then none is in its place. The round of every thread has
been seen since the barrier was shut last, or its worker is done with. -/
structure Guarded (t : Threads) : Prop where
  ordered : Ordered t
  accounted : Accounted t
  alone : t.IsStopping → t.worker = none ∧ ∃ w, ∀ self p v, t.Stopping self p →
    p.target = some v → v = w
  underway : ∀ thread r, t.round thread = some r →
    Underway thread r (sinceShut t.past) ∨ ∃ self w, thread = .worker w ∧ t.Retired self w
  opened : t.barrier = .done → Backed t.past
  passed : ∀ later n earlier, t.past = later ++ .passed n :: earlier → Backed earlier

/-- In the beginning nobody is stopping a worker. -/
theorem not_isStopping_new : ¬ new.IsStopping := by
  rintro ⟨self, p, w, hp, hw⟩
  cases hp with
  | outside => cases hw
  | inside hn => cases hn

theorem Guarded.new : Guarded new where
  ordered := .new
  accounted := fun _ => .inl rfl
  alone := fun h => absurd h not_isStopping_new
  underway := fun thread r hr => by cases thread <;> cases hr
  opened := fun hb => by cases hb
  passed := fun later n earlier hpast => by simp [Threads.new] at hpast

/-- A second stop finds no worker to take while the first is under way. -/
theorem Guarded.alone_step (h : Guarded t) (ht : Transition t l es t') (hl : t.Apart l)
    (hstopping : t'.IsStopping) :
    t'.worker = none ∧ ∃ w, ∀ self p v, t'.Stopping self p → p.target = some v → v = w := by
  by_cases hbefore : t.IsStopping
  · obtain ⟨hworker, w, honly⟩ := h.alone hbefore
    refine ⟨ht.worker_eq_none (hl hbefore).1 hworker, w, fun self p v hp hv => ?_⟩
    rcases ht.target_or hp hv with ⟨q, hq, hv⟩ | ⟨hplace, -⟩
    · exact honly self q v hq hv
    · rw [hworker] at hplace
      cases hplace
  · -- every stop has taken its worker in this step, and there was only one in its place
    have htaken : ∀ self p v, t'.Stopping self p → p.target = some v →
        t.worker = some v ∧ t'.worker = none := by
      intro self p v hp hv
      rcases ht.target_or hp hv with ⟨q, hq, hv⟩ | hplace
      · exact absurd ⟨self, q, v, hq, hv⟩ hbefore
      · exact hplace
    obtain ⟨self, p, w, hp, hw⟩ := hstopping
    obtain ⟨hplace, hworker⟩ := htaken self p w hp hw
    refine ⟨hworker, w, fun self' p' v hp' hv => ?_⟩
    have hplace' := (htaken self' p' v hp' hv).1
    rw [hplace] at hplace'
    exact (Option.some.inj hplace').symm

/-- When the barrier is shut, no round is under way that could open it. -/
theorem Guarded.underway_of_shut (h : Guarded t) (ht : Transition t l es t') (hl : t.Apart l)
    (hshut : .shut self w ∈ es) {thread : PollerThread} {r : Refresh}
    (hr : t'.round thread = some r) :
    Underway thread r (sinceShut t'.past) ∨ ∃ self w, thread = .worker w ∧ t'.Retired self w := by
  have hp := ht.stopping_of_shut hshut
  have hstopping : t.IsStopping := ⟨self, _, w, hp, rfl⟩
  obtain ⟨hstart, hidle⟩ := hl hstopping
  cases thread with
  | caller n =>
    -- no caller is taking a snapshot while a stop is under way
    rcases ht.round_cases hr with ⟨hsame, -⟩ | ⟨-, rfl, -⟩ | ⟨r0, hbefore, -⟩
    · rw [hidle n] at hsame
      cases hsame
    · exact .inl (.inl rfl)
    · rw [hidle n] at hbefore
      cases hbefore
  | worker v =>
    right
    obtain ⟨hworker, w', honly⟩ := h.alone hstopping
    rcases h.accounted.step h.ordered ht v with habsent | hplace | ⟨self', p', hp', hv⟩ | ⟨self', hr'⟩
    · rw [round_worker habsent] at hr
      cases hr
    · rw [ht.worker_eq_none hstart hworker] at hplace
      cases hplace
    · -- the worker that is being stopped is the one that the barrier is shut for
      rcases ht.target_or hp' hv with ⟨q, hq, hv⟩ | ⟨hplace, -⟩
      · have hvw : v = w := (honly self' q v hq hv).trans (honly self _ w hp rfl).symm
        subst hvw
        exact ⟨self, v, rfl, ((h.ordered.retired hp).step h.ordered ht).1⟩
      · rw [hworker] at hplace
        cases hplace
    · exact ⟨self', v, rfl, hr'⟩

/-- A round that goes on has been seen since the barrier was shut last, or its worker is done with.
-/
theorem Guarded.underway_step (h : Guarded t) (ht : Transition t l es t') (hl : t.Apart l)
    {thread : PollerThread} {r : Refresh} (hr : t'.round thread = some r) :
    Underway thread r (sinceShut t'.past) ∨ ∃ self w, thread = .worker w ∧ t'.Retired self w := by
  by_cases hes : ∃ self w, .shut self w ∈ es
  · obtain ⟨self, w, hshut⟩ := hes
    exact h.underway_of_shut ht hl hshut hr
  · have hunshut : ∀ e ∈ es, e.isShut = false :=
      forall_isShut_eq_false fun self w hmem => hes ⟨self, w, hmem⟩
    have hretired {self : Option Nat} {w : Nat} (hw : t.Retired self w) : t'.Retired self w :=
      (hw.step h.ordered ht).1
    rw [ht.past_eq, sinceShut_append hunshut]
    rcases ht.round_cases hr with ⟨hsame, hnew⟩ | ⟨-, rfl, -⟩ | ⟨r0, hbefore, hstep⟩
    · rcases h.underway thread r hsame with hunder | ⟨self, w, hthread, hw⟩
      · exact .inl (hunder.append hnew)
      · exact .inr ⟨self, w, hthread, hretired hw⟩
    · exact .inl (.inl rfl)
    · rcases h.underway thread r0 hbefore with hunder | ⟨self, w, hthread, hw⟩
      · exact .inl (hunder.step hstep)
      · exact .inr ⟨self, w, hthread, hretired hw⟩

/-- A thread that opens the barrier has made a whole fetch since the barrier was shut last. -/
theorem Guarded.backed_of_opened (h : Guarded t) (ht : Transition t l es t')
    {thread : PollerThread} (hcomplete : t.round thread = some .complete)
    (hmem : .opened thread ∈ es) : Backed t.past := by
  rcases h.underway thread _ hcomplete with hunder | ⟨self, w, rfl, hw⟩
  · obtain hready | ⟨round, earlier, hpast, -, s, hs⟩ := hunder
    · cases hready
    · refine ⟨thread, s, ?_⟩
      rw [hpast, List.append_cons]
      exact hs.trans (List.sublist_append_left _ _)
  · -- a worker that is done with does not open the barrier
    exact absurd rfl ((hw.step h.ordered ht).2 _ hmem)

/-- An open barrier was open before, or the thread that opens it has made its fetch since the last
stop. -/
theorem Guarded.opened_step (h : Guarded t) (ht : Transition t l es t')
    (hb : t'.barrier = .done) : Backed t'.past := by
  rw [ht.past_eq]
  rcases ht.barrier_done hb with ⟨hdone, hes⟩ | ⟨thread, es', hcomplete, rfl, hes⟩
  · exact (h.opened hdone).append hes
  · refine (h.backed_of_opened ht hcomplete (by simp)).append ?_
    simpa [PollerEvent.isShut, or_imp, forall_and] using hes

/-- Somebody passed before, or passes now, when the barrier is open. -/
theorem Guarded.passed_step (h : Guarded t) (ht : Transition t l es t')
    {later earlier : List PollerEvent} {n : Nat}
    (hpast : t'.past = later ++ .passed n :: earlier) : Backed earlier := by
  rcases ht.passed_cases hpast with ⟨between, hbefore⟩ | ⟨hdone, rfl⟩ | ⟨hcomplete, hmem, rfl⟩
  · exact h.passed between n earlier hbefore
  · exact h.opened hdone
  · have hopened : ∀ e ∈ [.opened (.caller n)], PollerEvent.isShut e = false := by
      simp [PollerEvent.isShut]
    exact (h.backed_of_opened ht hcomplete hmem).append hopened

/-- A step that comes in between no stop keeps the invariant. -/
theorem Guarded.step (h : Guarded t) (ht : Transition t l es t') (hl : t.Apart l) :
    Guarded t' where
  ordered := h.ordered.step ht
  accounted := h.accounted.step h.ordered ht
  alone := h.alone_step ht hl
  underway := fun _ _ => h.underway_step ht hl
  opened := h.opened_step ht
  passed := fun _ _ _ => h.passed_step ht

theorem Guarded.run {ls : List PollerStep} (h : Guarded t) (hls : StopsApart t ls)
    (hrun : t.run ls = some t') : Guarded t' := by
  induction ls generalizing t with
  | nil =>
    cases hrun
    exact h
  | cons l r ih =>
    rw [Threads.run, Option.bind_eq_some_iff] at hrun
    obtain ⟨t1, h1, hrun⟩ := hrun
    obtain ⟨es, ht⟩ := Transition.of_step h1
    exact ih (h.step ht hls.1) (hls.2 t1 h1) hrun

/-- Nobody passes without a whole fetch since the barrier was shut last, if nothing comes in between
the stops. -/
theorem backed_of_passed {ls : List PollerStep} (hls : StopsApart new ls)
    (hrun : new.run ls = some t) {later earlier : List PollerEvent} {n : Nat}
    (hpast : t.past = later ++ .passed n :: earlier) : Backed earlier :=
  (Guarded.new.run hls hrun).passed later n earlier hpast

end Threads
end LinkWatch
