import LinkWatch.Proofs.Threads.Step

/-!
# What stands behind an open barrier

Whoever opens the barrier has made a fetch before and has handed over its snapshot, if there is one.
Nobody passes before that has happened (`openedFor_of_passed`). The fetch need not have begun since
the barrier was shut last: it has if the barrier was not shut in the middle of that round
(`OpenedFor.backed`).

The invariant (`Supported`) follows the round of each thread in what was seen: `Underway` cuts the
past at the beginning of the thread's latest fetch and says what has been seen of it since.
-/

namespace LinkWatch

/-- True where a call that stops a worker shuts the barrier. -/
def PollerEvent.isShut : PollerEvent → Bool
  | .shut .. => true
  | _ => false

/-- No stop is part of taking a snapshot. -/
theorem PollerEvent.isShut_of_thread {e : PollerEvent} {thread : PollerThread}
    (h : e.thread = some thread) : e.isShut = false := by
  cases e with
  | shut => cases h
  | _ => rfl

theorem forall_isShut_eq_false {es : List PollerEvent} (h : ∀ self w, .shut self w ∉ es) :
    ∀ e ∈ es, e.isShut = false := by
  intro e he
  cases e with
  | shut self w => exact absurd he (h self w)
  | _ => rfl

/-- What was seen since the barrier was shut last, the latest first. -/
def sinceShut (past : List PollerEvent) : List PollerEvent := past.takeWhile fun e => !e.isShut

/-- What is seen of a whole fetch, the latest first: it ends, and its snapshot is handed over if
there is one. -/
def wholeFetch (thread : PollerThread) : Option Snapshot → List PollerEvent
  | none => [.fetchEnded thread none, .fetchBegan thread]
  | some s => [.handed thread s, .fetchEnded thread (some s), .fetchBegan thread]

/-- A whole fetch was made since the barrier was shut last. -/
def Backed (past : List PollerEvent) : Prop :=
  ∃ thread s, (wholeFetch thread s).Sublist (sinceShut past)

/-- The barrier was opened since it was shut last, by a thread that had made a whole fetch before.
The round is what was seen between the beginning of that fetch and the opening. -/
def OpenedFor (thread : PollerThread) (round past : List PollerEvent) : Prop :=
  ∃ after before, past = after ++ .opened thread :: (round ++ .fetchBegan thread :: before) ∧
    (∀ e ∈ after, e.isShut = false) ∧ .fetchBegan thread ∉ round ∧
    ∃ s, (wholeFetch thread s).Sublist (round ++ [.fetchBegan thread])

/-- What was seen of a round since its fetch began. -/
def Refresh.Seen (thread : PollerThread) : Refresh → List PollerEvent → Prop
  | .ready, _ => True
  | .fetching, _ => True
  | .handing s, round => .fetchEnded thread (some s) ∈ round
  | .complete, round => ∃ s, (wholeFetch thread s).Sublist (round ++ [.fetchBegan thread])

/-- The latest fetch of a thread has not begun, or it has, and what the thread's progress says was
seen since. -/
def Underway (thread : PollerThread) (r : Refresh) (past : List PollerEvent) : Prop :=
  r = .ready ∨ ∃ round earlier, past = round ++ .fetchBegan thread :: earlier ∧
    .fetchBegan thread ∉ round ∧ r.Seen thread round

/-- How far a caller is with taking a snapshot, if it does. -/
def WaitPhase.refresh? : WaitPhase → Option Refresh
  | .refreshing r => some r
  | _ => none

/-- How far a worker is with taking a snapshot, or that it has taken one for which it may open the
barrier. -/
def WorkPhase.refresh? : WorkPhase → Option Refresh
  | .refreshing r _ => some r
  | .rechecking => some .complete
  | .opening => some .complete
  | _ => none

/-! ## Histories -/

section Histories

variable {thread : PollerThread} {r r' : Refresh} {es past round : List PollerEvent}

/-- What is seen without a stop is added to what was seen since the last one. -/
theorem sinceShut_append (hes : ∀ e ∈ es, e.isShut = false) (past : List PollerEvent) :
    sinceShut (es ++ past) = es ++ sinceShut past :=
  List.takeWhile_append_of_pos fun e he => by rw [hes e he]; rfl

/-- A fetch counts until the barrier is shut again. -/
theorem Backed.append (h : Backed past) (hes : ∀ e ∈ es, e.isShut = false) :
    Backed (es ++ past) := by
  obtain ⟨thread, s, hfetch⟩ := h
  refine ⟨thread, s, ?_⟩
  rw [sinceShut_append hes]
  exact hfetch.trans (List.sublist_append_right es _)

/-- The barrier stays open for the same round until it is shut. -/
theorem OpenedFor.append (h : OpenedFor thread round past) (hes : ∀ e ∈ es, e.isShut = false) :
    OpenedFor thread round (es ++ past) := by
  obtain ⟨after, before, rfl, hafter, hround⟩ := h
  exact ⟨es ++ after, before, (List.append_assoc ..).symm, List.forall_mem_append.2 ⟨hes, hafter⟩,
    hround⟩

/-- A barrier that was not shut in the middle of the round that it was opened for has a whole fetch
behind it. -/
theorem OpenedFor.backed (h : OpenedFor thread round past) (hshut : ∀ e ∈ round, e.isShut = false) :
    Backed past := by
  obtain ⟨after, before, rfl, hafter, -, s, hs⟩ := h
  refine Backed.append ⟨thread, s, ?_⟩ hafter
  -- the fetch, the round and the opening were all seen since the barrier was shut last
  have hnew : ∀ e ∈ .opened thread :: (round ++ [.fetchBegan thread]), e.isShut = false := by
    intro e he
    rcases List.mem_cons.1 he with rfl | he
    · rfl
    · rcases List.mem_append.1 he with he | he
      · exact hshut e he
      · rw [List.mem_singleton] at he
        exact he ▸ rfl
  have hsince := sinceShut_append hnew before
  rw [List.cons_append, List.append_assoc, List.singleton_append] at hsince
  rw [hsince]
  exact (hs.trans (List.sublist_append_left _ _)).cons _

/-- What was seen of a round stays seen. -/
theorem Refresh.Seen.append (h : r.Seen thread round) :
    r.Seen thread (es ++ round) := by
  cases r with
  | ready => trivial
  | fetching => trivial
  | handing s => exact List.mem_append_right es h
  | complete =>
    obtain ⟨s, hs⟩ := h
    refine ⟨s, ?_⟩
    rw [List.append_assoc]
    exact hs.trans (List.sublist_append_right es _)

/-- What others do is no part of the round of a thread, and neither is the opening of the barrier. -/
theorem Underway.append (h : Underway thread r past) (hes : .fetchBegan thread ∉ es) :
    Underway thread r (es ++ past) := by
  rcases h with hready | ⟨round, earlier, rfl, hround, hseen⟩
  · exact .inl hready
  · refine .inr ⟨es ++ round, earlier, (List.append_assoc ..).symm, ?_, hseen.append⟩
    intro hmem
    rcases List.mem_append.1 hmem with hmem | hmem
    · exact hes hmem
    · exact hround hmem

/-- A step of a thread in its round is seen as it should be. -/
theorem Underway.step (h : Underway thread r past) (hr : Threads.RefreshStep thread r r' es) :
    Underway thread r' (es ++ past) := by
  cases hr with
  | began =>
    -- here the past is cut
    exact .inr ⟨[], past, rfl, by simp, trivial⟩
  | failed =>
    obtain h | ⟨round, earlier, rfl, hround, -⟩ := h
    · cases h
    · refine .inr ⟨.fetchEnded thread none :: round, earlier, rfl, by simpa using hround, none, ?_⟩
      exact (List.sublist_append_right round _).cons_cons _
  | fetched s =>
    obtain h | ⟨round, earlier, rfl, hround, -⟩ := h
    · cases h
    · exact .inr ⟨.handing thread s :: .fetchEnded thread (some s) :: round, earlier, rfl,
        by simpa using hround, by simp [Refresh.Seen]⟩
  | handed s =>
    -- the end of the fetch was seen in the round, and its beginning before the round
    obtain h | ⟨round, earlier, rfl, hround, hended⟩ := h
    · cases h
    · refine .inr ⟨.handed thread s :: round, earlier, rfl, by simpa using hround, some s, ?_⟩
      exact ((List.singleton_sublist.2 hended).append (.refl _)).cons_cons _

/-- A thread opens the barrier for the round that it has come to the end of. -/
theorem Underway.openedFor (h : Underway thread .complete past) :
    ∃ round, OpenedFor thread round (.opened thread :: past) := by
  obtain h | ⟨round, earlier, rfl, hround, hs⟩ := h
  · cases h
  · exact ⟨round, [], earlier, rfl, by simp, hround, hs⟩

end Histories

namespace Threads

variable {t t' : Threads} {l : PollerStep} {es : List PollerEvent}

/-- How far a thread is with taking a snapshot, if it does. -/
def round (t : Threads) : PollerThread → Option Refresh
  | .caller n => (t.waits n).refresh?
  | .worker n => (t.work n).refresh?

@[simp] theorem setWait_round (t : Threads) (n : Nat) (p : WaitPhase) :
    (t.setWait n p).round (.caller n) = p.refresh? :=
  congrArg WaitPhase.refresh? (setWait_waits_self t n p)

@[simp] theorem setWork_round (t : Threads) (n : Nat) (p : WorkPhase) :
    (t.setWork n p).round (.worker n) = p.refresh? :=
  congrArg WorkPhase.refresh? (setWork_work_self t n p)

@[simp] theorem note_round (t : Threads) (e : PollerEvent) : (t.note e).round = t.round := rfl

/-- The round of a caller is read off its phase. -/
theorem round_caller {n : Nat} {p : WaitPhase} (h : t.waits n = p) :
    t.round (.caller n) = p.refresh? :=
  congrArg WaitPhase.refresh? h

/-- The round of a worker is read off its phase. -/
theorem round_worker {n : Nat} {p : WorkPhase} (h : t.work n = p) :
    t.round (.worker n) = p.refresh? :=
  congrArg WorkPhase.refresh? h

/-! ## Rounds in a step -/

/-- No round goes on while other threads do. One that is new to its number is not in a round. -/
theorem Transition.round_of_ne (h : Transition t l es t') {thread : PollerThread}
    (hl : l.thread ≠ some thread) : t'.round thread = t.round thread ∨ t'.round thread = none := by
  cases thread with
  | caller n => exact .inl (congrArg WaitPhase.refresh? (h.waits_eq hl))
  | worker n =>
    rcases h.work_eq_or hl with heq | ⟨-, -, -, -, hchecking⟩
    · exact .inl (congrArg WorkPhase.refresh? heq)
    · exact .inr (round_worker hchecking)

/-- A round was where it is before the step, or the step was a step of it, or it is a new one. A
caller begins one where nobody has made the first fetch. -/
theorem Transition.round_cases (h : Transition t l es t') {thread : PollerThread} {r' : Refresh}
    (hr : t'.round thread = some r') :
    t.round thread = some r' ∧ .fetchBegan thread ∉ es ∨
      (l.thread = some thread ∧ r' = .ready ∧
        ∀ n, thread = .caller n → t.barrier = .pending ∧ t'.barrier = .inProgress) ∨
      ∃ r, t.round thread = some r ∧ RefreshStep thread r r' es := by
  by_cases hl : l.thread = some thread
  · cases h with
    | manned | started | outside => cases hl
    | look | sleep | pass | release =>
      -- such a caller takes no snapshot
      cases hl
      simp [WaitPhase.refresh?] at hr
    | take hn hb =>
      cases hl
      rw [setWait_round] at hr
      cases hr
      exact .inr (.inl ⟨rfl, rfl, fun n _ => ⟨hb, rfl⟩⟩)
    | refresh hn hstep =>
      cases hl
      rw [setWait_round] at hr
      cases hr
      exact .inr (.inr ⟨_, round_caller hn, hstep⟩)
    | check hn =>
      cases hl
      rw [setWork_round] at hr
      split at hr
      · cases hr
      · cases hr
        exact .inr (.inl ⟨rfl, rfl, fun n hn => by cases hn⟩)
    | ask hn =>
      cases hl
      rw [setWork_round] at hr
      cases hr
      exact .inl ⟨round_worker hn, by simp⟩
    | round hn _ hstep =>
      cases hl
      rw [setWork_round] at hr
      cases hr
      exact .inr (.inr ⟨_, round_worker hn, hstep⟩)
    | inside hn hstop =>
      -- the worker is stopping itself, and its round stands still
      cases hl
      rw [setWork_round] at hr
      cases hr
      refine .inl ⟨round_worker hn, fun hmem => ?_⟩
      obtain ⟨w, hw, -⟩ := hstop.eq_shut_of_mem hmem
      cases hw
    | rounded hn =>
      cases hl
      rw [setWork_round] at hr
      cases hr
      exact .inl ⟨round_worker hn, by simp⟩
    | recheck hn =>
      cases hl
      rw [setWork_round] at hr
      split at hr
      · cases hr
      · cases hr
        exact .inl ⟨round_worker hn, by simp⟩
    | openUp | rested =>
      cases hl
      rw [setWork_round] at hr
      cases hr
  · -- another thread went on, and it neither moves this round nor begins its fetch
    refine .inl ⟨?_, fun hmem => ?_⟩
    · rcases h.round_of_ne hl with heq | hnone
      · exact heq ▸ hr
      · rw [hnone] at hr
        cases hr
    · rcases h.thread_of_mem _ hmem with hnone | hown
      · cases hnone
      · exact hl hown.symm

/-- A stop leaves the barrier open only as long as it does not shut it. -/
theorem StopStep.open_of_open {self : Option Nat} {p p' : StopPhase}
    (h : StopStep self t p p' es t') (hb : t'.barrier = .done) :
    t.barrier = .done ∧ ∀ e ∈ es, e.isShut = false := by
  rcases h.barrier_eq_or with ⟨heq, rfl⟩ | ⟨hpending, -⟩
  · exact ⟨heq ▸ hb, by simp⟩
  · rw [hpending] at hb
    cases hb

/-- The barrier was open before the step, or a thread has opened it whose round is complete. -/
theorem Transition.barrier_done (h : Transition t l es t') (hb : t'.barrier = .done) :
    t.barrier = .done ∧ (∀ e ∈ es, e.isShut = false) ∨
      ∃ thread es', t.round thread = some .complete ∧ es = es' ++ [.opened thread] ∧
        ∀ e ∈ es', e.isShut = false := by
  cases h with
  | take => cases hb
  -- a caller opens the barrier after its round, and so does a worker that was not stopped
  | release hn => exact .inr ⟨_, [_], round_caller hn, rfl, by simp [PollerEvent.isShut]⟩
  | openUp hn => exact .inr ⟨_, [], round_worker hn, rfl, by simp⟩
  | pass => exact .inl ⟨hb, by simp [PollerEvent.isShut]⟩
  | refresh _ hr => exact .inl ⟨hb, fun e he => PollerEvent.isShut_of_thread (hr.thread_eq e he)⟩
  | round _ _ hr => exact .inl ⟨hb, fun e he => PollerEvent.isShut_of_thread (hr.thread_eq e he)⟩
  | inside _ hstop => exact .inl (hstop.open_of_open hb)
  | outside hstop => exact .inl (hstop.open_of_open hb)
  | _ => exact .inl ⟨hb, by simp⟩

/-- Whoever passes finds the barrier open, or opens it at that moment. -/
theorem Transition.passed (h : Transition t l es t') {later earlier : List PollerEvent} {n : Nat}
    (hes : es = later ++ .passed n :: earlier) :
    t.barrier = .done ∧ earlier = [] ∨
      t.round (.caller n) = some .complete ∧ earlier = [.opened (.caller n)] := by
  have hmem : .passed n ∈ es := hes ▸ List.mem_append_right later List.mem_cons_self
  cases h with
  | pass hn hb =>
    cases later with
    | nil =>
      cases hes
      exact .inl ⟨hb, rfl⟩
    | cons e later => simp at hes
  | release hn =>
    cases later with
    | nil =>
      cases hes
      exact .inr ⟨round_caller hn, rfl⟩
    | cons e later =>
      -- the other event of this step is the opening of the barrier
      rw [List.cons_append, List.cons.injEq] at hes
      cases later with
      | nil => cases hes.2
      | cons e later => simp at hes
  | refresh _ hr => cases hr.thread_eq _ hmem
  | round _ _ hr => cases hr.thread_eq _ hmem
  | inside _ hstop | outside hstop =>
    obtain ⟨w, hw, -⟩ := hstop.eq_shut_of_mem hmem
    cases hw
  | openUp => cases List.mem_singleton.1 hmem
  | _ => cases hmem

/-- Somebody passed before the step, or passes in it, behind an open barrier or right after opening
it. -/
theorem Transition.passed_cases (h : Transition t l es t') {later earlier : List PollerEvent}
    {n : Nat} (hpast : t'.past = later ++ .passed n :: earlier) :
    (∃ between, t.past = between ++ .passed n :: earlier) ∨
      t.barrier = .done ∧ earlier = t.past ∨
      t.round (.caller n) = some .complete ∧ .opened (.caller n) ∈ es ∧
        earlier = .opened (.caller n) :: t.past := by
  rw [h.past_eq, List.append_eq_append_iff] at hpast
  rcases hpast with ⟨between, -, hbefore⟩ | ⟨between, hes, hnew⟩
  · exact .inl ⟨between, hbefore⟩
  · cases between with
    | nil => exact .inl ⟨[], hnew.symm⟩
    | cons e between =>
      -- somebody passes in this step
      obtain ⟨rfl, rfl⟩ := List.cons.inj hnew
      rcases h.passed hes with ⟨hdone, rfl⟩ | ⟨hcomplete, rfl⟩
      · exact .inr (.inl ⟨hdone, rfl⟩)
      · exact .inr (.inr ⟨hcomplete, by simp [hes], rfl⟩)

/-! ## The invariant -/

/-- Every round has been seen as far as its thread is with it, and wherever the barrier is open or
somebody has passed, it was opened for the whole round of a thread. -/
structure Supported (t : Threads) : Prop where
  underway : ∀ thread r, t.round thread = some r → Underway thread r t.past
  opened : t.barrier = .done → ∃ thread round, OpenedFor thread round t.past
  passed : ∀ later n earlier, t.past = later ++ .passed n :: earlier →
    ∃ thread round, OpenedFor thread round earlier

theorem Supported.new : Supported new where
  underway := fun thread r hr => by cases thread <;> cases hr
  opened := fun hb => by cases hb
  passed := fun later n earlier hpast => by simp [Threads.new] at hpast

/-- A round that goes on has been seen as far as before, or it is a new one. -/
theorem Supported.underway_step (h : Supported t) (ht : Transition t l es t')
    {thread : PollerThread} {r : Refresh} (hr : t'.round thread = some r) :
    Underway thread r t'.past := by
  rw [ht.past_eq]
  rcases ht.round_cases hr with ⟨hsame, hes⟩ | ⟨-, rfl, -⟩ | ⟨r0, hbefore, hstep⟩
  · exact (h.underway thread r hsame).append hes
  · exact .inl rfl
  · exact (h.underway thread r0 hbefore).step hstep

/-- An open barrier was open before, or the thread that opens it has come to the end of a round. -/
theorem Supported.opened_step (h : Supported t) (ht : Transition t l es t')
    (hb : t'.barrier = .done) : ∃ thread round, OpenedFor thread round t'.past := by
  rw [ht.past_eq]
  rcases ht.barrier_done hb with ⟨hdone, hes⟩ | ⟨thread, es', hcomplete, rfl, hes⟩
  · obtain ⟨thread, round, hopened⟩ := h.opened hdone
    exact ⟨thread, round, hopened.append hes⟩
  · obtain ⟨round, hopened⟩ := (h.underway thread _ hcomplete).openedFor
    refine ⟨thread, round, ?_⟩
    rw [List.append_assoc]
    exact hopened.append hes

/-- Somebody passed before, or passes now, when the barrier is open. -/
theorem Supported.passed_step (h : Supported t) (ht : Transition t l es t')
    {later earlier : List PollerEvent} {n : Nat}
    (hpast : t'.past = later ++ .passed n :: earlier) :
    ∃ thread round, OpenedFor thread round earlier := by
  rcases ht.passed_cases hpast with ⟨between, hbefore⟩ | ⟨hdone, rfl⟩ | ⟨hcomplete, -, rfl⟩
  · exact h.passed between n earlier hbefore
  · exact h.opened hdone
  · obtain ⟨round, hopened⟩ := (h.underway _ _ hcomplete).openedFor
    exact ⟨_, round, hopened⟩

theorem Supported.step (h : Supported t) (ht : Transition t l es t') : Supported t' where
  underway := fun _ _ hr => h.underway_step ht hr
  opened := h.opened_step ht
  passed := fun _ _ _ hpast => h.passed_step ht hpast

/-- Nobody passes before the barrier was opened for the whole round of a thread. -/
theorem openedFor_of_passed {ls : List PollerStep} (hrun : Threads.new.run ls = some t)
    {later earlier : List PollerEvent} {n : Nat}
    (hpast : t.past = later ++ .passed n :: earlier) :
    ∃ thread round, OpenedFor thread round earlier := by
  have h : Supported t := run_induction (fun _ _ _ _ h ht => h.step ht) .new hrun
  exact h.passed later n earlier hpast

end Threads
end LinkWatch
