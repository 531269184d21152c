import LinkWatch.Monitor.Clients
import LinkWatch.Monitor.Poller
import LinkWatch.Proofs.Monitor.Step

/-!
# Decisions and deeds

A client that changes the list of observers decides under the lock what the driver is to do, and
does it after the lock was let go. The list always fits the decision that was taken last, and the
poller fits the deed that was done last (`Abreast`). Every decision is carried out once, but perhaps
in another order, so that the two may part: when all calls have returned the poller runs for the
registered observers exactly if the deed done last is what was decided last
(`running_iff_observed_iff_in_order`), and it may end stopped while an observer waits for events
(`start_carried_out_before_stop`).
-/

namespace LinkWatch

/-- The call of the driver that a client has decided on and has not made. -/
def Client.due (c : Client) : Option DriverCall :=
  match c.phase with
  | .steering call => some call
  | _ => none

@[simp] theorem Client.due_ofDecision (call : ClientCall) (d : Option DriverCall) :
    Client.due ⟨call, .ofDecision d⟩ = d := by
  cases d <;> rfl

namespace Monitor

/-! ## What is decided under the lock -/

section Lock

variable {δ : Type}

/-- How a change to the list of observers goes with what is decided about the driver. -/
def Decides (before after : List ObserverId) : Option DriverCall → Prop
  | none => after = [] ↔ before = []
  | some .start => before = [] ∧ after ≠ []
  | some .stop => before ≠ [] ∧ after = []

/-- The list is empty or not as the last decision says. -/
theorem Decides.getLast?_iff {before after : List ObserverId} {d : Option DriverCall}
    {decided : List DriverCall} (h : Decides before after d)
    (hbefore : before ≠ [] ↔ decided.getLast? = some .start) :
    after ≠ [] ↔ (decided ++ d.toList).getLast? = some .start := by
  cases d with
  | none =>
    have hsame : after = [] ↔ before = [] := h
    rw [Option.toList_none, List.append_nil, ← hbefore, ne_eq, hsame]
  | some call =>
    cases call with
    | start =>
      obtain ⟨-, hsome⟩ := h
      simpa using hsome
    | stop =>
      obtain ⟨-, hnone⟩ := h
      simpa using hnone

/-- No replay is under way and no stop was put off. -/
def Quiet (m : Monitor δ) : Prop := m.replayDepth = 0 ∧ m.stopPending = false

/-- A section under the lock leaves the driver alone and decides what goes with the list. -/
structure Decided (m : Monitor δ) (r : Option DriverCall × Monitor δ) : Prop where
  quiet : r.2.Quiet
  driver_eq : r.2.driver = m.driver
  decides : Decides m.observers r.2.observers r.1

variable {m : Monitor δ}

theorem decided_join (h : m.Quiet) (o : ObserverId) : Decided m (m.join o) := by
  obtain ⟨hdepth, hpending⟩ := h
  rw [join]
  split
  · exact ⟨⟨hdepth, hpending⟩, rfl, Iff.rfl⟩
  · refine ⟨⟨?_, ?_⟩, rfl, ?_⟩
    · simp [closeReplay, hdepth]
    · simp [closeReplay, hpending]
    · -- only the first observer brings a start about
      by_cases hnone : m.observers = []
      · simp [closeReplay, hpending, hnone, Decides]
      · simp [closeReplay, hpending, hnone, Decides]

theorem decided_remove (h : m.Quiet) (o : ObserverId) : Decided m (m.remove o) := by
  obtain ⟨hdepth, hpending⟩ := h
  rw [remove]
  split
  · next ho =>
    have hsome : m.observers ≠ [] := List.ne_nil_of_mem (by simpa [isRegistered] using ho)
    -- the last observer to leave brings a stop about, and no other
    by_cases hrest : m.observers.filter (· != o) = []
    · simp only [hrest, releaseDriver, note, hdepth, List.isEmpty_nil, Bool.not_true,
        Bool.false_eq_true, if_false, Nat.lt_irrefl]
      exact ⟨⟨rfl, hpending⟩, rfl, hsome, rfl⟩
    · have hnot : (m.observers.filter (· != o)).isEmpty = false :=
        List.isEmpty_eq_false_iff.2 hrest
      simp only [hnot, releaseDriver, Bool.not_false, if_true]
      exact ⟨⟨hdepth, hpending⟩, rfl, iff_of_false hrest hsome⟩
  · exact ⟨⟨hdepth, hpending⟩, rfl, Iff.rfl⟩

end Lock

/-! ## What is done to the poller -/

section Poller

variable {φ : Type}

theorem isRunning_start (p : Poller φ) : p.start.isRunning = true := by
  rw [Poller.start]
  split
  · next w hw => simp [Poller.isRunning, hw]
  · rfl

theorem isRunning_stop (p : Poller φ) : p.stop.isRunning = false := by
  rw [Poller.stop]
  split
  · next hw => simp [Poller.isRunning, hw]
  · rfl

variable [Fetcher φ]

/-- The poller runs after a start and rests after a stop, whatever it did before. -/
theorem isRunning_steer (call : DriverCall) (m : Monitor (Poller φ)) :
    (steer (some call, m)).driver.isRunning = true ↔ call = .start := by
  cases call with
  | start => exact iff_of_true (isRunning_start m.driver) rfl
  | stop =>
    have hstop : (steer (some .stop, m)).driver.isRunning = false := isRunning_stop m.driver
    simp [hstop]

/-- A wait takes a snapshot at most: nobody joins or leaves, and the poller is neither started nor
stopped. -/
theorem awaitFirst_eq {m m' : Monitor (Poller φ)} (h : m.awaitFirst = some m') :
    m'.observers = m.observers ∧ m'.replayDepth = m.replayDepth ∧
      m'.stopPending = m.stopPending ∧ m'.driver.isRunning = m.driver.isRunning := by
  have hbegin : ∀ r, m.driver.beginWait = some r → r.2.isRunning = m.driver.isRunning := by
    intro r hr
    rw [Poller.beginWait] at hr
    split at hr <;> cases hr <;> rfl
  have hrunning : ∀ r, PollingDriver.beginWait m.driver = some r →
      (PollingDriver.endWait r.2).isRunning = m.driver.isRunning := hbegin
  rw [awaitFirst] at h
  split at h
  · cases h
  · next d hd =>
    cases h
    exact ⟨rfl, rfl, rfl, hrunning _ hd⟩
  · next s d hd =>
    cases h
    exact ⟨rfl, rfl, rfl, hrunning _ hd⟩

end Poller
end Monitor

/-! ## Steps of a client -/

section Step

variable {φ : Type} [Fetcher φ]

/-- What a step of a client does: it decides about the driver under the lock, or carries out what it
has decided. -/
inductive Client.Effect (c c' : Client) (m m' : Monitor (Poller φ)) : Prop
  | decide (hdue : c.due = none) (hobservers : Monitor.Decides m.observers m'.observers c'.due)
      (hrunning : m'.driver.isRunning = m.driver.isRunning)
  | carryOut (call : DriverCall) (hdue : c.due = some call) (hdone : c'.due = none)
      (hobservers : m'.observers = m.observers)
      (hrunning : m'.driver.isRunning = true ↔ call = .start)

theorem Client.effect_of_step {c c' : Client} {m m' : Monitor (Poller φ)} (hm : m.Quiet)
    (h : c.step m = some (c', m')) : m'.Quiet ∧ c.Effect c' m m' := by
  obtain ⟨call, phase⟩ := c
  cases phase with
  | waiting =>
    -- the wait decides nothing
    simp only [step, Option.map_eq_some_iff] at h
    obtain ⟨m1, h1, heq⟩ := h
    cases heq
    obtain ⟨hobservers, hdepth, hpending, hrunning⟩ := Monitor.awaitFirst_eq h1
    refine ⟨⟨hdepth.trans hm.1, hpending.trans hm.2⟩, .decide rfl ?_ hrunning⟩
    rw [hobservers]
    exact Iff.rfl
  | entering =>
    -- both sections under the lock end with a decision
    have hsection : ∀ r : Option DriverCall × Monitor (Poller φ), Monitor.Decided m r →
        r.2.Quiet ∧ Client.Effect ⟨call, .entering⟩ ⟨call, .ofDecision r.1⟩ m r.2 := by
      intro r hr
      refine ⟨hr.quiet, .decide rfl ?_ (congrArg Poller.isRunning hr.driver_eq)⟩
      rw [Client.due_ofDecision]
      exact hr.decides
    cases call with
    | register o =>
      cases h
      exact hsection _ (Monitor.decided_join hm o)
    | unregister o =>
      cases h
      exact hsection _ (Monitor.decided_remove hm o)
  | steering d =>
    cases h
    have hsteer := Monitor.isRunning_steer d m
    cases d with
    | start => exact ⟨hm, .carryOut .start rfl rfl rfl hsteer⟩
    | stop => exact ⟨hm, .carryOut .stop rfl rfl rfl hsteer⟩
  | returned => cases h

end Step

/-! ## Schedules -/

namespace Clients

section Deeds

variable {δ : Type}

/-- The call of the driver that one of the clients has decided on and has not made. -/
def due (i : Nat) (c : Clients δ) : Option DriverCall := c.clients[i]?.bind Client.due

/-- What all clients have decided on and not done. -/
def pending (c : Clients δ) : List DriverCall := c.clients.filterMap Client.due

variable [PollingDriver δ]

/-- What is decided about the driver along a schedule, in the order of the decisions. -/
def decisions (c : Clients δ) : List Nat → List DriverCall
  | [] => []
  | i :: r =>
    match c.step i with
    | none => []
    | some c' => (c'.due i).toList ++ c'.decisions r

/-- What is done to the driver along a schedule, in the order in which it is done. -/
def deeds (c : Clients δ) : List Nat → List DriverCall
  | [] => []
  | i :: r =>
    match c.step i with
    | none => []
    | some c' => (c.due i).toList ++ c'.deeds r

theorem filterMap_due_cons (a : Client) (l : List Client) :
    (a :: l).filterMap Client.due = a.due.toList ++ l.filterMap Client.due := by
  rw [List.filterMap_cons]
  cases a.due <;> rfl

/-- One client goes on, and what it had to do is replaced by what it has to do now. -/
theorem filterMap_due_set {l : List Client} {i : Nat} {a b : Client} (h : l[i]? = some a) :
    (a.due.toList ++ (l.set i b).filterMap Client.due).Perm
      (l.filterMap Client.due ++ b.due.toList) := by
  induction l generalizing i with
  | nil => cases h
  | cons x l ih =>
    cases i with
    | zero =>
      cases h
      rw [List.set_cons_zero, filterMap_due_cons, filterMap_due_cons, List.append_assoc]
      exact List.perm_append_comm.append_left _
    | succ i =>
      rw [List.set_cons_succ, filterMap_due_cons, filterMap_due_cons, List.append_assoc]
      have hswap : (a.due.toList ++ (x.due.toList ++ (l.set i b).filterMap Client.due)).Perm
          (x.due.toList ++ (a.due.toList ++ (l.set i b).filterMap Client.due)) :=
        List.perm_append_comm_assoc _ _ _
      exact hswap.trans ((ih h).append_left _)

end Deeds

variable {φ : Type} {c c' : Clients (Poller φ)} {decided done : List DriverCall}

/-- The list of observers fits the last decision, the poller fits the last deed, and every decision
was carried out or still will be. -/
structure Abreast (decided done : List DriverCall) (c : Clients (Poller φ)) : Prop where
  quiet : c.monitor.Quiet
  observed : c.monitor.observers ≠ [] ↔ decided.getLast? = some .start
  running : c.monitor.driver.isRunning = true ↔ done.getLast? = some .start
  carried : (done ++ c.pending).Perm decided

theorem abreast_new (p : φ) (interval : Nat) (calls : List ClientCall) :
    Abreast [] [] (new (Poller.new p interval) calls) := by
  have hpending : (new (Poller.new p interval) calls).pending = [] := by
    rw [pending, List.filterMap_eq_nil_iff]
    intro client hclient
    obtain ⟨call, -, rfl⟩ := List.mem_map.1 hclient
    cases call <;> rfl
  refine ⟨⟨rfl, rfl⟩, by simp [new, Monitor.new], by simp [new, Monitor.new, Poller.new,
    Poller.isRunning], ?_⟩
  rw [hpending]
  exact .refl _

/-- When all calls have returned nothing is left to do. -/
theorem pending_of_allReturned (h : c.AllReturned) : c.pending = [] := by
  rw [pending, List.filterMap_eq_nil_iff]
  intro client hclient
  rw [Client.due, h client hclient]

variable [Fetcher φ]

namespace Abreast

/-- Every step keeps the list with what is decided and the poller with what is done. -/
theorem step (h : Abreast decided done c) {i : Nat} (hstep : c.step i = some c') :
    Abreast (decided ++ (c'.due i).toList) (done ++ (c.due i).toList) c' := by
  simp only [Clients.step, Option.bind_eq_some_iff, Option.map_eq_some_iff] at hstep
  obtain ⟨client, hclient, ⟨client', monitor⟩, hmove, rfl⟩ := hstep
  obtain ⟨hquiet, heffect⟩ := Client.effect_of_step h.quiet hmove
  have hlt : i < c.clients.length := (List.getElem?_eq_some_iff.1 hclient).1
  have hbefore : c.due i = client.due := by rw [due, hclient, Option.bind_some]
  have hafter : due i ⟨monitor, c.clients.set i client'⟩ = client'.due := by
    rw [due, List.getElem?_set_self hlt, Option.bind_some]
  -- what the client had to do has moved to what is done, and what it has decided is new
  have hcarried : (done ++ client.due.toList ++
      pending ⟨monitor, c.clients.set i client'⟩).Perm (decided ++ client'.due.toList) := by
    rw [List.append_assoc]
    refine ((filterMap_due_set hclient).append_left done).trans ?_
    rw [← List.append_assoc]
    exact h.carried.append_right _
  rw [hbefore, hafter]
  cases heffect with
  | decide hdue hobservers hrunning =>
    refine ⟨hquiet, ?_, ?_, hcarried⟩
    · exact hobservers.getLast?_iff h.observed
    · rw [hdue, Option.toList_none, List.append_nil, hrunning]
      exact h.running
  | carryOut call hdue hdone hobservers hrunning =>
    refine ⟨hquiet, ?_, ?_, hcarried⟩
    · rw [hdone, Option.toList_none, List.append_nil, hobservers]
      exact h.observed
    · rw [hdue, hrunning]
      simp

theorem run (h : Abreast decided done c) {schedule : List Nat}
    (hrun : c.run schedule = some c') :
    Abreast (decided ++ c.decisions schedule) (done ++ c.deeds schedule) c' := by
  induction schedule generalizing c decided done with
  | nil =>
    cases hrun
    simpa [decisions, deeds] using h
  | cons i r ih =>
    rw [Clients.run, Option.bind_eq_some_iff] at hrun
    obtain ⟨c1, h1, hr⟩ := hrun
    have hrest := ih (h.step h1) hr
    simpa only [decisions, deeds, h1, List.append_assoc] using hrest

end Abreast

/-- Two orders of the same calls end alike if both end with a start or neither does. -/
theorem last_start_iff {decided done : List DriverCall} (h : done.Perm decided) :
    ((done.getLast? = some .start ↔ decided.getLast? = some .start) ↔
      done.getLast? = decided.getLast?) := by
  constructor
  · intro hiff
    cases hdone : done.getLast? with
    | none =>
      rw [List.getLast?_eq_none_iff] at hdone
      subst hdone
      rw [h.symm.eq_nil]
      rfl
    | some x =>
      cases hdecided : decided.getLast? with
      | none =>
        -- one list is empty only together with the other
        rw [List.getLast?_eq_none_iff] at hdecided
        subst hdecided
        rw [h.eq_nil] at hdone
        cases hdone
      | some y =>
        rw [hdone, hdecided] at hiff
        cases x <;> cases y <;> simp_all
  · intro heq
    rw [heq]

/-! ## Main results -/

/-- However the calls of any number of clients interleave, once all have returned every decision was
carried out. The poller then runs for the registered observers exactly if what was done last is what
was decided last. -/
theorem running_iff_observed_iff_in_order {fetcher : φ} {interval : Nat} {calls : List ClientCall}
    {schedule : List Nat}
    (h : (new (Poller.new fetcher interval) calls).run schedule = some c) (hret : c.AllReturned) :
    ((new (Poller.new fetcher interval) calls).deeds schedule).Perm
        ((new (Poller.new fetcher interval) calls).decisions schedule) ∧
      ((c.monitor.driver.isRunning = true ↔ c.monitor.observers ≠ []) ↔
        ((new (Poller.new fetcher interval) calls).deeds schedule).getLast? =
          ((new (Poller.new fetcher interval) calls).decisions schedule).getLast?) := by
  have habreast := (abreast_new fetcher interval calls).run h
  obtain ⟨-, hobserved, hrunning, hcarried⟩ := habreast
  rw [pending_of_allReturned hret, List.append_nil] at hcarried
  simp only [List.nil_append] at hobserved hrunning hcarried
  refine ⟨hcarried, ?_⟩
  rw [hrunning, hobserved]
  exact last_start_iff hcarried

/-- The other way round, a start that is carried out after the stop that should have followed it: the
poller ends running for nobody. -/
theorem running_iff_observed_iff_in_order_late_start :
    ∃ c, (new (Poller.new (Script.new []) 1000) [.register 0, .unregister 0]).run
        [0, 0, 1, 1, 0] = some c ∧ c.AllReturned ∧ c.monitor.observers = [] ∧
      c.monitor.driver.isRunning = true ∧
      ((new (Poller.new (Script.new []) 1000) [.register 0, .unregister 0]).deeds
          [0, 0, 1, 1, 0]).getLast? ≠
        ((new (Poller.new (Script.new []) 1000) [.register 0, .unregister 0]).decisions
          [0, 0, 1, 1, 0]).getLast? := by
  obtain ⟨c, hrun, hclients, hobservers, hrunning⟩ : ∃ c,
      (new (Poller.new (Script.new []) 1000) [.register 0, .unregister 0]).run [0, 0, 1, 1, 0] =
        some c ∧ c.clients = [⟨.register 0, .returned⟩, ⟨.unregister 0, .returned⟩] ∧
      c.monitor.observers = [] ∧ c.monitor.driver.isRunning = true := ⟨_, rfl, rfl, rfl, rfl⟩
  have hret : c.AllReturned := by simp [AllReturned, hclients]
  obtain ⟨-, hiff⟩ := running_iff_observed_iff_in_order hrun hret
  refine ⟨c, hrun, hret, hobservers, hrunning, fun hlast => ?_⟩
  exact (hiff.2 hlast).1 hrunning hobservers

/-- A registration and an unregistration, and meanwhile a registration whose start comes too early to
have an effect: the poller ends stopped while an observer waits for events. -/
theorem start_carried_out_before_stop :
    ∃ c, (new (Poller.new (Script.new []) 1000)
        [.register 0, .unregister 0, .register 1]).run [0, 0, 0, 1, 2, 2, 2, 1] = some c ∧
      c.AllReturned ∧ c.monitor.observers = [1] ∧ c.monitor.driver.isRunning = false := by
  obtain ⟨c, hrun, hclients, hobservers, hrunning⟩ : ∃ c,
      (new (Poller.new (Script.new []) 1000) [.register 0, .unregister 0, .register 1]).run
        [0, 0, 0, 1, 2, 2, 2, 1] = some c ∧
      c.clients = [⟨.register 0, .returned⟩, ⟨.unregister 0, .returned⟩,
        ⟨.register 1, .returned⟩] ∧
      c.monitor.observers = [1] ∧ c.monitor.driver.isRunning = false := ⟨_, rfl, rfl, rfl, rfl⟩
  exact ⟨c, hrun, by simp [AllReturned, hclients], hobservers, hrunning⟩

end Clients
end LinkWatch
