import LinkWatch.Proofs.Monitor.Clients
import LinkWatch.Proofs.Monitor.Lifecycle
import LinkWatch.Proofs.Monitor.Presence
import LinkWatch.Proofs.Monitor.Sections

/-!
# The barrier of the poller

The poller takes the first snapshot for whoever waits first, and its barrier stays open from then
on. A stop shuts the barrier, but only a stop that finds a worker: an observer that leaves in its
own replay, before the worker was started for it, leaves the barrier open behind it.

`Gated` says what barrier and worker have to do with the list of observers in every state of every
run. `Released` follows the last observer from the moment it leaves to the end of the operation, and
so it comes out that the next query takes a new snapshot exactly if the poller was running when it
was stopped last (`query_fetches_iff_ran_at_stop`).
-/

namespace LinkWatch

/-- True when the driver was running when it was stopped last. -/
def Signal.ranAtStop : List Signal → Bool
  | [] => false
  | .stopped _ :: r => runs r
  | _ :: r => ranAtStop r

theorem Signal.ranAtStop_append {p : List Signal} (h : ∀ s ∈ p, s.isDriverCall = false)
    (r : List Signal) : ranAtStop (p ++ r) = ranAtStop r := by
  induction p with
  | nil => rfl
  | cons s p ih =>
    have hs := h s List.mem_cons_self
    have hrest := ih fun t ht => h t (List.mem_cons_of_mem _ ht)
    cases s <;> simp_all [isDriverCall, ranAtStop]

/-- True when a client or an observer wants to see the snapshot. -/
def Label.asks : Label → Bool
  | .request .query => true
  | .request .visit => true
  | _ => false

/-! ## What is done to the barrier -/

namespace Poller

variable {φ : Type} (p : Poller φ)

/-- A stop shuts the barrier if it finds a worker. -/
theorem stop_barrier : p.stop.barrier = if p.isRunning then .pending else p.barrier := by
  rw [stop, isRunning]
  cases p.worker <;> rfl

/-- A start leaves the barrier as it is. -/
theorem start_barrier : p.start.barrier = p.barrier := by
  rw [start]
  split <;> rfl

/-- The end of a round neither starts nor stops the worker. -/
theorem endPoll_isRunning (n : Nat) : (p.endPoll n).isRunning = p.isRunning := by
  rw [endPoll]
  split
  · split <;> rfl
  · rfl

/-- The end of a round does nothing when the worker was stopped. -/
theorem endPoll_of_not_isRunning (h : p.isRunning = false) (n : Nat) : p.endPoll n = p := by
  rw [endPoll]
  split
  · next w hw => simp [isRunning, hw] at h
  · rfl

/-- The end of a round opens the barrier or leaves it. -/
theorem endPoll_barrier (n : Nat) :
    (p.endPoll n).barrier = .done ∨ (p.endPoll n).barrier = p.barrier := by
  rw [endPoll]
  split
  · split
    · exact .inl rfl
    · exact .inr rfl
  · exact .inr rfl

variable [Fetcher φ] {p} {d : Poller φ}

/-- A wait finds the barrier open, or it begins with a fetch. -/
theorem beginWait_cases {s : Option Snapshot} (h : PollingDriver.beginWait p = some (s, d)) :
    p.barrier = .done ∧ s = none ∧ d = p ∨
      p.barrier = .pending ∧
        d = { p with fetcher := (Fetcher.fetch p.fetcher).2, barrier := .inProgress } := by
  change p.beginWait = some (s, d) at h
  rw [beginWait] at h
  split at h
  · next hbarrier =>
    cases h
    exact .inl ⟨hbarrier, rfl, rfl⟩
  · cases h
  · next hbarrier =>
    cases h
    exact .inr ⟨hbarrier, rfl⟩

/-- The start of a round leaves the barrier alone and the worker in its place. -/
theorem beginPoll_snd {r : Option (Nat × Option Snapshot)}
    (h : PollingDriver.beginPoll p = (r, d)) :
    d.barrier = p.barrier ∧ d.isRunning = p.isRunning := by
  change p.beginPoll = (r, d) at h
  rw [beginPoll] at h
  split at h
  · next n hworker =>
    cases ho : (Fetcher.fetch p.fetcher).1 <;> simp only [ho] at h <;> cases h <;>
      simp [isRunning, hworker]
  · cases h
    exact ⟨rfl, rfl⟩

end Poller

namespace Monitor

variable {φ : Type} {m m' : Monitor (Poller φ)} {l : Label}

/-! ## The barrier and the observers -/

/-- What the poller's worker and barrier have to do with the observers. -/
structure Gated (m : Monitor (Poller φ)) : Prop where
  isRunning_eq : m.driver.isRunning = m.isDriven
  open_of_observed : m.observers ≠ [] → m.driver.barrier = .done
  open_of_put_off : m.stopPending = true → m.driver.barrier = .done
  awaited : m.driver.barrier = .inProgress → ∃ next, .await next ∈ m.stack

/-- Only registrations wait for the first snapshot. -/
def Registering (m : Monitor (Poller φ)) : Prop :=
  ∀ next, .await next ∈ m.stack → ∃ o guarded, next = .register o guarded

/-- The poller is stopped, and its barrier is shut exactly if it was running until then. -/
def Ended (m : Monitor (Poller φ)) : Prop :=
  m.isDriven = false ∧ (m.driver.barrier = .pending ↔ Signal.ranAtStop m.past = true)

/-- Where nobody is registered, the stop is put off, or a registration is about to come, or else the
poller has ended. -/
def Released (m : Monitor (Poller φ)) : Prop :=
  m.observers = [] → m.stopPending = false → (∀ next, .await next ∉ m.stack) → m.Ended

/-- In the beginning the barrier is shut, nobody waits behind it and no worker runs. -/
theorem gated_new (fetcher : φ) (interval : Nat) : (new (Poller.new fetcher interval)).Gated where
  isRunning_eq := rfl
  open_of_observed h := absurd rfl h
  open_of_put_off h := by cases h
  awaited h := by cases h

/-- While the barrier is open, it remains that the worker fits the calls of the driver. -/
theorem gated_of_open (hopen : m.driver.barrier = .done)
    (hrunning : m.driver.isRunning = m.isDriven) : m.Gated :=
  ⟨hrunning, fun _ => hopen, fun _ => hopen, fun h => by rw [hopen] at h; cases h⟩

theorem released_of_observed (h : m.observers ≠ []) : m.Released :=
  fun hnone => absurd hnone h

/-- What a step makes of all this, unless somebody asks to see the snapshot. -/
structure Sustains (l : Label) (m m' : Monitor (Poller φ)) : Prop where
  gated : m'.Gated
  registering : l.asks = false → m.Registering → m'.Registering
  released : l.asks = false → m.Registering → m.Released → m'.Released

/-! ## Steps that touch neither the observers nor the barrier -/

/-- Everything that matters here is as it was, up to signals of other kinds. -/
structure Steady (m m' : Monitor (Poller φ)) : Prop where
  barrier_eq : m'.driver.barrier = m.driver.barrier
  isRunning_eq : m'.driver.isRunning = m.driver.isRunning
  observers_eq : m'.observers = m.observers
  stopPending_eq : m'.stopPending = m.stopPending
  past_eq : ∃ p, m'.past = p ++ m.past ∧ ∀ s ∈ p, s.isDriverCall = false
  mem_await_iff : ∀ next, .await next ∈ m'.stack ↔ .await next ∈ m.stack

namespace Steady

theorem isDriven_eq (h : m.Steady m') : m'.isDriven = m.isDriven := by
  obtain ⟨p, hpast, hp⟩ := h.past_eq
  rw [isDriven, hpast, Signal.runs_append hp, isDriven]

/-- A steady step keeps what barrier and worker have to do with the observers. -/
theorem gated (h : m.Steady m') (hm : m.Gated) : m'.Gated := by
  refine ⟨?_, ?_, ?_, ?_⟩
  · rw [h.isRunning_eq, h.isDriven_eq, hm.isRunning_eq]
  · rw [h.observers_eq, h.barrier_eq]
    exact hm.open_of_observed
  · rw [h.stopPending_eq, h.barrier_eq]
    exact hm.open_of_put_off
  · rw [h.barrier_eq]
    simpa only [h.mem_await_iff] using hm.awaited

/-- After a steady step still only registrations wait. -/
theorem registering (h : m.Steady m') (hm : m.Registering) : m'.Registering := by
  intro next hnext
  exact hm next ((h.mem_await_iff next).1 hnext)

/-- After a steady step a poller that has ended is still at its end. -/
theorem ended (h : m.Steady m') (hm : m.Ended) : m'.Ended := by
  obtain ⟨p, hpast, hp⟩ := h.past_eq
  rw [Ended, h.isDriven_eq, h.barrier_eq, hpast, Signal.ranAtStop_append hp]
  exact hm

theorem released (h : m.Steady m') (hm : m.Released) : m'.Released := by
  intro hnone hpending hawaits
  rw [h.observers_eq] at hnone
  rw [h.stopPending_eq] at hpending
  exact h.ended (hm hnone hpending fun next hnext =>
    hawaits next ((h.mem_await_iff next).2 hnext))

theorem trans {m'' : Monitor (Poller φ)} (h : m.Steady m') (h' : m'.Steady m'') :
    m.Steady m'' := by
  obtain ⟨p, hpast, hp⟩ := h.past_eq
  obtain ⟨p', hpast', hp'⟩ := h'.past_eq
  refine ⟨h'.barrier_eq.trans h.barrier_eq, h'.isRunning_eq.trans h.isRunning_eq,
    h'.observers_eq.trans h.observers_eq, h'.stopPending_eq.trans h.stopPending_eq,
    ⟨p' ++ p, by rw [hpast', hpast, List.append_assoc], ?_⟩,
    fun next => (h'.mem_await_iff next).trans (h.mem_await_iff next)⟩
  intro s hs
  rcases List.mem_append.1 hs with hnew | hold
  · exact hp' s hnew
  · exact hp s hold

/-- A steady step sustains everything, whatever its label. -/
theorem sustains (h : m.Steady m') (hm : m.Gated) : Sustains l m m' :=
  ⟨h.gated hm, fun _ => h.registering, fun _ _ => h.released⟩

theorem refl (m : Monitor (Poller φ)) : m.Steady m :=
  ⟨rfl, rfl, rfl, rfl, ⟨[], rfl, by simp⟩, fun _ => Iff.rfl⟩

/-- Operations begin, go on or end that do not wait, and what is seen is no call of the driver. -/
theorem of_stack {d : Poller φ} {s : List Frame} (i : Snapshot) {g : List ObserverId}
    {p : List Signal} (hbarrier : d.barrier = m.driver.barrier)
    (hrunning : d.isRunning = m.driver.isRunning) (hp : ∀ s ∈ p, s.isDriverCall = false)
    (hs : ∀ next, .await next ∈ s ↔ .await next ∈ m.stack) :
    m.Steady { m with interfaces := i, driver := d, guards := g, stack := s, past := p ++ m.past } :=
  ⟨hbarrier, hrunning, rfl, rfl, ⟨p, rfl, hp⟩, hs⟩

end Steady

/-- A snapshot that is handed over is retained, and is to be told. -/
theorem steady_keep? (m : Monitor (Poller φ)) (s : Option Snapshot) : m.Steady (m.keep? s) := by
  cases s with
  | none => exact .refl m
  | some s => exact .of_stack (p := []) s rfl rfl (by simp) (by simp)

/-- A guard that is handed out matters to nobody here. -/
theorem steady_grant (m : Monitor (Poller φ)) (guarded : Bool) (o : ObserverId) :
    m.Steady (m.grant guarded o) := by
  cases guarded with
  | false => exact .refl m
  | true => exact .of_stack (p := []) _ rfl rfl (by simp) fun _ => Iff.rfl

variable [Fetcher φ]

/-! ## Calls of the driver -/

/-- A start goes on from the barrier that it finds. -/
theorem Gated.startDriver (h : m.Gated) : m.startDriver.Gated := by
  have hbarrier : m.startDriver.driver.barrier = m.driver.barrier := Poller.start_barrier _
  refine ⟨isRunning_start _, ?_, ?_, ?_⟩
  · rw [hbarrier]
    exact h.open_of_observed
  · rw [hbarrier]
    exact h.open_of_put_off
  · rw [hbarrier]
    exact h.awaited

/-- A stop shuts the barrier if a worker was running. -/
theorem Gated.stopDriver (h : m.Gated) (hnone : m.observers = []) (hpending : m.stopPending = false) :
    m.stopDriver.Gated := by
  have hbarrier : m.stopDriver.driver.barrier = _ := Poller.stop_barrier m.driver
  refine ⟨isRunning_stop _, fun hsome => absurd hnone hsome, fun hp => ?_, fun hp => ?_⟩
  · exact absurd (hpending ▸ hp) Bool.false_ne_true
  · rw [hbarrier] at hp
    split at hp
    · cases hp
    · exact h.awaited hp

/-- Behind an open barrier a stop ends the poller: the barrier shuts if a worker was there. -/
theorem Gated.ended_stopDriver (h : m.Gated) (hopen : m.driver.barrier = .done) :
    m.stopDriver.Ended := by
  have hbarrier : m.stopDriver.driver.barrier = _ := Poller.stop_barrier m.driver
  refine ⟨rfl, ?_⟩
  rw [hbarrier, hopen, h.isRunning_eq]
  change _ ↔ m.isDriven = true
  split
  · next hdriven => exact iff_of_true rfl hdriven
  · next hdriven => exact iff_of_false (by simp) hdriven

/-! ## Observers that leave -/

section Leave

variable {rest : List ObserverId} {p : List Signal}

omit [Fetcher φ] in
/-- Observers that leave do not touch the barrier. -/
theorem Gated.with_fewer (h : m.Gated) (hp : ∀ s ∈ p, s.isDriverCall = false)
    (hrest : rest ≠ [] → m.observers ≠ []) :
    ({ m with observers := rest, past := p ++ m.past } : Monitor (Poller φ)).Gated := by
  refine ⟨?_, fun hsome => h.open_of_observed (hrest hsome), h.open_of_put_off, h.awaited⟩
  rw [h.isRunning_eq, isDriven, isDriven, Signal.runs_append hp]

omit [Fetcher φ] in
theorem Ended.with_more (h : m.Ended) (hp : ∀ s ∈ p, s.isDriverCall = false) :
    ({ m with observers := rest, past := p ++ m.past } : Monitor (Poller φ)).Ended := by
  rw [Ended, isDriven, Signal.runs_append hp, Signal.ranAtStop_append hp]
  exact h

/-- The list of observers becomes shorter, and if that has emptied it the poller is stopped or the
stop is put off. -/
theorem Gated.leave (h : m.Gated) (hlife : m.Lifecycle) {emptied : Bool}
    (hp : ∀ s ∈ p, s.isDriverCall = false) (hrest : rest ≠ [] → m.observers ≠ [])
    (hemptied : emptied = true ↔ rest = [] ∧ m.observers ≠ []) :
    Sustains l m
      (steer ({ m with observers := rest, past := p ++ m.past }.releaseDriver emptied)) := by
  have hfewer := h.with_fewer hp hrest
  cases emptied with
  | false =>
    refine ⟨hfewer, fun _ hreg => hreg, fun _ _ hreleased hnone hpending hawaits => ?_⟩
    -- nobody was there before, as the list was not emptied
    have hbefore : m.observers = [] := by
      by_contra hsome
      exact absurd (hemptied.2 ⟨hnone, hsome⟩) Bool.false_ne_true
    exact (hreleased hbefore hpending hawaits).with_more hp
  | true =>
    obtain ⟨hnil, hsome⟩ := hemptied.1 rfl
    subst hnil
    have hopen := h.open_of_observed hsome
    by_cases hdepth : 0 < m.replayDepth
    · have hput : steer ({ m with observers := [], past := p ++ m.past }.releaseDriver true) =
          { m with observers := [], past := p ++ m.past, stopPending := true } := by
        rw [releaseDriver, if_neg (by simp), if_pos hdepth, steer]
      rw [hput]
      refine ⟨⟨hfewer.isRunning_eq, hfewer.open_of_observed, fun _ => hopen, hfewer.awaited⟩,
        fun _ hreg => hreg, fun _ _ _ _ hpending => ?_⟩
      cases hpending
    · have hstop : steer ({ m with observers := [], past := p ++ m.past }.releaseDriver true) =
          ({ m with observers := [], past := p ++ m.past } : Monitor (Poller φ)).stopDriver := by
        rw [releaseDriver, if_neg (by simp), if_neg hdepth, steer]
      have hpending : m.stopPending = false := by
        rw [Bool.eq_false_iff]
        exact fun hp => hdepth (hlife.pending_imp hp)
      rw [hstop]
      exact ⟨hfewer.stopDriver rfl hpending, fun _ hreg => hreg,
        fun _ _ _ _ _ _ => hfewer.ended_stopDriver hopen⟩

/-- An observer that leaves stops the driver, puts the stop off, or changes nothing. -/
theorem Gated.unregister (h : m.Gated) (hlife : m.Lifecycle) (o : ObserverId) :
    Sustains l m (m.unregister o) := by
  rw [Monitor.unregister, remove]
  split
  · next ho =>
    have hmem : o ∈ m.observers := by simpa [isRegistered] using ho
    refine h.leave hlife (p := [.left o]) (by simp [Signal.isDriverCall]) (fun _ => ?_) ?_
    · exact List.ne_nil_of_mem hmem
    · simpa using fun _ => List.ne_nil_of_mem hmem
  · exact (Steady.refl m).sustains h

/-- When everybody leaves, the driver is stopped or the stop is put off. -/
theorem Gated.shutdown (h : m.Gated) (hlife : m.Lifecycle) : Sustains l m m.shutdown := by
  rw [Monitor.shutdown, clear]
  refine h.leave hlife ?_ (fun hr => absurd rfl hr) (by simp)
  simp [Signal.isDriverCall]

end Leave

/-! ## Waits, replays and rounds -/

/-- A wait that begins with a fetch begins while nobody is registered. -/
theorem Gated.await (h : m.Gated) {r : Request} {next : Awaiting} {s : Option Snapshot}
    {d : Poller φ} (hr : r.awaiting = some next)
    (hd : PollingDriver.beginWait m.driver = some (s, d)) :
    Sustains (.request r) m (({ m with driver := d }.push (.await next)).keep? s) := by
  have hkeep := steady_keep? (({ m with driver := d } : Monitor (Poller φ)).push (.await next)) s
  have hnext : .await next ∈ (({ m with driver := d } : Monitor (Poller φ)).push (.await next)).stack :=
    List.mem_cons_self
  refine ⟨hkeep.gated ?_, fun hasks hreg => hkeep.registering ?_, fun _ _ _ _ _ hawaits => ?_⟩
  · rcases Poller.beginWait_cases hd with ⟨-, -, rfl⟩ | ⟨hpending, rfl⟩
    · refine ⟨h.isRunning_eq, h.open_of_observed, h.open_of_put_off, fun hb => ?_⟩
      obtain ⟨next', hnext'⟩ := h.awaited hb
      exact ⟨next', List.mem_cons_of_mem _ hnext'⟩
    · refine ⟨h.isRunning_eq, fun hsome => ?_, fun hput => ?_, fun _ => ⟨next, hnext⟩⟩
      · rw [h.open_of_observed hsome] at hpending
        cases hpending
      · rw [h.open_of_put_off hput] at hpending
        cases hpending
  · intro next' hnext'
    rcases List.mem_cons.1 hnext' with heq | hrest
    · cases heq
      cases r with
      | register o => exact ⟨o, false, (Option.some.inj hr).symm⟩
      | subscribe o => exact ⟨o, true, (Option.some.inj hr).symm⟩
      | query => cases hasks
      | visit => cases hasks
      | _ => cases hr
    · exact hreg next' hrest
  · exact absurd ((hkeep.mem_await_iff next).2 hnext) (hawaits next)

/-- A wait ends with the barrier open. -/
theorem Gated.resume (h : m.Gated) {next : Awaiting} {r : List Frame}
    (hs : m.stack = .await next :: r) :
    Sustains l m
      (({ m with stack := r, driver := PollingDriver.endWait m.driver } : Monitor (Poller φ)).resume
        next) := by
  have hreg : m.Registering → ∀ next', .await next' ∈ r → ∃ o g, next' = .register o g :=
    fun hreg next' hnext' => hreg next' (hs ▸ List.mem_cons_of_mem _ hnext')
  cases next with
  | register o guarded =>
    rw [Monitor.resume, beginReplay]
    split
    · next ho =>
      have hsome : m.observers ≠ [] := List.ne_nil_of_mem (isRegistered_iff.1 ho)
      have hgrant := steady_grant
        { m with stack := r, driver := PollingDriver.endWait m.driver } guarded o
      refine ⟨hgrant.gated (gated_of_open rfl h.isRunning_eq),
        fun _ hm => hgrant.registering (hreg hm), fun _ _ _ => hgrant.released ?_⟩
      exact released_of_observed hsome
    · refine ⟨gated_of_open rfl h.isRunning_eq, fun _ hm next' hnext' => ?_, fun _ _ _ => ?_⟩
      · rcases List.mem_cons.1 hnext' with heq | hrest
        · cases heq
        · exact hreg hm next' hrest
      · exact released_of_observed (by simp [push, note])
  | query =>
    refine ⟨gated_of_open rfl h.isRunning_eq, fun _ => hreg, fun _ hm => ?_⟩
    obtain ⟨o, guarded, heq⟩ := hm .query (hs ▸ List.mem_cons_self)
    cases heq
  | visit =>
    have hvisit : m.Registering → False := fun hm => by
      obtain ⟨o, guarded, heq⟩ := hm .visit (hs ▸ List.mem_cons_self)
      cases heq
    exact ⟨gated_of_open rfl h.isRunning_eq, fun _ hm => (hvisit hm).elim,
      fun _ hm => (hvisit hm).elim⟩

/-- The end of a replay is where a stop that was put off, or a start, is made up for. -/
theorem Gated.endReplay (h : m.Gated) {o o' : ObserverId} {p : List Event}
    {first guarded g : Bool} {r : List Frame} (hs : m.stack = .replay o p first g :: r) :
    Sustains l m (({ m with stack := r } : Monitor (Poller φ)).endReplay o' first guarded) := by
  have hawaits (next : Awaiting) : .await next ∈ r ↔ .await next ∈ m.stack := by simp [hs]
  have hgrant := steady_grant
    (steer (({ m with stack := r } : Monitor (Poller φ)).closeReplay first)) guarded o'
  suffices hclose : Sustains l m
      (steer (({ m with stack := r } : Monitor (Poller φ)).closeReplay first)) from
    ⟨hgrant.gated hclose.gated, fun hl hm => hgrant.registering (hclose.registering hl hm),
      fun hl hm hreleased => hgrant.released (hclose.released hl hm hreleased)⟩
  have hclosed : (({ m with stack := r } : Monitor (Poller φ)).closeReplay first).2.Gated := by
    refine ⟨h.isRunning_eq, h.open_of_observed, fun hput => ?_, fun hb => ?_⟩
    · simp only [closeReplay, Bool.and_eq_true] at hput
      exact h.open_of_put_off hput.1
    · obtain ⟨next, hnext⟩ := h.awaited hb
      exact ⟨next, (hawaits next).2 hnext⟩
  have hreg : m.Registering → ∀ next, .await next ∈ r → ∃ o g, next = .register o g :=
    fun hm next hnext => hm next ((hawaits next).1 hnext)
  simp only [closeReplay] at hclosed ⊢
  split
  · next hstop =>
    -- the outermost replay ends with the stop put off and nobody there
    simp only [Bool.and_eq_true, beq_iff_eq, List.isEmpty_iff] at hstop
    obtain ⟨⟨hzero, hput⟩, hnone⟩ := hstop
    exact ⟨hclosed.stopDriver hnone (by simp [hzero]), fun _ => hreg,
      fun _ _ _ _ _ _ => hclosed.ended_stopDriver (h.open_of_put_off hput)⟩
  · next hstop =>
    split
    · next hstart =>
      simp only [Bool.and_eq_true, Bool.not_eq_true', List.isEmpty_eq_false_iff] at hstart
      exact ⟨hclosed.startDriver, fun _ => hreg, fun _ _ _ => released_of_observed hstart.2⟩
    · refine ⟨hclosed, fun _ => hreg, fun _ _ hreleased hnone hpending hnext => ?_⟩
      have hnone' : m.observers = [] := hnone
      -- a stop that was put off would have been made up for here
      have hpending' : m.stopPending = false := by
        cases hput : m.stopPending with
        | false => rfl
        | true => simp [steer, hput, hnone', bne] at hpending hstop; contradiction
      exact hreleased hnone hpending' fun next hmem => hnext next ((hawaits next).2 hmem)

/-- A round ends with the barrier open if its worker was not stopped. -/
theorem Gated.polled (h : m.Gated) {n : Nat} {r : List Frame} (hs : m.stack = .poll n :: r) :
    Sustains l m { m with stack := r, driver := PollingDriver.endPoll n m.driver } := by
  have hawaits (next : Awaiting) : .await next ∈ r ↔ .await next ∈ m.stack := by simp [hs]
  have hrunning : (m.driver.endPoll n).isRunning = m.driver.isRunning :=
    Poller.endPoll_isRunning m.driver n
  refine ⟨?_, fun _ hm next hnext => hm next ((hawaits next).1 hnext),
    fun _ _ hreleased hnone hpending hnext => ?_⟩
  · rcases Poller.endPoll_barrier m.driver n with hopen | hsame
    · exact gated_of_open hopen (hrunning.trans h.isRunning_eq)
    · exact (Steady.of_stack (p := []) _ hsame hrunning (by simp) hawaits).gated h
  · -- the poller has ended, and there is no worker whose round it could be
    have hended := hreleased hnone hpending fun next hmem => hnext next ((hawaits next).2 hmem)
    have hstopped : m.driver.isRunning = false := h.isRunning_eq.trans hended.1
    have hsame : m.driver.endPoll n = m.driver :=
      Poller.endPoll_of_not_isRunning m.driver hstopped n
    exact (Steady.of_stack (p := []) _ (congrArg Poller.barrier hsame) hrunning (by simp)
      hawaits).ended hended

/-! ## Steps and runs -/

/-- Every step keeps what is known of the barrier. -/
theorem Gated.step (h : m.Gated) (hlife : m.Lifecycle) (hstep : m.step l = some m') :
    Sustains l m m' := by
  cases Transition.of_step hstep with
  | await _ hr hd => exact h.await hr hd
  | @release o _ _ =>
    have hguards : m.Steady { m with guards := m.guards.erase o } :=
      .of_stack (p := []) _ rfl rfl (by simp) fun _ => Iff.rfl
    have hrest := (hguards.gated h).unregister (l := .request (.release o))
      (hlife.set_driver m.driver (m.guards.erase o)) o
    exact ⟨hrest.gated, hrest.registering, fun hl hm hreleased =>
      hrest.released hl hm (hguards.released hreleased)⟩
  | unregister _ => exact h.unregister hlife _
  | shutdown _ => exact h.shutdown hlife
  | deliver _ => exact (steady_keep? m (some _)).sustains h
  | idle _ hd =>
    obtain ⟨hbarrier, hrunning⟩ := Poller.beginPoll_snd hd
    exact (Steady.of_stack (p := []) _ hbarrier hrunning (by simp) fun _ => Iff.rfl).sustains h
  | @poll n s d _ hd =>
    obtain ⟨hbarrier, hrunning⟩ := Poller.beginPoll_snd hd
    have hpush : m.Steady (({ m with driver := d } : Monitor (Poller φ)).push (.poll n)) :=
      .of_stack (p := []) _ hbarrier hrunning (by simp) (by simp)
    exact (hpush.trans (steady_keep? _ s)).sustains h
  | resume hs => exact h.resume hs
  | tell hs _ | replay hs _ | visit hs =>
    exact (Steady.of_stack (p := [_]) _ rfl rfl (by simp [Signal.isDriverCall])
      (by simp [hs, push])).sustains h
  | replayed hs _ => exact h.endReplay hs
  | polled hs => exact h.polled hs
  | dispatched hs | skip hs _ | visited hs =>
    exact (Steady.of_stack (p := []) _ rfl rfl (by simp) (by simp [hs])).sustains h
  | @returned l f r hs hf _ =>
    have hcall : ∀ next, f ≠ .await next := by
      rintro next rfl
      cases hf
    exact (Steady.of_stack (p := []) _ rfl rfl (by simp)
      (by simp [hs, fun next => (hcall next).symm])).sustains h

theorem Gated.run {ls : List Label} {fetcher : φ} {interval : Nat}
    (h : (new (Poller.new fetcher interval)).run ls = some m) : m.Gated ∧ m.Lifecycle :=
  run_induction (P := fun m => m.Gated ∧ m.Lifecycle)
    (fun _ _ _ hm hstep => ⟨(hm.1.step hm.2 hstep).gated, hm.2.step hstep⟩)
    ⟨gated_new fetcher interval, lifecycle_new _⟩ h

/-- As long as nobody asks to see the snapshot, only registrations wait, and the last observer is
followed until the poller has ended. -/
theorem sustains_of_run {ls : List Label} (h : m.run ls = some m') (hgated : m.Gated)
    (hlife : m.Lifecycle) (hreg : m.Registering) (hasks : ∀ l ∈ ls, l.asks = false) :
    m'.Registering ∧ (m.Released → m'.Released) := by
  induction ls generalizing m with
  | nil =>
    cases h
    exact ⟨hreg, id⟩
  | cons l ls ih =>
    obtain ⟨m₁, h₁, hrun⟩ := Option.bind_eq_some_iff.1 h
    obtain ⟨hl, hrest⟩ := List.forall_mem_cons.1 hasks
    have hsustains := hgated.step hlife h₁
    obtain ⟨hreg', hreleased'⟩ :=
      ih hrun hsustains.gated (hlife.step h₁) (hsustains.registering hl hreg) hrest
    exact ⟨hreg', fun hreleased => hreleased' (hsustains.released hl hreg hreleased)⟩

/-! ## The next query -/

/-- What a wait makes of a monitor when it has to take a new snapshot. -/
def renewed (m : Monitor (Poller φ)) : Monitor (Poller φ) :=
  let (o, fetcher) := Fetcher.fetch m.driver.fetcher
  ({ m with driver := { m.driver with fetcher := fetcher, barrier := .done } } :
    Monitor (Poller φ)).absorb? o.snapshot?

/-- Behind a shut barrier a request makes a fetch first. -/
theorem awaitFirst_of_shut (h : m.driver.barrier = .pending) : m.awaitFirst = some m.renewed := by
  have hbegin : PollingDriver.beginWait m.driver =
      some ((Fetcher.fetch m.driver.fetcher).1.snapshot?, { m.driver with
        fetcher := (Fetcher.fetch m.driver.fetcher).2
        barrier := .inProgress }) := by
    change m.driver.beginWait = _
    rw [Poller.beginWait, h]
  rw [awaitFirst_eq_map, hbegin]
  rfl

/-- Behind an open barrier a request goes on at once. -/
theorem awaitFirst_of_open (h : m.driver.barrier = .done) : m.awaitFirst = some m := by
  obtain ⟨interfaces, observers, depth, pending, driver, guards, stack, past⟩ := m
  obtain ⟨fetcher, interval, barrier, worker, next⟩ := driver
  obtain rfl : barrier = .done := h
  rfl

/-- When nothing is under way and nobody is registered, and somebody was since the last query, the
poller has ended. -/
theorem ended_of_run {fetcher : φ} {interval : Nat} {before ls : List Label}
    (hbefore : (new (Poller.new fetcher interval)).run before = some m) (hidle : m.stack = [])
    (hrun : m.run ls = some m') (hasks : ∀ l ∈ ls, l.asks = false)
    (hobserved : ∃ ls' n, ls' <+: ls ∧ m.run ls' = some n ∧ n.observers ≠ [])
    (hidle' : m'.stack = []) (hnone : m'.observers = []) : m'.Ended := by
  obtain ⟨earlier, n, ⟨later, rfl⟩, hn, hsome⟩ := hobserved
  rw [run_append, hn, Option.bind_some] at hrun
  have hasksn := fun l hl => hasks l (List.mem_append_left _ hl)
  have hasksm' := fun l hl => hasks l (List.mem_append_right _ hl)
  obtain ⟨hgated, hlife⟩ := Gated.run hbefore
  have hreg : m.Registering := fun next hnext => by
    rw [hidle] at hnext
    cases hnext
  obtain ⟨hregn, -⟩ := sustains_of_run hn hgated hlife hreg hasksn
  -- from here on the last observer is followed
  have hn' : (new (Poller.new fetcher interval)).run (before ++ earlier) = some n := by
    rw [run_append, hbefore, Option.bind_some, hn]
  obtain ⟨hgatedn, hlifen⟩ := Gated.run hn'
  obtain ⟨-, hreleased⟩ := sustains_of_run hrun hgatedn hlifen hregn hasksm'
  have hrun' : (new (Poller.new fetcher interval)).run (before ++ earlier ++ later) = some m' := by
    rw [run_append, hn', Option.bind_some, hrun]
  have hlife' := Lifecycle.run hrun'
  have hpending : m'.stopPending = false := by
    rw [Bool.eq_false_iff]
    intro hput
    have hdepth := hlife'.pending_imp hput
    rw [hlife'.depth_eq, replays, hidle'] at hdepth
    exact absurd hdepth (Nat.lt_irrefl 0)
  refine hreleased (released_of_observed hsome) hnone hpending fun next hnext => ?_
  rw [hidle'] at hnext
  cases hnext

/-! ## Main result -/

/-- An operation, or several, without a query: somebody was registered in the meantime, and in the
end nobody is and nothing is under way. Then the poller is stopped. The next query takes one new
snapshot and is answered from what is retained after that, if the poller was running when it was
stopped last; otherwise it takes none. -/
theorem query_fetches_iff_ran_at_stop {fetcher : φ} {interval : Nat} {before ls : List Label}
    (hbefore : (new (Poller.new fetcher interval)).run before = some m) (hidle : m.stack = [])
    (hrun : m.run ls = some m') (hasks : ∀ l ∈ ls, l.asks = false)
    (hobserved : ∃ ls' n, ls' <+: ls ∧ m.run ls' = some n ∧ n.observers ≠ [])
    (hidle' : m'.stack = []) (hnone : m'.observers = []) :
    m'.driver.isRunning = false ∧
      ∃ n, n = (if Signal.ranAtStop m'.past then m'.renewed else m') ∧
        m'.perform .query = some (n.note (.answered n.interfaces)) ∧
        m'.perform .visit =
          some { n with past := (n.interfaces.values.map Signal.visited).reverse ++ n.past } := by
  have hrun' : (new (Poller.new fetcher interval)).run (before ++ ls) = some m' := by
    rw [run_append, hbefore, Option.bind_some, hrun]
  obtain ⟨hgated, -⟩ := Gated.run hrun'
  obtain ⟨hdriven, hshut⟩ := ended_of_run hbefore hidle hrun hasks hobserved hidle' hnone
  have hwait : m'.awaitFirst = some (if Signal.ranAtStop m'.past then m'.renewed else m') := by
    split
    · next hran => exact awaitFirst_of_shut (hshut.2 hran)
    · next hran =>
      apply awaitFirst_of_open
      cases hbarrier : m'.driver.barrier with
      | pending => exact absurd (hshut.1 hbarrier) hran
      | done => rfl
      | inProgress =>
        -- somebody would be waiting
        obtain ⟨next, hnext⟩ := hgated.awaited hbarrier
        rw [hidle'] at hnext
        cases hnext
  refine ⟨hgated.isRunning_eq.trans hdriven, _, rfl, ?_, ?_⟩
  · rw [perform_query hidle', hwait, Option.map_some]
  · rw [perform_visit hidle', hwait, Option.map_some]

/-- A poller whose fetches all find a loopback interface. -/
def loopbackPoller : Poller Script :=
  .new (.new [.snapshot (Keyed.empty.insert "lo" (.new "lo" .loopback))]) 1000

/-- Steps in which an observer joins and the poller is started. -/
def observedLabels : List Label :=
  [.request (.register 0), .proceed, .proceed, .proceed, .finish, .proceed]

/-- Steps in which a second observer joins and dismisses everybody when it is told of the interface,
so that the stop is put off until its replay ends. -/
def dismissedLabels : List Label :=
  [.request (.register 1), .proceed, .proceed, .request .shutdown, .finish, .proceed]

/-- The last observer leaves in the middle of a replay, after the worker was started. The stop that
is put off shuts the barrier, and the next query makes a second fetch. -/
theorem query_fetches_iff_ran_at_stop_put_off :
    ∃ m m' n, (new loopbackPoller).run observedLabels = some m ∧ m.stack = [] ∧
      m.run dismissedLabels = some m' ∧ (∀ l ∈ dismissedLabels, l.asks = false) ∧
      (∃ ls k, ls <+: dismissedLabels ∧ m.run ls = some k ∧ k.observers ≠ []) ∧
      m'.stack = [] ∧ m'.observers = [] ∧ m'.driver.isRunning = false ∧
      Signal.ranAtStop m'.past = true ∧ m'.driver.fetcher.fetched = 1 ∧
      m'.perform .query = some n ∧ n.driver.fetcher.fetched = 2 := by
  obtain ⟨m, m', hrun, hidle, hdismissed, hsome, hidle', hnone, hran, hfetched, hrenewed⟩ :
      ∃ m m', (new loopbackPoller).run observedLabels = some m ∧ m.stack = [] ∧
        m.run dismissedLabels = some m' ∧ m.observers = [0] ∧ m'.stack = [] ∧ m'.observers = [] ∧
        Signal.ranAtStop m'.past = true ∧ m'.driver.fetcher.fetched = 1 ∧
        m'.renewed.driver.fetcher.fetched = 2 :=
    ⟨_, _, rfl, rfl, rfl, rfl, rfl, rfl, rfl, rfl, rfl⟩
  have hasks : ∀ l ∈ dismissedLabels, l.asks = false := by simp [dismissedLabels, Label.asks]
  have hobserved : ∃ ls k, ls <+: dismissedLabels ∧ m.run ls = some k ∧ k.observers ≠ [] :=
    ⟨[], m, List.nil_prefix, rfl, by rw [hsome]; exact List.cons_ne_nil 0 []⟩
  obtain ⟨hstopped, n, hn, hquery, -⟩ :=
    query_fetches_iff_ran_at_stop hrun hidle hdismissed hasks hobserved hidle' hnone
  rw [if_pos hran] at hn
  subst hn
  exact ⟨m, m', _, hrun, hidle, hdismissed, hasks, hobserved, hidle', hnone, hstopped, hran,
    hfetched, hquery, hrenewed⟩

/-- Steps in which the first observer joins and leaves when it is told of the interface. -/
def ownReplayLabels : List Label :=
  [.request (.register 0), .proceed, .proceed, .proceed, .request (.unregister 0), .finish, .proceed]

/-- The last observer has left and the poller is not running, but the next query is answered without
a new fetch. -/
theorem query_without_fetch :
    ∃ m n, (new loopbackPoller).run ownReplayLabels = some m ∧
      (∀ l ∈ ownReplayLabels, l.asks = false) ∧
      (∃ ls k, ls <+: ownReplayLabels ∧ (new loopbackPoller).run ls = some k ∧
        k.observers ≠ []) ∧
      m.stack = [] ∧ m.observers = [] ∧ m.driver.isRunning = false ∧
      m.driver.fetcher.fetched = 1 ∧ m.perform .query = some n ∧ n.driver.fetcher.fetched = 1 :=
  have hsome : ∃ k, (new loopbackPoller).run (ownReplayLabels.take 3) = some k ∧
      k.observers = [0] := ⟨_, rfl, rfl⟩
  have ⟨k, hk, hobservers⟩ := hsome
  ⟨_, _, rfl, by simp [ownReplayLabels, Label.asks],
    ⟨_, k, List.take_prefix 3 _, hk, by rw [hobservers]; exact List.cons_ne_nil 0 []⟩,
    rfl, rfl, rfl, rfl, rfl, rfl⟩

end Monitor
end LinkWatch
