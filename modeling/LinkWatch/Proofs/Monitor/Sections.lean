import LinkWatch.Monitor.Clients
import LinkWatch.Proofs.Monitor.Settle

/-!
# Whole sections of a call

A registration or an unregistration that nobody interferes with, with observers that do nothing, is
its sections one after another: the wait, what is done under the lock, and what is done to the
driver afterwards (`perform_register`, `perform_subscribe`, `perform_unregister`). These are the
steps that the calls of several clients interleave in. A query is the wait and then the answer
(`perform_query`, `perform_visit`). A round of the driver's worker is the taking of a snapshot and
the telling of what it changes (`perform_poll`).
-/

namespace LinkWatch.Monitor

variable {δ : Type}

@[simp] theorem join_stack (m : Monitor δ) (o : ObserverId) : (m.join o).2.stack = m.stack := by
  rw [join]
  split <;> rfl

/-- Keeps a snapshot if there is one, and tells the observers, who do nothing. -/
def absorb? (s : Option Snapshot) (m : Monitor δ) : Monitor δ :=
  match s with
  | some s => m.absorb s
  | none => m

@[simp] theorem absorb?_observers (s : Option Snapshot) (m : Monitor δ) :
    (m.absorb? s).observers = m.observers := by
  cases s <;> rfl

@[simp] theorem absorb?_driver (s : Option Snapshot) (m : Monitor δ) :
    (m.absorb? s).driver = m.driver := by
  cases s <;> rfl

@[simp] theorem absorb?_stack (s : Option Snapshot) (m : Monitor δ) :
    (m.absorb? s).stack = m.stack := by
  cases s <;> rfl

variable [PollingDriver δ] {m m' m'' : Monitor δ}

/-! ## Quiet steps -/

/-- One monitor becomes another one by quiet steps. -/
def Reaches (m m' : Monitor δ) : Prop := ∃ n, Nat.repeat quietStep n m = m'

theorem repeat_add (k n : Nat) (m : Monitor δ) :
    Nat.repeat quietStep (k + n) m = Nat.repeat quietStep k (Nat.repeat quietStep n m) := by
  induction k with
  | zero => rw [Nat.zero_add]; rfl
  | succ k ih => rw [Nat.succ_add, Nat.repeat, ih, Nat.repeat]

theorem repeat_of_idle (h : m.stack = []) (n : Nat) : Nat.repeat quietStep n m = m := by
  induction n with
  | zero => rfl
  | succ n ih => rw [Nat.repeat, ih, quietStep_of_idle h]

theorem Reaches.trans (h : m.Reaches m') (h' : m'.Reaches m'') : m.Reaches m'' := by
  obtain ⟨n, rfl⟩ := h
  obtain ⟨k, rfl⟩ := h'
  exact ⟨k + n, repeat_add k n m⟩

theorem reaches_proceed (h : m.proceed = some m') : m.Reaches m' :=
  ⟨1, by simp [Nat.repeat, quietStep, h]⟩

theorem reaches_endCall (hp : m.proceed = none) (h : m.endCall = some m') : m.Reaches m' :=
  ⟨1, by simp [Nat.repeat, quietStep, hp, h]⟩

/-- Settling leads wherever quiet steps lead in the end. -/
theorem Reaches.settle_eq (h : m.Reaches m') (hidle : m'.stack = []) : m.settle = m' := by
  obtain ⟨n, hn⟩ := h
  -- whoever stops first stays where it is, so both come to the same end
  rcases Nat.le_total n m.work with hle | hle
  · obtain ⟨k, hk⟩ := Nat.exists_eq_add_of_le' hle
    rw [settle, hk, repeat_add, hn, repeat_of_idle hidle]
  · obtain ⟨k, hk⟩ := Nat.exists_eq_add_of_le' hle
    rw [hk, repeat_add] at hn
    rw [← hn]
    exact (repeat_of_idle m.settle_stack k).symm

/-- Settling begins with any quiet steps. -/
theorem Reaches.settle_eq_settle (h : m.Reaches m') : m.settle = m'.settle := by
  have hsettle : m'.Reaches m'.settle := ⟨m'.work, rfl⟩
  exact (h.trans hsettle).settle_eq m'.settle_stack

/-! ## Telling -/

/-- An observer that is told something returns at once. -/
theorem reaches_told {o : ObserverId} {e : Event} {r : List Frame}
    (h : m.proceed =
      some ((({ m with stack := r } : Monitor δ).push (.callback o e)).note (.invoked o e))) :
    m.Reaches { m with stack := r, past := .invoked o e :: m.past } :=
  (reaches_proceed h).trans (reaches_endCall rfl rfl)

/-- Observers that are all registered are told everything that is handed out. -/
theorem reaches_dispatched {pairs : List (Event × ObserverId)} {r : List Frame}
    (hs : m.stack = .dispatch pairs :: r) (hp : ∀ p ∈ pairs, m.isRegistered p.2 = true) :
    m.Reaches { m with
      stack := r
      past := (pairs.map fun p => Signal.invoked p.2 p.1).reverse ++ m.past } := by
  induction pairs generalizing m with
  | nil =>
    apply reaches_proceed
    simp [proceed, hs]
  | cons p pairs ih =>
    obtain ⟨e, o⟩ := p
    obtain ⟨ho, hp'⟩ := List.forall_mem_cons.1 hp
    have hstep : m.proceed = some ((({ m with stack := .dispatch pairs :: r } : Monitor δ).push
        (.callback o e)).note (.invoked o e)) := by
      have ho' : ({ m with stack := .dispatch pairs :: r } : Monitor δ).isRegistered o = true := ho
      simp only [proceed, hs, if_pos ho']
    have hrest := ih (m := { m with
      stack := .dispatch pairs :: r
      past := .invoked o e :: m.past }) rfl hp'
    simpa using (reaches_told hstep).trans hrest

/-- A registered observer is told everything of its replay. -/
theorem reaches_replayed {o : ObserverId} {pending : List Event} {first guarded : Bool}
    {r : List Frame} (hs : m.stack = .replay o pending first guarded :: r)
    (ho : m.isRegistered o = true) :
    m.Reaches (({ m with
      stack := r
      past := (pending.map (Signal.invoked o)).reverse ++ m.past } : Monitor δ).endReplay o first
        guarded) := by
  induction pending generalizing m with
  | nil =>
    apply reaches_proceed
    simp [proceed, hs]
  | cons e pending ih =>
    have hstep : m.proceed = some ((({ m with stack := .replay o pending first guarded :: r } :
        Monitor δ).push (.callback o e)).note (.invoked o e)) := by
      simp only [proceed, hs, if_pos ho]
    have hrest := ih (m := { m with
      stack := .replay o pending first guarded :: r
      past := .invoked o e :: m.past }) rfl ho
    simpa using (reaches_told hstep).trans hrest

/-! ## The sections -/

/-- A snapshot that is handed over is kept, and everybody is told. -/
theorem reaches_keep (s : Snapshot) (m : Monitor δ) : (m.keep s).Reaches (m.absorb s) := by
  have htold : ∀ p ∈ (Snapshot.diff m.interfaces s).flatMap fun e =>
      m.observers.map fun o => (e, o), (m.keep s).isRegistered p.2 = true := by
    intro p hp
    obtain ⟨e, -, hp⟩ := List.mem_flatMap.1 hp
    obtain ⟨o, ho, rfl⟩ := List.mem_map.1 hp
    simpa [keep, push, isRegistered] using ho
  have hreach := reaches_dispatched (m := m.keep s) (r := m.stack) rfl htold
  simpa [absorb, keep, push, List.map_flatMap, Function.comp_def] using hreach

/-- The replay to a new observer, and what is decided when it ends. -/
theorem reaches_join (hidle : m.stack = []) (o : ObserverId) (guarded : Bool) :
    (m.beginReplay o guarded).Reaches ((steer (m.join o)).grant guarded o) := by
  rw [beginReplay, join]
  split
  · exact ⟨0, rfl⟩
  · have ho : ((({ m with
        observers := m.observers ++ [o]
        replayDepth := m.replayDepth + 1 } : Monitor δ).note (.joined o)).push
          (.replay o (Snapshot.diff .empty m.interfaces) m.observers.isEmpty
            guarded)).isRegistered o = true := by
      simp [isRegistered, push, note]
    have hreach := reaches_replayed rfl ho
    simpa [push, note, hidle, endReplay] using hreach

/-- Visitors that only look are shown every interface. -/
theorem reaches_visited {pending : List Interface} {r : List Frame}
    (hs : m.stack = .visits pending :: r) :
    m.Reaches { m with stack := r, past := (pending.map Signal.visited).reverse ++ m.past } := by
  induction pending generalizing m with
  | nil =>
    apply reaches_proceed
    simp [proceed, hs]
  | cons i pending ih =>
    have hstep : m.proceed = some ((({ m with stack := .visits pending :: r } : Monitor δ).push
        (.visit i)).note (.visited i)) := by
      simp only [proceed, hs]
    have hshown : m.Reaches { m with
        stack := .visits pending :: r
        past := .visited i :: m.past } :=
      (reaches_proceed hstep).trans (reaches_endCall rfl rfl)
    have hrest := ih (m := { m with
      stack := .visits pending :: r
      past := .visited i :: m.past }) rfl
    simpa using hshown.trans hrest

/-! ### After the wait -/

theorem awaitFirst_eq_map (m : Monitor δ) :
    m.awaitFirst = (PollingDriver.beginWait m.driver).map fun r =>
      ({ m with driver := PollingDriver.endWait r.2 } : Monitor δ).absorb? r.1 := by
  rw [awaitFirst]
  obtain _ | ⟨_ | s, d⟩ := PollingDriver.beginWait m.driver <;> rfl

theorem stack_of_awaitFirst (h : m.awaitFirst = some m') : m'.stack = m.stack := by
  rw [awaitFirst_eq_map, Option.map_eq_some_iff] at h
  obtain ⟨r, -, rfl⟩ := h
  exact absorb?_stack _ _

/-- What is left of an operation when its wait ends. -/
theorem settle_push_await (m : Monitor δ) (next : Awaiting) :
    (m.push (.await next)).settle =
      (({ m with driver := PollingDriver.endWait m.driver } : Monitor δ).resume next).settle := by
  have hresume : (m.push (.await next)).proceed =
      some (({ m with driver := PollingDriver.endWait m.driver } : Monitor δ).resume next) := rfl
  exact (reaches_proceed hresume).settle_eq_settle

/-- An operation that waits does the rest after the wait. -/
theorem perform_of_awaiting {r : Request} {next : Awaiting} (hr : r.awaiting = some next)
    (m : Monitor δ) : m.perform r = m.awaitFirst.map fun m => (m.resume next).settle := by
  have hrequest : m.request r = m.await next := by
    cases r <;> cases hr <;> rfl
  rw [perform, hrequest, await, awaitFirst]
  cases PollingDriver.beginWait m.driver with
  | none => rfl
  | some r =>
    obtain ⟨s, d⟩ := r
    cases s with
    | none => exact congrArg some (settle_push_await { m with driver := d } next)
    | some s =>
      -- everybody is told of the snapshot before the wait ends
      have hkeep := reaches_keep s (({ m with driver := d } : Monitor δ).push (.await next))
      have hsettle := settle_push_await (({ m with driver := d } : Monitor δ).absorb s) next
      exact congrArg some (hkeep.settle_eq_settle.trans hsettle)

theorem settle_register (hidle : m.stack = []) (o : ObserverId) (guarded : Bool) :
    (m.resume (.register o guarded)).settle = (steer (m.join o)).grant guarded o := by
  apply (reaches_join hidle o guarded).settle_eq
  rw [grant_stack, steer_stack, join_stack, hidle]

/-- A registration alone: it waits, joins under the lock, and carries out what was decided. -/
theorem perform_register (hidle : m.stack = []) (o : ObserverId) :
    m.perform (.register o) = m.awaitFirst.map fun m => steer (m.join o) := by
  rw [perform_of_awaiting rfl]
  exact Option.map_congr fun n hn => settle_register ((stack_of_awaitFirst hn).trans hidle) o false

/-- A subscription alone is a registration that hands out a guard in the end. -/
theorem perform_subscribe (hidle : m.stack = []) (o : ObserverId) :
    m.perform (.subscribe o) = m.awaitFirst.map fun m => (steer (m.join o)).grant true o := by
  rw [perform_of_awaiting rfl]
  exact Option.map_congr fun n hn => settle_register ((stack_of_awaitFirst hn).trans hidle) o true

/-- A query alone is answered from what is retained after the wait. -/
theorem perform_query (hidle : m.stack = []) :
    m.perform .query = m.awaitFirst.map fun m => m.note (.answered m.interfaces) := by
  rw [perform_of_awaiting rfl]
  refine Option.map_congr fun n hn => ?_
  have hnote : (n.note (.answered n.interfaces)).stack = [] := (stack_of_awaitFirst hn).trans hidle
  exact Reaches.settle_eq ⟨0, rfl⟩ hnote

/-- A visit alone is shown what is retained after the wait, in order. -/
theorem perform_visit (hidle : m.stack = []) :
    m.perform .visit = m.awaitFirst.map fun m =>
      { m with past := (m.interfaces.values.map Signal.visited).reverse ++ m.past } := by
  rw [perform_of_awaiting rfl]
  refine Option.map_congr fun n hn => ?_
  exact (reaches_visited (m := n.push (.visits n.interfaces.values)) (r := n.stack) rfl).settle_eq
    ((stack_of_awaitFirst hn).trans hidle)

/-- An unregistration alone: the observer leaves under the lock, and what was decided is carried
out. -/
theorem perform_unregister (hidle : m.stack = []) (o : ObserverId) :
    m.perform (.unregister o) = some (steer (m.remove o)) := by
  have hend : (m.unregister o).stack = [] := by
    rw [unregister, steer_stack, remove_stack, hidle]
  have hsettle : (m.unregister o).settle = m.unregister o :=
    Reaches.settle_eq ⟨0, rfl⟩ hend
  rw [perform, request, Option.map_some, hsettle, unregister]

/-! ## Rounds of the worker -/

/-- A whole round of the driver's worker. -/
def round (m : Monitor δ) : Monitor δ :=
  match PollingDriver.beginPoll m.driver with
  | (none, driver) => { m with driver := driver }
  | (some (worker, s), driver) =>
    ({ m with driver := PollingDriver.endPoll worker driver } : Monitor δ).absorb? s

theorem settle_poll (hidle : m.stack = []) (worker : Nat) :
    (m.push (.poll worker)).settle =
      { m with driver := PollingDriver.endPoll worker m.driver } := by
  have hend : (m.push (.poll worker)).proceed =
      some { m with driver := PollingDriver.endPoll worker m.driver } := rfl
  exact (reaches_proceed hend).settle_eq hidle

/-- A round alone: what the worker takes is kept, and everybody is told before the round ends. -/
theorem perform_poll (hidle : m.stack = []) : m.perform .poll = some m.round := by
  rw [perform, request, round]
  obtain ⟨_ | ⟨worker, _ | s⟩, d⟩ := PollingDriver.beginPoll m.driver
  · -- there is no worker, or it has crashed
    have hsettle : ({ m with driver := d } : Monitor δ).settle = { m with driver := d } :=
      Reaches.settle_eq ⟨0, rfl⟩ hidle
    exact congrArg some hsettle
  · exact congrArg some (settle_poll (m := { m with driver := d }) hidle worker)
  · have hkeep := reaches_keep s (({ m with driver := d } : Monitor δ).push (.poll worker))
    have hsettle := settle_poll (m := ({ m with driver := d } : Monitor δ).absorb s) hidle worker
    exact congrArg some (hkeep.settle_eq_settle.trans hsettle)

end LinkWatch.Monitor
