import LinkWatch.Monitor.Basic

/-!
# What a step of a monitor can do

`Transition` lists the steps of a monitor, one constructor for each thing that an operation can do
when it begins, goes on or ends, with the guard that it is done under. Invariants are proved by
cases on it (`Transition.of_step`) and carried along whole runs by `run_induction`.
-/

namespace LinkWatch

/-- What a request waits for before it goes on, if it begins with a wait. -/
def Request.awaiting : Request → Option Awaiting
  | .register o => some (.register o false)
  | .subscribe o => some (.register o true)
  | .query => some .query
  | .visit => some .visit
  | _ => none

/-- True for a call of the driver. -/
def Signal.isDriverCall : Signal → Bool
  | .started => true
  | .stopped _ => true
  | _ => false

namespace Monitor

variable {δ : Type}

/-! ## What decisions about the driver leave alone -/

section Decisions

variable (m : Monitor δ) (o : ObserverId)

/-- A stop of the driver may be put off, and nothing else changes. -/
theorem releaseDriver_snd (emptied : Bool) :
    (m.releaseDriver emptied).2 = m ∨
      (m.releaseDriver emptied).2 = { m with stopPending := true } := by
  rw [releaseDriver]
  split
  · exact .inl rfl
  · split
    · exact .inr rfl
    · exact .inl rfl

/-- A decision about the driver leaves the snapshot as it is. -/
@[simp] theorem releaseDriver_interfaces (emptied : Bool) :
    (m.releaseDriver emptied).2.interfaces = m.interfaces := by
  rcases m.releaseDriver_snd emptied with h | h <;> rw [h]

/-- A decision about the driver leaves the list of observers as it is. -/
@[simp] theorem releaseDriver_observers (emptied : Bool) :
    (m.releaseDriver emptied).2.observers = m.observers := by
  rcases m.releaseDriver_snd emptied with h | h <;> rw [h]

@[simp] theorem releaseDriver_stack (emptied : Bool) :
    (m.releaseDriver emptied).2.stack = m.stack := by
  rcases m.releaseDriver_snd emptied with h | h <;> rw [h]

/-- Nothing is seen of a decision about the driver until it is carried out. -/
@[simp] theorem releaseDriver_past (emptied : Bool) :
    (m.releaseDriver emptied).2.past = m.past := by
  rcases m.releaseDriver_snd emptied with h | h <;> rw [h]

@[simp] theorem remove_interfaces : (m.remove o).2.interfaces = m.interfaces := by
  rw [remove]
  split
  · rw [releaseDriver_interfaces]
    rfl
  · rfl

@[simp] theorem remove_stack : (m.remove o).2.stack = m.stack := by
  rw [remove]
  split
  · rw [releaseDriver_stack]
    rfl
  · rfl

/-- All other observers stay, in their order. -/
@[simp] theorem remove_observers : (m.remove o).2.observers = m.observers.filter (· != o) := by
  rw [remove]
  split
  · rw [releaseDriver_observers]
    rfl
  · next ho =>
    -- the observer is not in the list, so that nobody is filtered out
    symm
    rw [List.filter_eq_self]
    intro o' ho'
    have hne : o' ≠ o := by
      intro heq
      subst heq
      exact ho (by simpa [isRegistered] using ho')
    simpa using hne

/-- An observer is seen to leave if it was registered. -/
theorem remove_past :
    (m.remove o).2.past = if m.isRegistered o then .left o :: m.past else m.past := by
  rw [remove]
  split
  · rw [releaseDriver_past]
    rfl
  · rfl

@[simp] theorem clear_interfaces : m.clear.2.interfaces = m.interfaces :=
  releaseDriver_interfaces _ _

@[simp] theorem clear_stack : m.clear.2.stack = m.stack := releaseDriver_stack _ _

@[simp] theorem clear_observers : m.clear.2.observers = [] := releaseDriver_observers _ _

/-- All observers are seen to leave, in the order of their registration. -/
theorem clear_past : m.clear.2.past = (m.observers.map Signal.left).reverse ++ m.past :=
  releaseDriver_past _ _

@[simp] theorem grant_interfaces (guarded : Bool) :
    (m.grant guarded o).interfaces = m.interfaces := by
  cases guarded <;> rfl

@[simp] theorem grant_stack (guarded : Bool) :
    (m.grant guarded o).stack = m.stack := by
  cases guarded <;> rfl

end Decisions

variable [PollingDriver δ]

section Steer

variable (c : Option DriverCall × Monitor δ)

/-- Carrying out a decision about the driver touches the driver and the past only. -/
@[simp] theorem steer_interfaces : (steer c).interfaces = c.2.interfaces := by
  obtain ⟨_ | _ | _, m⟩ := c <;> rfl

@[simp] theorem steer_observers : (steer c).observers = c.2.observers := by
  obtain ⟨_ | _ | _, m⟩ := c <;> rfl

@[simp] theorem steer_stack : (steer c).stack = c.2.stack := by
  obtain ⟨_ | _ | _, m⟩ := c <;> rfl

/-- Of what can be seen, at most a call of the driver is new. -/
theorem steer_past : ∃ p, (steer c).past = p ++ c.2.past ∧ ∀ s ∈ p, s.isDriverCall = true := by
  obtain ⟨_ | _ | _, m⟩ := c
  · exact ⟨[], rfl, by simp⟩
  · exact ⟨[.started], rfl, by simp [Signal.isDriverCall]⟩
  · exact ⟨[.stopped m.replayDepth], rfl, by simp [Signal.isDriverCall]⟩

/-- The end of a replay leaves the snapshot as it is. -/
@[simp] theorem endReplay_interfaces (m : Monitor δ) (o : ObserverId) (first guarded : Bool) :
    (m.endReplay o first guarded).interfaces = m.interfaces := by
  rw [endReplay, grant_interfaces, steer_interfaces, closeReplay]

/-- The end of a replay puts no operation on the stack. -/
@[simp] theorem endReplay_stack (m : Monitor δ) (o : ObserverId) (first guarded : Bool) :
    (m.endReplay o first guarded).stack = m.stack := by
  rw [endReplay, grant_stack, steer_stack, closeReplay]

end Steer

/-! ## Transitions -/

/-- A step, by the operation that begins, goes on or ends. -/
inductive Transition (m : Monitor δ) : Label → Monitor δ → Prop
  /-- A request begins to wait, and the driver hands over a first snapshot if it has one. -/
  | await {r : Request} {next : Awaiting} {s : Option Snapshot} {d : δ} (hopen : m.isOpen = true)
      (hr : r.awaiting = some next) (hd : PollingDriver.beginWait m.driver = some (s, d)) :
      Transition m (.request r) (({ m with driver := d }.push (.await next)).keep? s)
  | release {o : ObserverId} (hopen : m.isOpen = true) (ho : o ∈ m.guards) :
      Transition m (.request (.release o)) ({ m with guards := m.guards.erase o }.unregister o)
  | unregister {o : ObserverId} (hopen : m.isOpen = true) :
      Transition m (.request (.unregister o)) (m.unregister o)
  | shutdown (hopen : m.isOpen = true) : Transition m (.request .shutdown) m.shutdown
  | deliver {s : Snapshot} (hopen : m.isOpen = true) :
      Transition m (.request (.deliver s)) (m.keep s)
  /-- No worker is there to make a round, or it crashes in its fetch. -/
  | idle {d : δ} (hopen : m.isOpen = true) (hd : PollingDriver.beginPoll m.driver = (none, d)) :
      Transition m (.request .poll) { m with driver := d }
  | poll {n : Nat} {s : Option Snapshot} {d : δ} (hopen : m.isOpen = true)
      (hd : PollingDriver.beginPoll m.driver = (some (n, s), d)) :
      Transition m (.request .poll) (({ m with driver := d }.push (.poll n)).keep? s)
  | resume {next : Awaiting} {r : List Frame} (hs : m.stack = .await next :: r) :
      Transition m .proceed
        ({ m with stack := r, driver := PollingDriver.endWait m.driver }.resume next)
  | dispatched {r : List Frame} (hs : m.stack = .dispatch [] :: r) :
      Transition m .proceed { m with stack := r }
  | tell {e : Event} {o : ObserverId} {p : List (Event × ObserverId)} {r : List Frame}
      (hs : m.stack = .dispatch ((e, o) :: p) :: r) (ho : m.isRegistered o = true) :
      Transition m .proceed
        (({ m with stack := .dispatch p :: r }.push (.callback o e)).note (.invoked o e))
  /-- An observer that has left is passed over. -/
  | skip {e : Event} {o : ObserverId} {p : List (Event × ObserverId)} {r : List Frame}
      (hs : m.stack = .dispatch ((e, o) :: p) :: r) (ho : m.isRegistered o = false) :
      Transition m .proceed { m with stack := .dispatch p :: r }
  | replay {o : ObserverId} {e : Event} {p : List Event} {first guarded : Bool} {r : List Frame}
      (hs : m.stack = .replay o (e :: p) first guarded :: r) (ho : m.isRegistered o = true) :
      Transition m .proceed
        (({ m with stack := .replay o p first guarded :: r }.push (.callback o e)).note
          (.invoked o e))
  /-- A replay ends when nothing is left to tell, or when its observer has left. -/
  | replayed {o : ObserverId} {p : List Event} {first guarded : Bool} {r : List Frame}
      (hs : m.stack = .replay o p first guarded :: r) (ho : p = [] ∨ m.isRegistered o = false) :
      Transition m .proceed ({ m with stack := r }.endReplay o first guarded)
  | visited {r : List Frame} (hs : m.stack = .visits [] :: r) :
      Transition m .proceed { m with stack := r }
  | visit {i : Interface} {p : List Interface} {r : List Frame}
      (hs : m.stack = .visits (i :: p) :: r) :
      Transition m .proceed (({ m with stack := .visits p :: r }.push (.visit i)).note (.visited i))
  | polled {n : Nat} {r : List Frame} (hs : m.stack = .poll n :: r) :
      Transition m .proceed { m with stack := r, driver := PollingDriver.endPoll n m.driver }
  /-- A call returns or fails. -/
  | returned {l : Label} {f : Frame} {r : List Frame} (hs : m.stack = f :: r)
      (hf : f.isCall = true) (hl : l = .finish ∨ l = .panic) : Transition m l { m with stack := r }

/-- A request that waits for the first snapshot is one of the transitions. -/
theorem Transition.of_await {m m' : Monitor δ} {r : Request} {next : Awaiting}
    (hopen : m.isOpen = true) (hr : r.awaiting = some next) (h : m.await next = some m') :
    Transition m (.request r) m' := by
  rw [Monitor.await] at h
  split at h
  · cases h
  · next s d hd =>
    cases h
    exact .await hopen hr hd

/-- Every request that begins is one of the transitions. -/
theorem Transition.of_request {m m' : Monitor δ} {r : Request} (hopen : m.isOpen = true)
    (h : m.request r = some m') : Transition m (.request r) m' := by
  cases r with
  -- these four wait for the first snapshot, and differ in what comes after it
  | register o => exact .of_await hopen rfl h
  | subscribe o => exact .of_await hopen rfl h
  | query => exact .of_await hopen rfl h
  | visit => exact .of_await hopen rfl h
  | release o =>
    simp only [request] at h
    split at h
    · next ho =>
      cases h
      exact .release hopen (by simpa using ho)
    · cases h
  | unregister o =>
    cases h
    exact .unregister hopen
  | shutdown =>
    cases h
    exact .shutdown hopen
  | deliver s =>
    cases h
    exact .deliver hopen
  | poll =>
    -- a round needs a worker, and one that does not crash in it
    simp only [request] at h
    split at h
    · next d hd =>
      cases h
      exact .idle hopen hd
    · next n s d hd =>
      cases h
      exact .poll hopen hd

/-- When the monitor goes on by itself, that is one of the transitions. -/
theorem Transition.of_proceed {m m' : Monitor δ} (h : m.proceed = some m') :
    Transition m .proceed m' := by
  rw [proceed] at h
  split at h
  · next hs =>
    cases h
    exact .resume hs
  · next hs =>
    cases h
    exact .dispatched hs
  · next e o p r hs =>
    -- whether the observer is still there is asked after its pair was taken off
    cases h
    by_cases ho : m.isRegistered o = true
    · have htell : ({ m with stack := .dispatch p :: r } : Monitor δ).isRegistered o = true := ho
      rw [if_pos htell]
      exact .tell hs ho
    · have hskip : ¬ ({ m with stack := .dispatch p :: r } : Monitor δ).isRegistered o = true := ho
      rw [if_neg hskip]
      exact .skip hs (by simpa using ho)
  · next hs =>
    cases h
    exact .replayed hs (.inl rfl)
  · next hs =>
    -- a replay is cut off when its observer has left
    split at h
    · next ho =>
      cases h
      exact .replay hs ho
    · next ho =>
      cases h
      exact .replayed hs (.inr (by simpa using ho))
  · next hs =>
    cases h
    exact .visited hs
  · next hs =>
    cases h
    exact .visit hs
  · next hs =>
    cases h
    exact .polled hs
  · cases h

/-- A call that returns or fails is one of the transitions. -/
theorem Transition.of_endCall {m m' : Monitor δ} {l : Label} (hl : l = .finish ∨ l = .panic)
    (h : m.endCall = some m') : Transition m l m' := by
  rw [endCall] at h
  split at h
  · next hs =>
    cases h
    exact .returned hs rfl hl
  · next hs =>
    cases h
    exact .returned hs rfl hl
  · cases h

/-- Every step is one of the transitions. -/
theorem Transition.of_step {m m' : Monitor δ} {l : Label} (h : m.step l = some m') :
    Transition m l m' := by
  cases l with
  | request r =>
    simp only [step] at h
    split at h
    · next hopen => exact .of_request hopen h
    · cases h
  | finish => exact .of_endCall (.inl rfl) h
  | panic => exact .of_endCall (.inr rfl) h
  | proceed => exact .of_proceed h

/-! ## Runs -/

/-- Every step of a run is taken from a state and with a label that go together. -/
def Along (Q : Monitor δ → Label → Prop) (m : Monitor δ) : List Label → Prop
  | [] => True
  | l :: r => Q m l ∧ ∀ m' ∈ m.step l, m'.Along Q r

instance Along.decidable {Q : Monitor δ → Label → Prop} [∀ m l, Decidable (Q m l)]
    (m : Monitor δ) : (ls : List Label) → Decidable (m.Along Q ls)
  | [] => isTrue trivial
  | l :: r =>
    have : ∀ m' : Monitor δ, Decidable (m'.Along Q r) := fun m' => Along.decidable m' r
    inferInstanceAs (Decidable (Q m l ∧ ∀ m' ∈ m.step l, m'.Along Q r))

/-- What every step that is allowed keeps holds after every run of such steps. -/
theorem run_induction_along {P : Monitor δ → Prop} {Q : Monitor δ → Label → Prop}
    (hstep : ∀ m l m', P m → Q m l → m.step l = some m' → P m') {m m' : Monitor δ}
    {ls : List Label} (h0 : P m) (hq : m.Along Q ls) (h : m.run ls = some m') : P m' := by
  -- on the steps that are still to come, for every state that they may start from
  induction ls generalizing m with
  | nil =>
    cases h
    exact h0
  | cons l r ih =>
    rw [run, Option.bind_eq_some_iff] at h
    obtain ⟨m1, h1, hr⟩ := h
    obtain ⟨hl, hq'⟩ := hq
    exact ih (hstep m l m1 h0 hl h1) (hq' m1 h1) hr

/-- What holds of every step holds along every run. -/
theorem along_of_forall {Q : Monitor δ → Label → Prop} (h : ∀ m l, Q m l) (m : Monitor δ)
    (ls : List Label) : m.Along Q ls := by
  induction ls generalizing m with
  | nil => trivial
  | cons l r ih => exact ⟨h m l, fun m' _ => ih m'⟩

/-- A run can be cut into two anywhere. -/
theorem run_append (m : Monitor δ) (ls ls' : List Label) :
    m.run (ls ++ ls') = (m.run ls).bind fun m => m.run ls' := by
  induction ls generalizing m with
  | nil => rfl
  | cons l r ih =>
    rw [List.cons_append, run, run, Option.bind_assoc]
    exact Option.bind_congr fun n _ => ih n

/-- Where a run is cut in two, both parts are taken from states and with labels that go together. -/
theorem Along.of_append {Q : Monitor δ → Label → Prop} {m : Monitor δ} {ls ls' : List Label}
    (h : m.Along Q (ls ++ ls')) : m.Along Q ls ∧ ∀ m' ∈ m.run ls, m'.Along Q ls' := by
  induction ls generalizing m with
  | nil =>
    refine ⟨trivial, fun m' hm' => ?_⟩
    cases hm'
    exact h
  | cons l r ih =>
    obtain ⟨hl, hrest⟩ := h
    refine ⟨⟨hl, fun m' hm' => (ih (hrest m' hm')).1⟩, fun m' hm' => ?_⟩
    obtain ⟨m1, h1, hr⟩ := Option.bind_eq_some_iff.1 hm'
    exact (ih (hrest m1 h1)).2 m' hr

/-- Two conditions along a run are one. -/
theorem Along.and {Q Q' : Monitor δ → Label → Prop} {m : Monitor δ} {ls : List Label}
    (h : m.Along Q ls) (h' : m.Along Q' ls) : m.Along (fun n l => Q n l ∧ Q' n l) ls := by
  induction ls generalizing m with
  | nil => trivial
  | cons l r ih => exact ⟨⟨h.1, h'.1⟩, fun m' hm' => ih (h.2 m' hm') (h'.2 m' hm')⟩

theorem Along.imp {Q Q' : Monitor δ → Label → Prop} (hQ : ∀ n l, Q n l → Q' n l) {m : Monitor δ}
    {ls : List Label} (h : m.Along Q ls) : m.Along Q' ls := by
  induction ls generalizing m with
  | nil => trivial
  | cons l r ih => exact ⟨hQ m l h.1, fun m' hm' => ih (h.2 m' hm')⟩

/-- What every step keeps holds after every run. -/
theorem run_induction {P : Monitor δ → Prop}
    (hstep : ∀ m l m', P m → m.step l = some m' → P m') {m m' : Monitor δ} {ls : List Label}
    (h0 : P m) (h : m.run ls = some m') : P m' :=
  run_induction_along (Q := fun _ _ => True) (fun m l m' hm _ => hstep m l m' hm) h0
    (along_of_forall (fun _ _ => trivial) m ls) h

end Monitor
end LinkWatch
