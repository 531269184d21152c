import LinkWatch.Proofs.Monitor.Step

/-!
# Observers that come and go

Two kinds of steps change who is registered. A request may dismiss observers, and a registration
whose wait is over adds its observer (`Transition.observers`). Whoever is told something is
registered at this moment, however deep the calls are nested (`Transition.isRegistered_of_invoked`).

Together this is silence: an observer that was dismissed, be it in the middle of a replay to it or
of events that are handed out to it, is told nothing more until a registration has added it again
(`silent_after_dismissal`).
-/

namespace LinkWatch

/-- True when a request takes an observer off the list. -/
def Request.dismisses (o : ObserverId) : Request → Bool
  | .unregister o' => o' == o
  | .release o' => o' == o
  | .shutdown => true
  | _ => false

theorem Request.dismisses_of_awaiting {r : Request} {next : Awaiting} (h : r.awaiting = some next)
    (o : ObserverId) : r.dismisses o = false := by
  cases r <;> simp_all [awaiting, dismisses]

namespace Monitor

variable {δ : Type} {m m' : Monitor δ} {l : Label} {o : ObserverId}

/-- The operation that goes on next is a registration, and its observer is not on the list yet. -/
def Admits (m : Monitor δ) (o : ObserverId) : Prop :=
  (∃ guarded r, m.stack = .await (.register o guarded) :: r) ∧ m.isRegistered o = false

theorem isRegistered_iff : m.isRegistered o = true ↔ o ∈ m.observers := by
  simp [isRegistered]

/-! ## What changes the list of observers -/

@[simp] theorem keep?_observers (m : Monitor δ) (s : Option Snapshot) :
    (m.keep? s).observers = m.observers := by
  cases s <;> rfl

@[simp] theorem keep?_past (m : Monitor δ) (s : Option Snapshot) : (m.keep? s).past = m.past := by
  cases s <;> rfl

@[simp] theorem grant_past (m : Monitor δ) (guarded : Bool) (o : ObserverId) :
    (m.grant guarded o).past = m.past := by
  cases guarded <;> rfl

@[simp] theorem grant_observers (m : Monitor δ) (guarded : Bool) (o : ObserverId) :
    (m.grant guarded o).observers = m.observers := by
  cases guarded <;> rfl

/-- A registration adds its observer unless it is there already; nothing else that waits adds
anybody. -/
theorem resume_observers (m : Monitor δ) (next : Awaiting) :
    (m.resume next).observers = m.observers ∨
      ∃ o guarded, next = .register o guarded ∧ m.isRegistered o = false ∧
        (m.resume next).observers = m.observers ++ [o] := by
  cases next with
  | register o guarded =>
    rw [resume, beginReplay]
    split
    · exact .inl (grant_observers m guarded o)
    · next ho => exact .inr ⟨o, guarded, rfl, by simpa using ho, rfl⟩
  | query => exact .inl rfl
  | visit => exact .inl rfl

variable [PollingDriver δ]

@[simp] theorem endReplay_observers (m : Monitor δ) (o : ObserverId) (first guarded : Bool) :
    (m.endReplay o first guarded).observers = m.observers := by
  rw [endReplay, grant_observers, steer_observers, closeReplay]

@[simp] theorem unregister_observers (m : Monitor δ) (o : ObserverId) :
    (m.unregister o).observers = m.observers.filter (· != o) := by
  rw [unregister, steer_observers, remove_observers]

@[simp] theorem shutdown_observers (m : Monitor δ) : m.shutdown.observers = [] := by
  rw [shutdown, steer_observers, clear_observers]

/-- A request takes those off the list that it dismisses. -/
theorem Transition.observers_of_request {r : Request} (h : Transition m (.request r) m') :
    m'.observers = m.observers.filter fun o => !r.dismisses o := by
  -- most requests dismiss nobody
  have hkept (hr : ∀ o, r.dismisses o = false) :
      m.observers.filter (fun o => !r.dismisses o) = m.observers := by
    rw [List.filter_eq_self]
    intro o _
    rw [hr o]
    rfl
  cases h with
  | await _ hr _ =>
    rw [hkept (Request.dismisses_of_awaiting hr), keep?_observers]
    rfl
  | release _ _ | unregister _ =>
    rw [unregister_observers]
    exact List.filter_congr fun o' _ => by simp [Request.dismisses, bne, BEq.comm]
  | shutdown _ =>
    rw [shutdown_observers]
    simp [Request.dismisses]
  | deliver _ | idle _ _ => exact (hkept fun _ => rfl).symm
  | poll _ _ =>
    rw [hkept fun _ => rfl, keep?_observers]
    rfl
  | returned _ _ hl => simp at hl

/-- Other steps leave the list as it is, but for a registration that adds its observer. -/
theorem Transition.observers_of_not_request (h : Transition m l m') (hl : ∀ r, l ≠ .request r) :
    m'.observers = m.observers ∨
      ∃ o, l = .proceed ∧ m.Admits o ∧ m'.observers = m.observers ++ [o] := by
  cases h with
  | @resume next r hs =>
    rcases resume_observers { m with stack := r, driver := PollingDriver.endWait m.driver } next
      with hsame | ⟨o, guarded, rfl, ho, hadded⟩
    · exact .inl hsame
    · exact .inr ⟨o, rfl, ⟨⟨guarded, r, hs⟩, ho⟩, hadded⟩
  | replayed _ _ => exact .inl (endReplay_observers _ _ _ _)
  | await _ _ _ | release _ _ | unregister _ | shutdown _ | deliver _ | idle _ _ | poll _ _ =>
    exact absurd rfl (hl _)
  | dispatched _ | tell _ _ | skip _ _ | replay _ _ | visited _ | visit _ | polled _
  | returned _ _ _ => exact .inl rfl

/-! ## Who is registered -/

/-- Whoever is dismissed is not registered afterwards. -/
theorem Transition.isRegistered_of_dismisses {r : Request} (h : Transition m (.request r) m')
    (hr : r.dismisses o = true) : m'.isRegistered o = false := by
  rw [Bool.eq_false_iff, ne_eq, isRegistered_iff, h.observers_of_request, List.mem_filter]
  rintro ⟨-, hkept⟩
  rw [hr] at hkept
  cases hkept

/-- Nobody stops being registered but by a request that dismisses them. -/
theorem Transition.dismisses (h : Transition m l m') (ho : m.isRegistered o = true)
    (ho' : m'.isRegistered o = false) : ∃ r, l = .request r ∧ r.dismisses o = true := by
  rw [isRegistered_iff] at ho
  rw [Bool.eq_false_iff, ne_eq, isRegistered_iff] at ho'
  by_cases hl : ∀ r, l ≠ .request r
  · exfalso
    rcases h.observers_of_not_request hl with hsame | ⟨o', -, -, hadded⟩
    · exact ho' (hsame ▸ ho)
    · exact ho' (hadded ▸ List.mem_append_left _ ho)
  · obtain ⟨r, rfl⟩ : ∃ r, l = .request r := by simpa using hl
    rw [h.observers_of_request, List.mem_filter] at ho'
    exact ⟨r, rfl, by simpa [ho] using ho'⟩

/-- Nobody becomes registered but by a registration of their own. -/
theorem Transition.admits (h : Transition m l m') (ho : m.isRegistered o = false)
    (ho' : m'.isRegistered o = true) : l = .proceed ∧ m.Admits o := by
  have hold : o ∉ m.observers := by
    rw [← isRegistered_iff, ho]
    exact Bool.false_ne_true
  rw [isRegistered_iff] at ho'
  by_cases hl : ∀ r, l ≠ .request r
  · rcases h.observers_of_not_request hl with hsame | ⟨o', hproceed, hadmits, hadded⟩
    · rw [hsame] at ho'
      exact absurd ho' hold
    · rw [hadded, List.mem_append, List.mem_singleton] at ho'
      rcases ho' with hmem | rfl
      · exact absurd hmem hold
      · exact ⟨hproceed, hadmits⟩
  · obtain ⟨r, rfl⟩ : ∃ r, l = .request r := by simpa using hl
    rw [h.observers_of_request, List.mem_filter] at ho'
    exact absurd ho'.1 hold

/-- Between two moments of a run, of which an observer is registered at the second alone, there is
one at which a registration is about to add it. -/
theorem exists_admits {ls : List Label} (h : m.run ls = some m') (ho : m.isRegistered o = false)
    (ho' : m'.isRegistered o = true) :
    ∃ earlier later n, ls = earlier ++ .proceed :: later ∧ m.run earlier = some n ∧ n.Admits o := by
  induction ls generalizing m with
  | nil =>
    cases h
    rw [ho] at ho'
    cases ho'
  | cons l ls ih =>
    obtain ⟨m₁, h₁, hrun⟩ := Option.bind_eq_some_iff.1 h
    cases ho₁ : m₁.isRegistered o with
    | true =>
      -- the first step is where the observer is added
      obtain ⟨rfl, hadmits⟩ := (Transition.of_step h₁).admits ho ho₁
      exact ⟨[], ls, m, rfl, rfl, hadmits⟩
    | false =>
      obtain ⟨earlier, later, n, rfl, hn, hadmits⟩ := ih hrun ho₁
      exact ⟨l :: earlier, later, n, rfl, Option.bind_eq_some_iff.2 ⟨m₁, h₁, hn⟩, hadmits⟩

/-! ## Who is told something -/

/-- What is seen in a step comes on top of what was seen before, and whoever is told something in it
is registered. -/
theorem Transition.past (h : Transition m l m') :
    ∃ p, m'.past = p ++ m.past ∧ ∀ o e, .invoked o e ∈ p → m.isRegistered o = true := by
  -- calls of the driver and observers that leave are no calls of observers
  have hsteer {c : Option DriverCall × Monitor δ} {p : List Signal} (hc : c.2.past = p ++ m.past)
      (hp : ∀ o e, Signal.invoked o e ∉ p) :
      ∃ p, (steer c).past = p ++ m.past ∧ ∀ o e, .invoked o e ∈ p → m.isRegistered o = true := by
    obtain ⟨calls, hpast, hcalls⟩ := steer_past c
    refine ⟨calls ++ p, by rw [hpast, hc, List.append_assoc], fun o e he => ?_⟩
    rcases List.mem_append.1 he with hcall | hleft
    · exact absurd (hcalls _ hcall) (by simp [Signal.isDriverCall])
    · exact absurd hleft (hp o e)
  have hremove {n : Monitor δ} (hn : n.past = m.past) (o : ObserverId) :
      ∃ p, (n.unregister o).past = p ++ m.past ∧
        ∀ o e, .invoked o e ∈ p → m.isRegistered o = true := by
    have hpast := remove_past n o
    rw [hn] at hpast
    split at hpast
    · exact hsteer (p := [.left o]) hpast (by simp)
    · exact hsteer (p := []) hpast (by simp)
  cases h with
  | await _ _ _ | poll _ _ => exact ⟨[], keep?_past _ _, by simp⟩
  | @release o _ _ => exact hremove (n := { m with guards := m.guards.erase o }) rfl o
  | unregister _ => exact hremove rfl _
  | shutdown _ => exact hsteer (clear_past m) (by simp)
  | @resume next r hs =>
    cases next with
    | register o guarded =>
      rw [Monitor.resume, beginReplay]
      split
      · exact ⟨[], grant_past _ _ _, by simp⟩
      · exact ⟨[.joined o], rfl, by simp⟩
    | query => exact ⟨[_], rfl, by simp⟩
    | visit => exact ⟨[], rfl, by simp⟩
  | @tell e o p r _ ho | @replay o e p _ _ r _ ho =>
    refine ⟨[.invoked o e], rfl, fun o' e' he => ?_⟩
    cases List.mem_singleton.1 he
    exact ho
  | replayed _ _ =>
    rw [endReplay, grant_past]
    exact hsteer (p := []) rfl (by simp)
  | visit _ => exact ⟨[_], rfl, by simp⟩
  | deliver _ | idle _ _ | dispatched _ | skip _ _ | visited _ | polled _ | returned _ _ _ =>
    exact ⟨[], rfl, by simp⟩

theorem Transition.isRegistered_of_invoked {e : Event} (h : Transition m l m')
    (he : m'.past = .invoked o e :: m.past) : m.isRegistered o = true := by
  obtain ⟨p, hpast, hp⟩ := h.past
  rw [he] at hpast
  have hone : p = [.invoked o e] := List.append_cancel_right hpast.symm
  exact hp o e (hone ▸ List.mem_singleton_self _)

/-- A request that dismisses observers has returned when it was made, and the operations under way
are those from before. -/
theorem Transition.stack_of_dismisses {r : Request} (h : Transition m (.request r) m')
    (hr : r.dismisses o = true) : m'.stack = m.stack := by
  cases h with
  | await _ hwait _ => simp [Request.dismisses_of_awaiting hwait] at hr
  | release _ _ | unregister _ => rw [Monitor.unregister, steer_stack, remove_stack]
  | shutdown _ => rw [Monitor.shutdown, steer_stack, clear_stack]
  | deliver _ | idle _ _ | poll _ _ => cases hr
  | returned _ _ hl => simp at hl

/-! ## Main result -/

/-- A request that dismisses an observer has returned when it was made. The operations under way go
on, and may be in the middle of telling this observer something. But whatever they and later ones
do, nested as they may be, the observer is told something only after a registration of it has come
to the point of adding it again. -/
theorem silent_after_dismissal {r : Request} (hr : r.dismisses o = true)
    (hstep : m.step (.request r) = some m') :
    m'.stack = m.stack ∧
      ∀ ls n l n' e, m'.run ls = some n → n.step l = some n' → n'.past = .invoked o e :: n.past →
        ∃ earlier later k, ls = earlier ++ .proceed :: later ∧ m'.run earlier = some k ∧
          k.Admits o := by
  have hdismissed := Transition.of_step hstep
  refine ⟨hdismissed.stack_of_dismisses hr, fun ls n l n' e hrun htell he => ?_⟩
  have hgone := hdismissed.isRegistered_of_dismisses hr
  have hback := (Transition.of_step htell).isRegistered_of_invoked he
  exact exists_admits hrun hgone hback

/-- Steps in which an observer joins, two interfaces come, and the observer is told of the first. -/
def halfToldLabels : List Label :=
  [.request (.register 0), .proceed, .proceed,
    .request (.deliver ((Keyed.empty.insert "eth0" (.new "eth0" .ethernet)).insert "lo"
      (.new "lo" .loopback))), .proceed]

/-- Steps in which the call returns, the second interface is passed over, and the observer joins
again. -/
def returningLabels : List Label :=
  [.finish, .proceed, .proceed, .request (.register 0), .proceed]

theorem silent_after_dismissal_shutdown :
    ∃ m m' n n', (new (ManualDriver.new none)).run halfToldLabels = some m ∧
      Request.shutdown.dismisses 0 = true ∧ m.step (.request .shutdown) = some m' ∧
      m'.run returningLabels = some n ∧ n.step .proceed = some n' ∧
      n'.past = .invoked 0 (.added (.new "eth0" .ethernet)) :: n.past ∧
      m'.stack = m.stack ∧
      ∃ earlier later k, returningLabels = earlier ++ .proceed :: later ∧
        m'.run earlier = some k ∧ k.Admits 0 := by
  obtain ⟨m, m', n, n', hrun, hstep, hback, htell, htold⟩ :
      ∃ m m' n n', (new (ManualDriver.new none)).run halfToldLabels = some m ∧
        m.step (.request .shutdown) = some m' ∧ m'.run returningLabels = some n ∧
        n.step .proceed = some n' ∧
        n'.past = .invoked 0 (.added (.new "eth0" .ethernet)) :: n.past :=
    ⟨_, _, _, _, rfl, rfl, rfl, rfl, rfl⟩
  obtain ⟨hstack, hsilent⟩ := silent_after_dismissal (o := 0) rfl hstep
  exact ⟨m, m', n, n', hrun, rfl, hstep, hback, htell, htold, hstack,
    hsilent _ _ _ _ _ hback htell htold⟩

end Monitor
end LinkWatch
