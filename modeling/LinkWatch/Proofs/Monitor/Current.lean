import LinkWatch.Proofs.Difference.Content
import LinkWatch.Proofs.Monitor.Mirror

/-!
# Events and the snapshot of the moment

An operation that tells events works off a list that was made when it began. An observer that is
told something may cause another snapshot to be handed over before it returns. This snapshot is
retained and its own events are told at once; then the rest of the first list is told as it stands.

So an event agrees with the snapshot that was retained when its operation began, and with the one
that is retained when it is told only if the same is still there under its id
(`told_agrees_with_beginning`). In between, other snapshots come from inside the operation alone:
`Begun` gives the step that began it, and says that it has been under way ever since.
-/

namespace LinkWatch

/-- A snapshot holds what the event says: the record that it carries, or nothing under the id of an
interface that went. -/
def Event.CurrentIn (e : Event) (s : Snapshot) : Prop := s.get? e.interface.id = e.after

instance (e : Event) (s : Snapshot) : Decidable (e.CurrentIn s) :=
  inferInstanceAs (Decidable (s.get? e.interface.id = e.after))

/-- Where an event agrees with one snapshot, only what stands under its id counts for another. -/
theorem Event.CurrentIn.currentIn_iff {e : Event} {s t : Snapshot} (h : e.CurrentIn s) :
    e.CurrentIn t ↔ t.get? e.interface.id = s.get? e.interface.id := by
  have hs : s.get? e.interface.id = e.after := h
  rw [hs, CurrentIn]

/-- The events between two snapshots agree with the second. -/
theorem Snapshot.currentIn_of_mem_diff {p s : Snapshot} (hp : p.IsKeyed) (hs : s.IsKeyed)
    {e : Event} (he : e ∈ diff p s) : e.CurrentIn s := by
  cases mem_diff.1 he with
  | @removed k old hold hnone =>
    rw [← hp k old hold] at hnone
    exact hnone
  | @added k new _ hnew =>
    have hid := hs k new hnew
    rw [← hid] at hnew
    exact hnew
  | @changed k old new f _ hnew _ =>
    have hid := hs k new hnew
    rw [← hid] at hnew
    exact hnew

/-! ## What is still to be told -/

/-- The events that an operation has still to tell, to whomever it may be. -/
def Frame.pendingEvents : Frame → List Event
  | .dispatch pending => pending.map (·.1)
  | .replay _ pending _ _ => pending
  | _ => []

/-- In a stack, the operation right above some others has still to tell an event. -/
def PendingAbove (r : List Frame) (e : Event) (s : List Frame) : Prop :=
  ∃ f, f :: r <:+ s ∧ e ∈ f.pendingEvents

namespace PendingAbove

variable {r s : List Frame} {e : Event} {f g : Frame}

/-- An event waits in the topmost operation or in one below it. -/
theorem cons_iff :
    PendingAbove r e (f :: s) ↔ r = s ∧ e ∈ f.pendingEvents ∨ PendingAbove r e s := by
  constructor
  · rintro ⟨g, hsuffix, he⟩
    rcases List.suffix_cons_iff.1 hsuffix with heq | hrest
    · obtain ⟨rfl, rfl⟩ := List.cons.inj heq
      exact .inl ⟨rfl, he⟩
    · exact .inr ⟨g, hrest, he⟩
  · rintro (⟨rfl, he⟩ | ⟨g, hsuffix, he⟩)
    · exact ⟨f, List.suffix_rfl, he⟩
    · exact ⟨g, hsuffix.trans (List.suffix_cons f s), he⟩

/-- An event that waits goes on waiting below new operations. -/
theorem cons (h : PendingAbove r e s) (f : Frame) : PendingAbove r e (f :: s) :=
  cons_iff.2 (.inr h)

/-- An event does not wait in an operation without events. -/
theorem of_cons (h : PendingAbove r e (f :: s)) (hf : f.pendingEvents = []) :
    PendingAbove r e s := by
  rcases cons_iff.1 h with ⟨-, he⟩ | hrest
  · rw [hf] at he
    cases he
  · exact hrest

/-- The topmost operation has told something. -/
theorem of_advance (h : PendingAbove r e (g :: s)) (hg : g.pendingEvents ⊆ f.pendingEvents) :
    PendingAbove r e (f :: s) := by
  rcases cons_iff.1 h with ⟨rfl, he⟩ | hrest
  · exact cons_iff.2 (.inl ⟨rfl, hg he⟩)
  · exact hrest.cons f

end PendingAbove

namespace Monitor

variable {δ : Type} {r : List Frame} {e : Event}

/-- An operation begins that will tell an event. -/
inductive Begins (m m' : Monitor δ) (r : List Frame) (e : Event) : Prop
  /-- A snapshot has come, and what it changes is handed out. -/
  | dispatch (hs : m'.stack = .dispatch ((Snapshot.diff m.interfaces m'.interfaces).flatMap
        fun e => m'.observers.map fun o => (e, o)) :: r)
      (he : e ∈ Snapshot.diff m.interfaces m'.interfaces)
  /-- An observer has joined and is told what is known. -/
  | replay {o : ObserverId} {first guarded : Bool}
      (hs : m'.stack = .replay o (Snapshot.diff .empty m'.interfaces) first guarded :: r)
      (he : e ∈ Snapshot.diff .empty m'.interfaces)

/-- An event is current where it begins to wait. -/
theorem Begins.currentIn {m m' : Monitor δ} (h : Begins m m' r e) (hm : m.interfaces.IsKeyed)
    (hm' : m'.interfaces.IsKeyed) : e.CurrentIn m'.interfaces := by
  cases h with
  | dispatch _ he => exact Snapshot.currentIn_of_mem_diff hm hm' he
  | replay _ he => exact Snapshot.currentIn_of_mem_diff Snapshot.isKeyed_empty hm' he

/-! ### Where it comes from -/

/-- After a snapshot was kept, an event was waiting before or begins to wait with it. -/
theorem pendingAbove_keep? (m₀ : Monitor δ) {m : Monitor δ} {s : Option Snapshot}
    (h : PendingAbove r e (m.keep? s).stack) (hm : m.interfaces = m₀.interfaces) :
    PendingAbove r e m.stack ∨ Begins m₀ (m.keep? s) r e := by
  cases s with
  | none => exact .inl h
  | some s =>
    rcases PendingAbove.cons_iff.1 h with ⟨rfl, he⟩ | hrest
    · -- it is one of the pairs that are to be handed out, and so an event of the difference
      right
      obtain ⟨⟨e', o⟩, hmem, rfl⟩ := List.mem_map.1 he
      obtain ⟨e, hdiff, ho⟩ := List.mem_flatMap.1 hmem
      obtain ⟨o', -, heq⟩ := List.mem_map.1 ho
      cases heq
      rw [hm] at hdiff
      exact .dispatch (by rw [← hm]; rfl) hdiff
    · exact .inl hrest

/-- When an operation goes on after its wait, an event was waiting before or begins to wait with it.
-/
theorem pendingAbove_resume {m m₀ : Monitor δ} {next : Awaiting}
    (h : PendingAbove r e (m.resume next).stack) :
    PendingAbove r e m.stack ∨ Begins m₀ (m.resume next) r e := by
  cases next with
  | register o guarded =>
    rw [resume, beginReplay] at h ⊢
    split at h
    · -- an observer that is there already is told nothing
      rw [grant_stack] at h
      exact .inl h
    · next ho =>
      rw [if_neg ho]
      rcases PendingAbove.cons_iff.1 h with ⟨rfl, he⟩ | hrest
      · exact .inr (.replay rfl he)
      · exact .inl hrest
  | query => exact .inl h
  | visit => exact .inl (h.of_cons rfl)

variable [PollingDriver δ] {m m' : Monitor δ} {l : Label}

/-- What is to be told after a step was to be told before it, or else an operation has begun that
will tell it. -/
theorem Transition.pendingAbove (h : Transition m l m') (he : PendingAbove r e m'.stack) :
    PendingAbove r e m.stack ∨ Begins m m' r e := by
  cases h with
  | await _ _ _ =>
    rcases pendingAbove_keep? m he rfl with hrest | hbegins
    · exact .inl (hrest.of_cons rfl)
    · exact .inr hbegins
  | release _ _ =>
    rw [Monitor.unregister, steer_stack, remove_stack] at he
    exact .inl he
  | unregister _ =>
    rw [Monitor.unregister, steer_stack, remove_stack] at he
    exact .inl he
  | shutdown _ =>
    rw [Monitor.shutdown, steer_stack, clear_stack] at he
    exact .inl he
  | @deliver s _ => exact pendingAbove_keep? m (s := some s) he rfl
  | idle _ _ => exact .inl he
  | poll _ _ =>
    rcases pendingAbove_keep? m he rfl with hrest | hbegins
    · exact .inl (hrest.of_cons rfl)
    · exact .inr hbegins
  | resume hs =>
    rw [hs]
    exact (pendingAbove_resume he).imp_left fun hrest => hrest.cons _
  -- an operation has one event fewer to tell than before
  | tell hs _ =>
    rw [hs]
    have hrest := he.of_cons rfl
    exact .inl (hrest.of_advance (List.subset_cons_self _ _))
  | skip hs _ =>
    rw [hs]
    exact .inl (he.of_advance (List.subset_cons_self _ _))
  | replay hs _ =>
    rw [hs]
    have hrest := he.of_cons rfl
    exact .inl (hrest.of_advance (List.subset_cons_self _ _))
  | visit hs =>
    rw [hs]
    have hrest := he.of_cons rfl
    exact .inl ((hrest.of_cons rfl).cons _)
  | replayed hs _ =>
    rw [endReplay_stack] at he
    rw [hs]
    exact .inl (he.cons _)
  | dispatched hs | visited hs | polled hs | returned hs _ _ =>
    rw [hs]
    exact .inl (he.cons _)

/-! ## What a step tells and what it retains -/

/-- Who was told what so far, the latest first. -/
def told (m : Monitor δ) : List (ObserverId × Event) :=
  m.past.filterMap fun
    | .invoked o e => some (o, e)
    | _ => none

omit [PollingDriver δ] in
/-- Keeping a snapshot tells nobody anything by itself. -/
theorem told_keep? (m : Monitor δ) (s : Option Snapshot) : (m.keep? s).told = m.told := by
  cases s <;> rfl

/-- Observers are not told what becomes of the driver. -/
theorem told_steer (c : Option DriverCall × Monitor δ) : (steer c).told = c.2.told := by
  obtain ⟨_ | _ | _, m⟩ := c <;> rfl

/-- Nobody is told anything when an observer leaves. -/
theorem told_unregister (m : Monitor δ) (o : ObserverId) : (m.unregister o).told = m.told := by
  rw [unregister, told_steer, told, remove_past]
  split <;> rfl

theorem told_shutdown (m : Monitor δ) : m.shutdown.told = m.told := by
  rw [shutdown, told_steer, told, clear_past, List.filterMap_append, told]
  simp

omit [PollingDriver δ] in
theorem told_grant (m : Monitor δ) (guarded : Bool) (o : ObserverId) :
    (m.grant guarded o).told = m.told := by
  cases guarded <;> rfl

omit [PollingDriver δ] in
/-- Nobody is told anything at the moment an operation goes on. -/
theorem told_resume (m : Monitor δ) (next : Awaiting) : (m.resume next).told = m.told := by
  cases next with
  | register o guarded =>
    rw [resume, beginReplay]
    split
    · exact told_grant m guarded o
    · rfl
  | query => rfl
  | visit => rfl

/-- Nobody is told anything when a replay ends. -/
theorem told_endReplay (m : Monitor δ) (o : ObserverId) (first guarded : Bool) :
    (m.endReplay o first guarded).told = m.told := by
  rw [endReplay, told_grant, told_steer]
  rfl

/-- What is told in a step was to be told by the topmost operation, and the snapshot stays. -/
theorem Transition.told (h : Transition m l m') :
    m'.told = m.told ∨ ∃ o e, m'.told = (o, e) :: m.told ∧
      PendingAbove m.stack.tail e m.stack ∧ m'.interfaces = m.interfaces := by
  cases h with
  -- only these two tell anything, and they tell the event that was next
  | @tell e o p r hs _ =>
    have hpending : e ∈ (Frame.dispatch ((e, o) :: p)).pendingEvents := List.mem_cons_self
    rw [hs]
    exact .inr ⟨o, e, rfl, PendingAbove.cons_iff.2 (.inl ⟨rfl, hpending⟩), rfl⟩
  | @replay o e p first guarded r hs _ =>
    have hpending : e ∈ (Frame.replay o (e :: p) first guarded).pendingEvents := List.mem_cons_self
    rw [hs]
    exact .inr ⟨o, e, rfl, PendingAbove.cons_iff.2 (.inl ⟨rfl, hpending⟩), rfl⟩
  | await _ _ _ => exact .inl (told_keep? _ _)
  | release _ _ => exact .inl (told_unregister _ _)
  | unregister _ => exact .inl (told_unregister _ _)
  | shutdown _ => exact .inl (told_shutdown m)
  | poll _ _ => exact .inl (told_keep? _ _)
  | resume _ => exact .inl (told_resume _ _)
  | replayed _ _ => exact .inl (told_endReplay _ _ _ _)
  | deliver _ | idle _ _ | dispatched _ | skip _ _ | visited _ | visit _ | polled _
  | returned _ _ _ => exact .inl rfl

/-- The snapshot that is handed over in a step. -/
def delivered (m : Monitor δ) : Label → Option Snapshot
  | .request r => m.handedOver r
  | _ => none

/-- The snapshot that was handed over last is retained. -/
theorem Transition.interfaces (h : Transition m l m') :
    m'.interfaces = (m.delivered l).getD m.interfaces := by
  cases h with
  | @await r next s d _ hr hd =>
    rw [delivered, handedOver_of_beginWait hr hd]
    cases s <;> rfl
  | release _ _ => simp [Monitor.unregister, delivered, handedOver]
  | unregister _ => simp [Monitor.unregister, delivered, handedOver]
  | shutdown _ => simp [Monitor.shutdown, delivered, handedOver]
  | deliver _ => rfl
  | idle _ hd => simp [delivered, handedOver, hd]
  | @poll n s d _ hd =>
    rw [delivered, handedOver_of_beginPoll hd]
    cases s <;> rfl
  | @resume next r _ =>
    cases next with
    | register o guarded =>
      rw [Monitor.resume, beginReplay]
      split
      · rw [grant_interfaces]
        rfl
      · rfl
    | query => rfl
    | visit => rfl
  | replayed _ _ => exact endReplay_interfaces _ _ _ _
  | returned _ _ hl => rcases hl with rfl | rfl <;> rfl
  | _ => rfl

/-- Only a snapshot whose records stand under their own ids is handed over. -/
def DeliversKeyed (m : Monitor δ) (l : Label) : Prop := ∀ s ∈ m.delivered l, s.IsKeyed

instance (m : Monitor δ) (l : Label) : Decidable (m.DeliversKeyed l) :=
  inferInstanceAs (Decidable (∀ s ∈ m.delivered l, s.IsKeyed))

/-- No snapshot is handed over. -/
def DeliversNothing (m : Monitor δ) (l : Label) : Prop := m.delivered l = none

/-- Records stay under their own identifiers. -/
theorem isKeyed_of_step (hm : m.interfaces.IsKeyed) (hl : m.DeliversKeyed l)
    (h : m.step l = some m') : m'.interfaces.IsKeyed := by
  rw [(Transition.of_step h).interfaces]
  cases hs : m.delivered l with
  | none => exact hm
  | some s => exact hl s hs

/-- Without a new snapshot the old one is kept. -/
theorem interfaces_of_deliversNothing {ls : List Label} (h : m.run ls = some m')
    (hls : m.Along DeliversNothing ls) : m'.interfaces = m.interfaces := by
  refine run_induction_along (P := fun n => n.interfaces = m.interfaces) ?_ rfl hls h
  intro n l n' hn hl hstep
  rw [(Transition.of_step hstep).interfaces, hl, Option.getD_none, hn]

/-! ## Where a told event comes from -/

/-- An operation is under way right above some others. -/
def UnderWay (r : List Frame) (m : Monitor δ) : Prop := ∃ f, f :: r <:+ m.stack

/-- The place in a run where an operation began that will tell an event: the step that began it, the
steps before that, and the steps since, during which it was under way. -/
structure Begun (m m' : Monitor δ) (ls : List Label) (r : List Frame) (e : Event) where
  earlier : List Label
  label : Label
  later : List Label
  labels_eq : ls = earlier ++ label :: later
  before : Monitor δ
  after : Monitor δ
  run_earlier : m.run earlier = some before
  step_label : before.step label = some after
  run_later : after.run later = some m'
  begins : Begins before after r e
  underWay : after.Along (fun n _ => n.UnderWay r) later

/-- What is to be told at the end of a run was to be told from its start on, or else the operation
that will tell it has begun in the run. -/
theorem pendingAbove_origin {ls : List Label} (h : m.run ls = some m')
    (he : PendingAbove r e m'.stack) :
    PendingAbove r e m.stack ∧ m.Along (fun n _ => n.UnderWay r) ls ∨
      Nonempty (Begun m m' ls r e) := by
  -- from the end of the run towards its start, as far back as the event was to be told
  induction ls generalizing m with
  | nil =>
    cases h
    exact .inl ⟨he, trivial⟩
  | cons l ls ih =>
    obtain ⟨m1, h1, hrun⟩ := Option.bind_eq_some_iff.1 h
    rcases ih hrun with ⟨hpending, hunder⟩ | ⟨⟨b⟩⟩
    · rcases (Transition.of_step h1).pendingAbove hpending with hbefore | hbegins
      · -- the operation was under way before this step already
        obtain ⟨f, hsuffix, hf⟩ := hbefore
        refine .inl ⟨⟨f, hsuffix, hf⟩, ⟨f, hsuffix⟩, fun n hn => ?_⟩
        rw [h1] at hn
        cases hn
        exact hunder
      · -- it began with this step
        exact .inr ⟨⟨[], l, ls, rfl, m, m1, rfl, h1, hrun, hbegins, hunder⟩⟩
    · -- it began later
      have hearlier : m.run (l :: b.earlier) = some b.before :=
        Option.bind_eq_some_iff.2 ⟨m1, h1, b.run_earlier⟩
      have hlabels : l :: ls = l :: b.earlier ++ b.label :: b.later :=
        congrArg (l :: ·) b.labels_eq
      exact .inr ⟨⟨l :: b.earlier, b.label, b.later, hlabels, b.before, b.after, hearlier,
        b.step_label, b.run_later, b.begins, b.underWay⟩⟩

/-- At first nothing is to be told, so whatever is told in a run has a beginning in it. -/
theorem begun_of_told {d : δ} {ls : List Label} {o : ObserverId} (h : (new d).run ls = some m)
    (hstep : m.step l = some m') (htold : m'.past = .invoked o e :: m.past) :
    Nonempty (Begun (new d) m ls m.stack.tail e) ∧ m'.interfaces = m.interfaces := by
  have htold' : m'.told = (o, e) :: m.told := by
    rw [told, htold]
    rfl
  rcases (Transition.of_step hstep).told with hsame | ⟨o', e', htells, hpending, hinterfaces⟩
  · rw [htold'] at hsame
    exact absurd hsame (List.cons_ne_self _ _)
  · rw [htold'] at htells
    obtain ⟨heq, -⟩ := List.cons.inj htells
    cases heq
    refine ⟨?_, hinterfaces⟩
    rcases pendingAbove_origin h hpending with ⟨⟨f, hsuffix, -⟩, -⟩ | hbegun
    · -- a new monitor has nothing to tell
      exact absurd (List.suffix_nil.1 hsuffix) (List.cons_ne_nil _ _)
    · exact hbegun

/-! ## Main result -/

/-- In every run, whatever observers ask of the monitor when they are told something, an event
agrees with the snapshot that was retained when the operation that tells it, the topmost one, began.
It agrees with the snapshot that is retained when it is told if and only if the same is kept under
its id as then, and hence whenever no other snapshot was handed over from inside the operation. -/
theorem told_agrees_with_beginning {d : δ} {ls : List Label} {o : ObserverId}
    (h : (new d).run ls = some m) (hkeyed : (new d).Along DeliversKeyed ls)
    (hstep : m.step l = some m') (htold : m'.past = .invoked o e :: m.past) :
    ∃ b : Begun (new d) m ls m.stack.tail e,
      e.CurrentIn b.after.interfaces ∧
        (e.CurrentIn m'.interfaces ↔
          m'.interfaces.get? e.interface.id = b.after.interfaces.get? e.interface.id) ∧
        (b.after.Along DeliversNothing b.later → e.CurrentIn m'.interfaces) := by
  obtain ⟨⟨b⟩, hinterfaces⟩ := begun_of_told h hstep htold
  have hcurrent : e.CurrentIn b.after.interfaces := by
    rw [b.labels_eq] at hkeyed
    obtain ⟨hearlier, hrest⟩ := hkeyed.of_append
    obtain ⟨hlabel, -⟩ := hrest b.before b.run_earlier
    have hbefore : b.before.interfaces.IsKeyed :=
      run_induction_along (P := fun n => n.interfaces.IsKeyed)
        (fun _ _ _ hn hl hs => isKeyed_of_step hn hl hs) Snapshot.isKeyed_empty hearlier
        b.run_earlier
    exact b.begins.currentIn hbefore (isKeyed_of_step hbefore hlabel b.step_label)
  refine ⟨b, hcurrent, hcurrent.currentIn_iff, fun hnothing => ?_⟩
  rw [hinterfaces, interfaces_of_deliversNothing b.run_later hnothing]
  exact hcurrent

/-- A snapshot of a loopback interface and another one. -/
def twoInterfaces : Snapshot :=
  (Keyed.empty.insert "eth0" (.new "eth0" .ethernet)).insert "lo" (.new "lo" .loopback)

/-- Steps in which an observer joins and looks at the snapshot when it is told of the first of two
interfaces. -/
def lookingLabels : List Label :=
  [.request (.register 0), .proceed, .proceed, .proceed, .request .query, .proceed, .finish]

/-- An observer looks at the snapshot while it is told of one interface, and is then told of the
other. -/
theorem told_agrees_with_beginning_looking :
    ∃ m m' : Monitor ManualDriver,
      (new (ManualDriver.new (some twoInterfaces))).run lookingLabels = some m ∧
      (new (ManualDriver.new (some twoInterfaces))).Along DeliversKeyed lookingLabels ∧
      m.step .proceed = some m' ∧
      m'.past = .invoked 0 (.added (.new "lo" .loopback)) :: m.past ∧
      ∃ b : Begun (new (ManualDriver.new (some twoInterfaces))) m lookingLabels m.stack.tail
          (.added (.new "lo" .loopback)),
        (Event.added (.new "lo" .loopback)).CurrentIn b.after.interfaces ∧
          ((Event.added (.new "lo" .loopback)).CurrentIn m'.interfaces ↔
            m'.interfaces.get? "lo" = b.after.interfaces.get? "lo") ∧
          (b.after.Along DeliversNothing b.later →
            (Event.added (.new "lo" .loopback)).CurrentIn m'.interfaces) := by
  obtain ⟨m, m', hrun, hstep, htold⟩ : ∃ m m' : Monitor ManualDriver,
      (new (ManualDriver.new (some twoInterfaces))).run lookingLabels = some m ∧
      m.step .proceed = some m' ∧
      m'.past = .invoked 0 (.added (.new "lo" .loopback)) :: m.past := ⟨_, _, rfl, rfl, rfl⟩
  have hkeyed : (new (ManualDriver.new (some twoInterfaces))).Along DeliversKeyed
      lookingLabels := by
    decide +kernel
  exact ⟨m, m', hrun, hkeyed, hstep, htold, told_agrees_with_beginning hrun hkeyed hstep htold⟩

/-- Steps in which an observer joins and, when it is told of the first of two interfaces, causes a
snapshot without the second to be handed over. -/
def interferingLabels : List Label :=
  [.request (.register 0), .proceed, .proceed, .proceed,
    .request (.deliver (Keyed.empty.insert "eth0" (.new "eth0" .ethernet))), .proceed, .finish,
    .proceed, .finish]

/-- The second interface is told as having come, after it was told as having gone and while it is
not in the retained snapshot. -/
theorem told_late_of_interface_that_went :
    ∃ m m' : Monitor ManualDriver,
      (new (ManualDriver.new (some twoInterfaces))).run interferingLabels = some m ∧
      (new (ManualDriver.new (some twoInterfaces))).Along DeliversKeyed interferingLabels ∧
      m.step .proceed = some m' ∧
      m'.past = .invoked 0 (.added (.new "lo" .loopback)) :: m.past ∧
      ¬ (Event.added (.new "lo" .loopback)).CurrentIn m'.interfaces :=
  ⟨_, _, rfl, by decide +kernel, rfl, rfl, by decide +kernel⟩

end Monitor
end LinkWatch
