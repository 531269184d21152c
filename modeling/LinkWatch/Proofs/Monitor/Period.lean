import LinkWatch.Proofs.Difference.Stream
import LinkWatch.Proofs.Monitor.Current
import LinkWatch.Proofs.Monitor.Presence

/-!
# What an observer is told while it is registered

A registration period lasts from the step that adds an observer to the list until the observer is
dismissed. Callbacks may add and dismiss observers, the one that is called among them, and the
operations that are under way do not notice: they go on with whoever is registered by then. So an
observer that leaves and comes back inside a call is told, after all that is known, what the
operations under way had left for it from before.

`Transition.course` says that a step moves events from what is owed to what was told and adds new
ones behind. Hence the whole stream of a period: all that is known, the leftovers, and what the
snapshots since then have changed. It is well formed as long as the leftovers that were told are
changes of fields (`stream_fits_iff`), and so always if there are none.
-/

namespace LinkWatch.Monitor

variable {δ : Type} {m m' : Monitor δ} {l : Label} {o : ObserverId}

/-- What an observer was told since it joined last, and then what it is still to be told. -/
def course (m : Monitor δ) (o : ObserverId) : List Event :=
  Signal.toldSince o m.past ++ m.owed o

/-- An operation on top that owes an observer nothing changes nothing for it. -/
theorem course_push {f : Frame} (hf : f.owes o = []) (m : Monitor δ) :
    (m.push f).course o = m.course o := by
  rw [course, course, owed, push, List.flatMap_cons, hf, List.nil_append, owed]

/-- The topmost operation ends or goes on, and owes an observer as much as before. -/
theorem course_replace {f : Frame} {t r : List Frame} (hs : m.stack = f :: r)
    (hf : t.flatMap (Frame.owes o) = f.owes o) (d : δ) :
    ({ m with stack := t ++ r, driver := d } : Monitor δ).course o = m.course o := by
  rw [course, course, owed, owed, hs, List.flatMap_append, hf, List.flatMap_cons]

/-- What is no news for anybody changes nothing. -/
theorem course_note {s : Signal} (hs : s.isNews = false) (m : Monitor δ) :
    (m.note s).course o = m.course o := by
  have hpast : Signal.toldSince o (m.note s).past = Signal.toldSince o m.past :=
    Signal.toldSince_append (p := [s]) (by simpa using hs) o m.past
  rw [course, course, hpast, owed, owed, note]

/-- What the topmost operation tells an observer it owes it no longer. -/
theorem course_tell {f g : Frame} {r : List Frame} {o' : ObserverId} {e : Event}
    (hs : m.stack = f :: r) (hf : f.owes o = (if o' = o then [e] else []) ++ g.owes o) :
    ((({ m with stack := g :: r } : Monitor δ).push (.callback o' e)).note
      (.invoked o' e)).course o = m.course o := by
  have hcall : Frame.owes o (.callback o' e) = [] := rfl
  by_cases heq : o' = o
  · subst heq
    rw [if_pos rfl] at hf
    simp [course, owed, note, push, Signal.toldSince, hs, hf, hcall]
  · rw [if_neg heq] at hf
    simp [course, owed, note, push, Signal.toldSince, hs, hf, hcall, heq]

theorem course_grant (m : Monitor δ) (guarded : Bool) (o' : ObserverId) :
    (m.grant guarded o').course o = m.course o := by
  cases guarded <;> rfl

/-- The events that a snapshot brings about, if one comes. -/
def newsOf (m : Monitor δ) : Option Snapshot → List Event
  | some s => Snapshot.diff m.interfaces s
  | none => []

/-- A snapshot that comes puts its events in front of everything else that is owed. -/
theorem course_keep? (hos : m.observers.Nodup) (ho : m.isRegistered o = true)
    (s : Option Snapshot) :
    (m.keep? s).course o = Signal.toldSince o m.past ++ (m.newsOf s ++ m.owed o) := by
  cases s with
  | none => rfl
  | some s =>
    have howes := owes_dispatch hos (isRegistered_iff.1 ho) (Snapshot.diff m.interfaces s)
    rw [course, owed, keep?, keep, push, List.flatMap_cons, howes]
    rfl

/-- What is owed to an observer is to be told by an operation under way. -/
theorem pendingAbove_of_owed {m : Monitor δ} {e : Event} (he : e ∈ m.owed o) :
    ∃ r, PendingAbove r e m.stack := by
  obtain ⟨f, hf, howes⟩ := List.mem_flatMap.1 he
  obtain ⟨s, r, hs⟩ := List.append_of_mem hf
  refine ⟨r, f, ⟨s, hs.symm⟩, ?_⟩
  cases f with
  | dispatch p =>
    obtain ⟨x, hx, rfl⟩ := List.mem_map.1 howes
    exact List.mem_map_of_mem (List.mem_filter.1 hx).1
  | replay o' p first guarded =>
    rw [Frame.owes] at howes
    split at howes
    · exact howes
    · cases howes
  | _ => cases howes

variable [PollingDriver δ]

theorem toldSince_steer (c : Option DriverCall × Monitor δ) :
    Signal.toldSince o (steer c).past = Signal.toldSince o c.2.past := by
  obtain ⟨p, hp, hcalls⟩ := steer_past c
  rw [hp, Signal.toldSince_append fun s hs => Signal.isNews_of_isDriverCall (hcalls s hs)]

theorem course_unregister (m : Monitor δ) (o o' : ObserverId) :
    (m.unregister o').course o = m.course o := by
  rw [course, course, owed, owed, unregister, steer_stack, remove_stack, toldSince_steer,
    remove_past]
  split <;> rfl

theorem course_shutdown (m : Monitor δ) (o : ObserverId) : m.shutdown.course o = m.course o := by
  rw [course, course, owed, owed, shutdown, steer_stack, clear_stack, toldSince_steer, clear_past,
    Signal.toldSince_append (by simp [Signal.isNews])]

theorem course_endReplay (m : Monitor δ) (o' : ObserverId) (first guarded : Bool) :
    (m.endReplay o' first guarded).course o = m.course o := by
  rw [endReplay, course_grant, course, course, owed, owed, steer_stack, toldSince_steer,
    closeReplay]

/-- While an observer stays registered, a step at most moves events from what is owed to it to what
it was told, and puts the events of a snapshot that comes in between. -/
theorem Transition.course (h : Transition m l m') (hos : m.observers.Nodup)
    (ho : m.isRegistered o = true) :
    m'.course o = Signal.toldSince o m.past ++ (m.newsOf (m.delivered l) ++ m.owed o) := by
  cases h with
  | @await r next s d _ hr hd =>
    rw [delivered, handedOver_of_beginWait hr hd]
    exact course_keep? (m := ({ m with driver := d } : Monitor δ).push (.await next)) hos ho s
  | release _ _ | unregister _ => exact course_unregister _ _ _
  | shutdown _ => exact course_shutdown m o
  | @deliver s _ => exact course_keep? hos ho (some s)
  | idle _ hd =>
    rw [delivered, handedOver, hd]
    rfl
  | @poll n s d _ hd =>
    rw [delivered, handedOver_of_beginPoll hd]
    exact course_keep? (m := ({ m with driver := d } : Monitor δ).push (.poll n)) hos ho s
  | @resume next r hs =>
    have hpop := course_replace (o := o) (t := []) hs rfl (PollingDriver.endWait m.driver)
    refine Eq.trans ?_ hpop
    cases next with
    | query => exact course_note rfl _
    | visit => exact course_push rfl _
    | register o' guarded =>
      rw [Monitor.resume, beginReplay]
      split
      · exact course_grant _ _ _
      · next ho' =>
        -- somebody else joins
        have hne : o' ≠ o := by
          rintro rfl
          exact ho' ho
        have hjoined : Signal.toldSince o (.joined o' :: m.past) = Signal.toldSince o m.past := by
          rw [Signal.toldSince, if_neg hne]
        refine (course_push (by rw [Frame.owes, if_neg hne]) _).trans ?_
        rw [Monitor.course, note, hjoined]
        rfl
  | dispatched hs => exact course_replace (t := []) hs rfl m.driver
  | @tell e o' p r hs ho' =>
    refine course_tell hs ?_
    by_cases heq : o' = o
    · subst heq
      rw [if_pos rfl, Frame.owes_dispatch_self, List.singleton_append]
    · rw [if_neg heq, Frame.owes_dispatch_of_ne (fun hoo => heq hoo.symm), List.nil_append]
  | @skip e o' p r hs ho' =>
    have hne : o ≠ o' := by
      rintro rfl
      rw [ho] at ho'
      cases ho'
    refine course_replace (t := [.dispatch p]) hs ?_ m.driver
    rw [List.flatMap_singleton, Frame.owes_dispatch_of_ne hne]
  | @replay o' e p first guarded r hs ho' =>
    refine course_tell hs ?_
    by_cases heq : o' = o <;> simp [Frame.owes, heq]
  | @replayed o' p first guarded r hs ho' =>
    refine (course_endReplay _ _ _ _).trans (course_replace (t := []) hs ?_ m.driver)
    rw [Frame.owes]
    split
    · next heq =>
      -- a replay to this observer ends when everything was told
      subst heq
      rcases ho' with rfl | hleft
      · rfl
      · rw [ho] at hleft
        cases hleft
    · rfl
  | visited hs => exact course_replace (t := []) hs rfl m.driver
  | @visit i p r hs =>
    refine (course_note rfl _).trans ((course_push rfl _).trans ?_)
    exact course_replace (t := [.visits p]) hs rfl m.driver
  | polled hs => exact course_replace (t := []) hs rfl _
  | returned hs hf hl =>
    have hpop := course_replace (t := []) hs (Frame.owes_of_isCall hf o).symm m.driver
    rcases hl with rfl | rfl
    · exact hpop
    · exact hpop

/-- An observer that joins is to be told all that is known, and then whatever the operations under
way have left for it from before. -/
theorem course_of_joining (h : Transition m l m') (ho : m.isRegistered o = false)
    (ho' : m'.isRegistered o = true) :
    m'.course o = Snapshot.diff .empty m.interfaces ++ m.owed o ∧
      m'.interfaces = m.interfaces := by
  obtain ⟨rfl, ⟨guarded, r, hs⟩, -⟩ := h.admits ho ho'
  cases h with
  | @resume next r' hs' =>
    rw [hs] at hs'
    cases hs'
    have hfree : ¬ ({ m with stack := r, driver := PollingDriver.endWait m.driver } :
        Monitor δ).isRegistered o = true := by
      rw [Bool.not_eq_true]
      exact ho
    rw [Monitor.resume, beginReplay, if_neg hfree]
    simp [Monitor.course, owed, push, note, Signal.toldSince, Frame.owes, hs]
  | dispatched hs' | tell hs' _ | skip hs' _ | replay hs' _ | replayed hs' _ | visited hs'
  | visit hs' | polled hs' =>
    rw [hs] at hs'
    cases hs'
  | returned hs' hf _ =>
    rw [hs] at hs'
    cases hs'
    cases hf

/-! ## Runs -/

/-- A step by which a snapshot comes only while nothing is under way, and only one whose records
stand under their own ids. -/
def Undisturbed (m : Monitor δ) (l : Label) : Prop :=
  ∀ s ∈ m.delivered l, s.IsKeyed ∧ m.stack = []

instance (m : Monitor δ) (l : Label) : Decidable (m.Undisturbed l) :=
  decidable_of_iff ((m.delivered l).all (fun s => decide s.IsKeyed && m.stack.isEmpty) = true) <| by
    rw [Undisturbed]
    cases m.delivered l <;> simp

theorem nodup_of_step (hm : m.observers.Nodup) (h : m.step l = some m') : m'.observers.Nodup := by
  have htransition := Transition.of_step h
  by_cases hl : ∀ r, l ≠ .request r
  · rcases htransition.observers_of_not_request hl with hsame | ⟨o, -, ⟨-, ho⟩, hadded⟩
    · rwa [hsame]
    · have hnew : o ∉ m.observers := by
        rw [← isRegistered_iff, ho]
        exact Bool.false_ne_true
      rw [hadded, ← List.concat_eq_append]
      exact hm.concat hnew
  · obtain ⟨r, rfl⟩ : ∃ r, l = .request r := by simpa using hl
    rw [htransition.observers_of_request]
    exact hm.filter _

theorem nodup_of_run {d : δ} {ls : List Label} (h : (new d).run ls = some m) :
    m.observers.Nodup :=
  run_induction (fun _ _ _ hm hstep => nodup_of_step hm hstep) List.nodup_nil h

/-- The stream of an observer that stays registered: as at the start of the run, and then what the
snapshots have changed that came in the run. -/
theorem course_of_staying {ls : List Label} (h : m.run ls = some m') (hos : m.observers.Nodup)
    (hstays : m.Along (fun n l => n.Undisturbed l ∧ n.isRegistered o = true) ls) :
    ∃ ss : List Snapshot, (∀ s ∈ ss, s.IsKeyed) ∧ m'.interfaces = ss.getLastD m.interfaces ∧
      m'.course o = m.course o ++ Snapshot.diffs m.interfaces ss := by
  induction ls generalizing m with
  | nil =>
    cases h
    exact ⟨[], by simp, rfl, (List.append_nil _).symm⟩
  | cons l ls ih =>
    obtain ⟨m₁, h₁, hrun⟩ := Option.bind_eq_some_iff.1 h
    obtain ⟨⟨hundisturbed, ho⟩, hrest⟩ := hstays
    have htransition := Transition.of_step h₁
    have hcourse := htransition.course hos ho
    have hinterfaces := htransition.interfaces
    obtain ⟨ss, hkeyed, hlast, hss⟩ := ih hrun (nodup_of_step hos h₁) (hrest m₁ h₁)
    cases hs : m.delivered l with
    | none =>
      rw [hs] at hcourse hinterfaces
      rw [hinterfaces] at hlast hss
      rw [hcourse] at hss
      exact ⟨ss, hkeyed, hlast, hss⟩
    | some s =>
      -- a snapshot comes while nothing is owed to anybody
      obtain ⟨hs', hidle⟩ := hundisturbed s hs
      have howed : m.owed o = [] := by rw [owed, hidle, List.flatMap_nil]
      rw [hs] at hcourse hinterfaces
      rw [hinterfaces, Option.getD_some] at hlast hss
      refine ⟨s :: ss, List.forall_mem_cons.2 ⟨hs', hkeyed⟩, ?_, ?_⟩
      · rw [hlast, List.getLastD_cons]
      · rw [hss, hcourse, Monitor.course, howed, List.append_nil, List.append_nil, newsOf,
          Snapshot.diffs, List.append_assoc]

/-- Everything that is still to be told agrees with the retained snapshot. -/
structure UpToDate (m : Monitor δ) : Prop where
  keyed : m.interfaces.IsKeyed
  current : ∀ r e, PendingAbove r e m.stack → e.CurrentIn m.interfaces

theorem UpToDate.step (h : m.UpToDate) (hl : m.Undisturbed l) (hstep : m.step l = some m') :
    m'.UpToDate := by
  have htransition := Transition.of_step hstep
  have hkeyed : m'.interfaces.IsKeyed :=
    isKeyed_of_step h.keyed (fun s hs => (hl s hs).1) hstep
  refine ⟨hkeyed, fun r e he => ?_⟩
  rcases htransition.pendingAbove he with hbefore | hbegins
  · -- something is under way, so the snapshot stays
    have hsame : m'.interfaces = m.interfaces := by
      rw [htransition.interfaces]
      cases hs : m.delivered l with
      | none => rfl
      | some s =>
        obtain ⟨f, hf, -⟩ := hbefore
        rw [(hl s hs).2] at hf
        exact absurd (List.suffix_nil.1 hf) (List.cons_ne_nil _ _)
    rw [hsame]
    exact h.current r e hbefore
  · exact hbegins.currentIn h.keyed hkeyed

theorem UpToDate.run {d : δ} {ls : List Label} (h : (new d).run ls = some m)
    (hls : (new d).Along Undisturbed ls) : m.UpToDate := by
  refine run_induction_along (fun _ _ _ hm hl hstep => hm.step hl hstep) ?_ hls h
  refine ⟨Snapshot.isKeyed_empty, fun r e he => ?_⟩
  obtain ⟨f, hf, -⟩ := he
  exact absurd (List.suffix_nil.1 hf) (List.cons_ne_nil _ _)

/-! ## Main result -/

/-- The stream of a registration period, from the step that adds the observer up to any moment at
which it is still registered, when no snapshot comes from inside a call. What was told and is still
owed is all that is known at first, then what operations under way had left for the observer from
before, and then what the snapshots since then have changed. The stream is well formed if and only
if the leftovers that were told are changes of fields. -/
theorem stream_fits_iff {d : δ} {before ls : List Label} {n : Monitor δ}
    (hbefore : (new d).run before = some m) (hundisturbed : (new d).Along Undisturbed before)
    (hjoin : m.step l = some m') (ho : m.isRegistered o = false) (ho' : m'.isRegistered o = true)
    (hrun : m'.run ls = some n)
    (hstays : m'.Along (fun k l => k.Undisturbed l ∧ k.isRegistered o = true) ls) :
    (∃ ss : List Snapshot, n.interfaces = ss.getLastD m.interfaces ∧
      Signal.toldSince o n.past ++ n.owed o =
        Snapshot.diff .empty m.interfaces ++ m.owed o ++ Snapshot.diffs m.interfaces ss) ∧
      (Snapshot.Fits .empty (Signal.toldSince o n.past) ↔
        ∀ e ∈ (m.owed o).take ((Signal.toldSince o n.past).length - m.interfaces.size),
          e.isChange = true) := by
  have huptodate := UpToDate.run hbefore hundisturbed
  have hnodup := nodup_of_step (nodup_of_run hbefore) hjoin
  obtain ⟨hfirst, hsame⟩ := course_of_joining (Transition.of_step hjoin) ho ho'
  obtain ⟨ss, hkeyed, hlast, hcourse⟩ := course_of_staying hrun hnodup hstays
  rw [hfirst, hsame] at hcourse
  rw [hsame] at hlast
  refine ⟨⟨ss, hlast, hcourse⟩, ?_⟩
  have hcurrent : ∀ e ∈ m.owed o, e.CurrentIn m.interfaces := fun e he =>
    let ⟨r, hr⟩ := pendingAbove_of_owed he
    huptodate.current r e hr
  exact Snapshot.fits_iff_of_current huptodate.keyed hkeyed hcurrent ⟨n.owed o, hcourse⟩

/-- Steps in which two observers join, the interface that they know changes, and the first observer,
when it is told of the change, makes the second leave and come back. -/
def recalledLabels : List Label :=
  [.request (.register 0), .proceed, .proceed, .proceed, .finish, .proceed,
    .request (.register 1), .proceed, .proceed, .finish, .proceed,
    .request (.deliver (Keyed.empty.insert "lo" { Interface.new "lo" .loopback with
      isEnabled := true })), .proceed,
    .request (.unregister 1), .request (.register 1)]

/-- Steps in which the second observer is told all that is known, and then of the change again. -/
def recalledStay : List Label := [.proceed, .finish, .proceed, .finish, .proceed]

theorem stream_fits_iff_recalled :
    ∃ m m' n, (new (ManualDriver.new (some (Keyed.empty.insert "lo" (.new "lo" .loopback))))).run
        recalledLabels = some m ∧
      (new (ManualDriver.new (some (Keyed.empty.insert "lo" (.new "lo" .loopback))))).Along
        Undisturbed recalledLabels ∧
      m.step .proceed = some m' ∧ m.isRegistered 1 = false ∧ m'.isRegistered 1 = true ∧
      m'.run recalledStay = some n ∧
      m'.Along (fun k l => k.Undisturbed l ∧ k.isRegistered 1 = true) recalledStay ∧
      (m.owed 1).length = 1 ∧ (Signal.toldSince 1 n.past).length = 2 ∧
      Snapshot.Fits .empty (Signal.toldSince 1 n.past) := by
  obtain ⟨m, m', n, hrun, hjoin, ho, ho', hstay, hstays, hleft, htold, hchanges⟩ :
      ∃ m m' n, (new (ManualDriver.new (some (Keyed.empty.insert "lo" (.new "lo" .loopback))))).run
          recalledLabels = some m ∧
        m.step .proceed = some m' ∧ m.isRegistered 1 = false ∧ m'.isRegistered 1 = true ∧
        m'.run recalledStay = some n ∧
        m'.Along (fun k l => k.Undisturbed l ∧ k.isRegistered 1 = true) recalledStay ∧
        (m.owed 1).length = 1 ∧ (Signal.toldSince 1 n.past).length = 2 ∧
        ∀ e ∈ m.owed 1, e.isChange = true :=
    ⟨_, _, _, rfl, rfl, rfl, rfl, rfl, by decide +kernel, rfl, rfl, by decide +kernel⟩
  have hundisturbed : (new (ManualDriver.new (some (Keyed.empty.insert "lo"
      (.new "lo" .loopback))))).Along Undisturbed recalledLabels := by
    decide +kernel
  obtain ⟨-, hfits⟩ := stream_fits_iff hrun hundisturbed hjoin ho ho' hstay hstays
  exact ⟨m, m', n, hrun, hundisturbed, hjoin, ho, ho', hstay, hstays, hleft, htold,
    hfits.2 fun e he => hchanges e (List.mem_of_mem_take he)⟩

/-- Steps in which an observer joins and, when it is told of the first of two interfaces, leaves and
asks to come back. -/
def returnedLabels : List Label :=
  [.request (.register 0), .proceed, .proceed, .proceed, .request (.unregister 0),
    .request (.register 0)]

/-- Steps in which the observer is told of both interfaces, and of the second once more. -/
def returnedStay : List Label :=
  [.proceed, .finish, .proceed, .finish, .proceed, .finish, .proceed]

/-- An observer that comes back during a replay to it is told of an interface as having come that it
was told of already. -/
theorem told_twice_after_return :
    ∃ m m' n, (new (ManualDriver.new (some twoInterfaces))).run returnedLabels = some m ∧
      (new (ManualDriver.new (some twoInterfaces))).Along Undisturbed returnedLabels ∧
      m.step .proceed = some m' ∧ m.isRegistered 0 = false ∧ m'.isRegistered 0 = true ∧
      m'.run returnedStay = some n ∧
      m'.Along (fun k l => k.Undisturbed l ∧ k.isRegistered 0 = true) returnedStay ∧
      Signal.toldSince 0 n.past =
        [.added (.new "eth0" .ethernet), .added (.new "lo" .loopback),
          .added (.new "lo" .loopback)] ∧
      ¬ Snapshot.Fits .empty (Signal.toldSince 0 n.past) :=
  ⟨_, _, _, rfl, by decide +kernel, rfl, rfl, rfl, rfl, by decide +kernel, rfl, by decide +kernel⟩

end LinkWatch.Monitor
