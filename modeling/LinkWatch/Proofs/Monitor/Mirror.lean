import Mathlib.Data.List.Nodup
import LinkWatch.Proofs.Monitor.Settle

/-!
# What an observer knows

An observer that applies every event it is told, from its registration on, keeps a map of the
interfaces. While nobody asks anything of the monitor from inside a call, this map agrees with the
retained snapshot whenever nothing is under way (`mirror_agrees`), in its ids and in every tracked
field. Fields that are not tracked may differ, since a change of them alone is not told.

In between, the map lags behind the snapshot by what the operations under way still owe the
observer (`Frame.owes`); the invariant `Mirrored` says that these events make up for it.
-/

namespace LinkWatch

/-- What an observer was told since it joined last, in order. -/
def Signal.toldSince (o : ObserverId) : List Signal → List Event
  | [] => []
  | .joined o' :: r => if o' = o then [] else toldSince o r
  | .invoked o' e :: r => if o' = o then toldSince o r ++ [e] else toldSince o r
  | _ :: r => toldSince o r

/-- True when an observer joins or is told something. -/
def Signal.isNews : Signal → Bool
  | .joined _ => true
  | .invoked .. => true
  | _ => false

/-- Signals that are no news leave alone what an observer was told. -/
theorem Signal.toldSince_append {p : List Signal} (hp : ∀ s ∈ p, s.isNews = false)
    (o : ObserverId) (r : List Signal) : toldSince o (p ++ r) = toldSince o r := by
  induction p with
  | nil => rfl
  | cons s p ih =>
    have hs := hp s List.mem_cons_self
    have hr := ih fun t ht => hp t (List.mem_cons_of_mem _ ht)
    cases s <;> simp_all [isNews, toldSince]

/-- Starting and stopping the driver is no news to observers. -/
theorem Signal.isNews_of_isDriverCall {s : Signal} (h : s.isDriverCall = true) :
    s.isNews = false := by
  cases s <;> simp_all [isDriverCall, isNews]

/-- What an operation still has to tell an observer. -/
def Frame.owes (o : ObserverId) : Frame → List Event
  | .dispatch pending => (pending.filter (·.2 == o)).map (·.1)
  | .replay o' pending _ _ => if o' = o then pending else []
  | _ => []

/-- The next pair is owed to its own observer. -/
theorem Frame.owes_dispatch_self (o : ObserverId) (e : Event) (p : List (Event × ObserverId)) :
    owes o (.dispatch ((e, o) :: p)) = e :: owes o (.dispatch p) := by
  simp [owes]

/-- The next pair is not owed to anybody else. -/
theorem Frame.owes_dispatch_of_ne {o o' : ObserverId} (h : o' ≠ o) (e : Event)
    (p : List (Event × ObserverId)) : owes o' (.dispatch ((e, o) :: p)) = owes o' (.dispatch p) := by
  have hne : ¬ o = o' := fun heq => h heq.symm
  simp [owes, hne]

theorem Frame.owes_of_isCall {f : Frame} (hf : f.isCall = true) (o : ObserverId) :
    f.owes o = [] := by
  cases f with
  | dispatch p => cases hf
  | replay o' p first guarded => cases hf
  | _ => rfl

/-- A stack in which an operation that waits for the first snapshot lies at the very bottom. -/
inductive Grounded : List Frame → Prop
  | nil : Grounded []
  | await (next : Awaiting) : Grounded [.await next]
  | cons {f : Frame} {r : List Frame} (hf : ∀ next, f ≠ .await next) (hr : Grounded r) :
      Grounded (f :: r)

theorem Grounded.tail {f : Frame} {r : List Frame} (h : Grounded (f :: r)) : Grounded r := by
  cases h with
  | await next => exact .nil
  | cons hf hr => exact hr

/-- A wait for the first snapshot is at the bottom of the stack. -/
theorem Grounded.eq_nil_of_await {next : Awaiting} {r : List Frame}
    (h : Grounded (.await next :: r)) : r = [] := by
  cases h with
  | await next => rfl
  | cons hf hr => exact absurd rfl (hf next)

namespace Monitor

variable {δ : Type}

/-- The map that an observer keeps from the events it was told since it joined last. -/
def mirror (m : Monitor δ) (o : ObserverId) : Snapshot :=
  Snapshot.applyEvents .empty (Signal.toldSince o m.past)

/-- What the operations under way still have to tell an observer. -/
def owed (m : Monitor δ) (o : ObserverId) : List Event := m.stack.flatMap (Frame.owes o)

/-- With what is still to be told, every observer's map agrees with the snapshot. -/
structure Mirrored (m : Monitor δ) : Prop where
  nodup : m.observers.Nodup
  keyed : m.interfaces.IsKeyed
  grounded : Grounded m.stack
  agrees : ∀ o ∈ m.observers,
    (Snapshot.applyEvents .empty (Signal.toldSince o m.past ++ m.owed o)).Agrees m.interfaces

/-- In the beginning nobody is registered and nothing is known. -/
theorem mirrored_new (d : δ) : (new d).Mirrored where
  nodup := List.nodup_nil
  keyed := Snapshot.isKeyed_empty
  grounded := .nil
  agrees o h := by simp [new] at h

/-- The events of a snapshot that are handed out to one of several observers are all of them. -/
theorem owes_dispatch {os : List ObserverId} (hos : os.Nodup) {o : ObserverId} (ho : o ∈ os)
    (es : List Event) :
    Frame.owes o (.dispatch (es.flatMap fun e => os.map fun o => (e, o))) = es := by
  -- among the pairs of one event exactly one is for this observer
  have hone (e : Event) :
      ((os.map fun o' => (e, o')).filter (·.2 == o)).map (·.1) = [e] := by
    have hfilter : os.filter (· == o) = [o] := by
      rw [List.filter_beq, List.count_eq_one_of_mem hos ho]
      rfl
    rw [List.filter_map]
    change ((os.filter (· == o)).map fun o' => (e, o')).map (·.1) = [e]
    rw [hfilter]
    rfl
  induction es with
  | nil => rfl
  | cons e es ih =>
    rw [Frame.owes] at ih ⊢
    rw [List.flatMap_cons, List.filter_append, List.map_append, ih, hone]
    rfl

namespace Mirrored

variable {m m' : Monitor δ}

/-! ## Steps that tell nothing -/

/-- Observers may leave, and the operations under way owe those that stay the same as before. -/
theorem congr (h : m.Mirrored) {p : List Signal} (hp : ∀ s ∈ p, s.isNews = false)
    (hobservers : m'.observers.Sublist m.observers) (hinterfaces : m'.interfaces = m.interfaces)
    (hpast : m'.past = p ++ m.past) (hgrounded : Grounded m'.stack)
    (howed : ∀ o ∈ m'.observers, m'.owed o = m.owed o) : m'.Mirrored := by
  refine ⟨h.nodup.sublist hobservers, hinterfaces ▸ h.keyed, hgrounded, fun o ho => ?_⟩
  rw [hpast, Signal.toldSince_append hp, howed o ho, hinterfaces]
  exact h.agrees o (hobservers.subset ho)

/-- Only the driver or the guards change. -/
theorem set_driver (h : m.Mirrored) (d : δ) (g : List ObserverId) :
    ({ m with driver := d, guards := g } : Monitor δ).Mirrored :=
  h.congr (p := []) (by simp) (.refl _) rfl rfl h.grounded fun _ _ => rfl

/-- The topmost operation ends, and owes nobody who is still there anything. -/
theorem pop (h : m.Mirrored) {f : Frame} {r : List Frame} (hs : m.stack = f :: r)
    (hf : ∀ o ∈ m.observers, f.owes o = []) (d : δ) :
    ({ m with stack := r, driver := d } : Monitor δ).Mirrored := by
  have hground : Grounded (f :: r) := hs ▸ h.grounded
  refine h.congr (p := []) (by simp) (.refl _) rfl rfl hground.tail fun o ho => ?_
  rw [owed, owed, hs, List.flatMap_cons, hf o ho, List.nil_append]

/-- The topmost operation goes on and owes everybody who is still there the same. -/
theorem advance (h : m.Mirrored) {f g : Frame} {r : List Frame} (hs : m.stack = f :: r)
    (hg : ∀ next, g ≠ .await next) (hfg : ∀ o ∈ m.observers, g.owes o = f.owes o) :
    ({ m with stack := g :: r } : Monitor δ).Mirrored := by
  have hground : Grounded (f :: r) := hs ▸ h.grounded
  refine h.congr (p := []) (by simp) (.refl _) rfl rfl (.cons hg hground.tail) fun o ho => ?_
  rw [owed, owed, hs, List.flatMap_cons, List.flatMap_cons, hfg o ho]

/-- An operation that owes nobody anything makes no difference. -/
theorem push (h : m.Mirrored) {f : Frame} (hf : ∀ next, f ≠ .await next)
    (howes : ∀ o, f.owes o = []) : (m.push f).Mirrored := by
  refine h.congr (p := []) (by simp) (.refl _) rfl rfl (.cons hf h.grounded) fun o ho => ?_
  rw [owed, Monitor.push, List.flatMap_cons, howes, List.nil_append, owed]

/-- Signals that are no news make no difference. -/
theorem note (h : m.Mirrored) {s : Signal} (hs : s.isNews = false) : (m.note s).Mirrored := by
  have hone : ∀ t ∈ [s], t.isNews = false := by simpa using hs
  exact h.congr hone (.refl _) rfl rfl h.grounded fun _ _ => rfl

theorem grant (h : m.Mirrored) (guarded : Bool) (o : ObserverId) :
    (m.grant guarded o).Mirrored := by
  cases guarded with
  | false => exact h
  | true => exact h.set_driver m.driver (o :: m.guards)

/-! ## Steps that tell something -/

/-- The topmost operation tells an observer the next event that it owes it. -/
theorem tell (h : m.Mirrored) {f g : Frame} {r : List Frame} {o : ObserverId} {e : Event}
    (hs : m.stack = f :: r) (hg : ∀ next, g ≠ .await next) (hto : f.owes o = e :: g.owes o)
    (hothers : ∀ o', o' ≠ o → f.owes o' = g.owes o') :
    ((({ m with stack := g :: r } : Monitor δ).push (.callback o e)).note (.invoked o e)).Mirrored
    := by
  have hground : Grounded (f :: r) := hs ▸ h.grounded
  refine ⟨h.nodup, h.keyed, .cons (by simp) (.cons hg hground.tail), fun o' ho' => ?_⟩
  have hagrees := h.agrees o' ho'
  rw [owed, hs, List.flatMap_cons] at hagrees
  simp only [Monitor.note, Monitor.push, owed, List.flatMap_cons, Signal.toldSince]
  -- what is told is owed no longer, so told and owed together stay the same
  by_cases heq : o' = o
  · subst heq
    rw [hto] at hagrees
    simpa [Frame.owes] using hagrees
  · have hne : ¬ o = o' := fun hoo => heq hoo.symm
    rw [hothers o' heq] at hagrees
    simpa [Frame.owes, hne] using hagrees

/-- A snapshot comes while nothing is owed to anybody. From then on everybody is owed what the
snapshot changes. -/
theorem keep (h : m.Mirrored) {s : Snapshot} (hs : s.IsKeyed) (hidle : ∀ o, m.owed o = []) :
    (m.keep s).Mirrored := by
  refine ⟨h.nodup, hs, .cons (by simp) h.grounded, fun o ho => ?_⟩
  have hagrees := h.agrees o ho
  rw [hidle, List.append_nil] at hagrees
  have howed : (m.keep s).owed o = Snapshot.diff m.interfaces s := by
    have hrest : m.stack.flatMap (Frame.owes o) = [] := hidle o
    rw [owed, Monitor.keep, Monitor.push, List.flatMap_cons, owes_dispatch h.nodup ho, hrest,
      List.append_nil]
  rw [howed, Snapshot.applyEvents_append]
  exact Snapshot.applyEvents_diff_agrees hagrees h.keyed hs

/-- A snapshot that comes while nothing is owed is owed to everybody. -/
theorem keep? (h : m.Mirrored) {s : Option Snapshot} (hs : ∀ t, s = some t → t.IsKeyed)
    (hidle : ∀ o, m.owed o = []) : (m.keep? s).Mirrored := by
  cases s with
  | none => exact h
  | some s => exact h.keep (hs s rfl) hidle

/-- An observer that joins while nothing is owed to anybody is owed all that is known. -/
theorem beginReplay (h : m.Mirrored) (hidle : ∀ o, m.owed o = []) (o : ObserverId)
    (guarded : Bool) : (m.beginReplay o guarded).Mirrored := by
  rw [Monitor.beginReplay]
  split
  · exact h.grant guarded o
  · next ho =>
    have hnew : o ∉ m.observers := by simpa [isRegistered] using ho
    refine ⟨?_, h.keyed, .cons (by simp) h.grounded, fun o' ho' => ?_⟩
    · have hnodup := h.nodup.concat hnew
      rwa [List.concat_eq_append] at hnodup
    · have hrest : m.stack.flatMap (Frame.owes o') = [] := hidle o'
      simp only [Monitor.note, Monitor.push, owed, List.flatMap_cons, hrest, List.append_nil,
        Signal.toldSince, Frame.owes]
      by_cases heq : o = o'
      · -- the new observer: from nothing to all that is known
        rw [if_pos heq, if_pos heq, List.nil_append]
        exact Snapshot.applyEvents_diff_agrees (.refl _) Snapshot.isKeyed_empty h.keyed
      · rw [if_neg heq, if_neg heq, List.append_nil]
        have hold : o' ∈ m.observers := by
          rcases List.mem_append.1 ho' with hmem | hmem
          · exact hmem
          · exact absurd (List.mem_singleton.1 hmem).symm heq
        have hagrees := h.agrees o' hold
        rwa [hidle, List.append_nil] at hagrees

/-- While nothing is owed, an operation may go on after its wait. -/
theorem resume (h : m.Mirrored) (hidle : ∀ o, m.owed o = []) (next : Awaiting) :
    (m.resume next).Mirrored := by
  cases next with
  | register o guarded => exact h.beginReplay hidle o guarded
  | query => exact h.note rfl
  | visit => exact h.push (by simp) fun _ => rfl

/-! ## Observers that leave, and the driver -/

variable [PollingDriver δ]

/-- Observers do not see what becomes of the driver. -/
theorem steer {c : Option DriverCall × Monitor δ} (h : c.2.Mirrored) : (steer c).Mirrored := by
  obtain ⟨p, hp, hcalls⟩ := steer_past c
  refine h.congr (fun s hs => Signal.isNews_of_isDriverCall (hcalls s hs)) ?_ ?_ hp ?_ ?_
  · rw [steer_observers]
  · rw [steer_interfaces]
  · rw [steer_stack]
    exact h.grounded
  · intro o _
    rw [owed, steer_stack, owed]

/-- The mirrors of those who stay do not change when one leaves. -/
theorem unregister (h : m.Mirrored) (o : ObserverId) : (m.unregister o).Mirrored := by
  apply steer
  obtain ⟨p, hp, hpast⟩ : ∃ p, (∀ s ∈ p, s.isNews = false) ∧ (m.remove o).2.past = p ++ m.past := by
    rw [remove_past]
    split
    · exact ⟨[.left o], by simp [Signal.isNews], rfl⟩
    · exact ⟨[], by simp, rfl⟩
  refine h.congr hp ?_ (remove_interfaces m o) hpast ?_ ?_
  · rw [remove_observers]
    exact List.filter_sublist
  · rw [remove_stack]
    exact h.grounded
  · intro o' _
    rw [owed, remove_stack, owed]

/-- When everybody leaves no mirror is left that could be wrong. -/
theorem shutdown (h : m.Mirrored) : m.shutdown.Mirrored := by
  apply steer
  refine h.congr ?_ ?_ (clear_interfaces m) (clear_past m) ?_ ?_
  · simp [Signal.isNews]
  · rw [clear_observers]
    exact List.nil_sublist _
  · rw [clear_stack]
    exact h.grounded
  · intro o' _
    rw [owed, clear_stack, owed]

/-- A replay ends when its observer was told everything or has left. -/
theorem endReplay (h : m.Mirrored) {o : ObserverId} {p : List Event} {first guarded : Bool}
    {r : List Frame} (hs : m.stack = .replay o p first guarded :: r)
    (ho : p = [] ∨ m.isRegistered o = false) :
    ({ m with stack := r }.endReplay o first guarded).Mirrored := by
  apply grant
  apply steer
  have hpop := h.pop hs ?_ m.driver
  · exact hpop.congr (p := []) (by simp) (.refl _) rfl rfl hpop.grounded fun _ _ => rfl
  · intro o' ho'
    rw [Frame.owes]
    split
    · next heq =>
      subst heq
      rcases ho with hnil | hleft
      · exact hnil
      · exact absurd ho' (by simpa [isRegistered] using hleft)
    · rfl

end Mirrored

/-- While nothing is under way, the map that an observer keeps agrees with the snapshot. -/
theorem Mirrored.mirror_agrees {m : Monitor δ} (h : m.Mirrored) (hidle : m.stack = []) :
    ∀ o ∈ m.observers, (m.mirror o).Agrees m.interfaces := by
  intro o ho
  have hagrees := h.agrees o ho
  rwa [owed, hidle, List.flatMap_nil, List.append_nil] at hagrees

/-! ## Steps and runs -/

/-- The snapshot that the driver hands over when a request is made. -/
def handedOver [PollingDriver δ] (m : Monitor δ) : Request → Option Snapshot
  | .deliver s => some s
  | .poll => (PollingDriver.beginPoll m.driver).1.bind (·.2)
  | .unregister _ => none
  | .release _ => none
  | .shutdown => none
  | _ => (PollingDriver.beginWait m.driver).bind (·.1)

/-- A request that waits hands over what the wait has fetched. -/
theorem handedOver_of_beginWait [PollingDriver δ] {m : Monitor δ} {r : Request} {next : Awaiting}
    {s : Option Snapshot} {d : δ} (hr : r.awaiting = some next)
    (hd : PollingDriver.beginWait m.driver = some (s, d)) : m.handedOver r = s := by
  cases r <;> simp_all [handedOver, Request.awaiting]

/-- A round hands over what it has fetched. -/
theorem handedOver_of_beginPoll [PollingDriver δ] {m : Monitor δ} {n : Nat} {s : Option Snapshot}
    {d : δ} (hd : PollingDriver.beginPoll m.driver = (some (n, s), d)) : m.handedOver .poll = s := by
  rw [handedOver, hd]
  rfl

/-- A step by which nobody who is called asks for anything, and by which only snapshots come whose
records stand under their own ids. -/
def Calm [PollingDriver δ] (m : Monitor δ) : Label → Prop
  | .request r => m.stack = [] ∧ ∀ s ∈ m.handedOver r, s.IsKeyed
  | _ => True

instance [PollingDriver δ] (m : Monitor δ) (l : Label) : Decidable (m.Calm l) :=
  match l with
  | .request r =>
    have : Decidable (m.stack = []) := decidable_of_iff (m.stack.isEmpty = true) List.isEmpty_iff
    inferInstanceAs (Decidable (m.stack = [] ∧ ∀ s ∈ m.handedOver r, s.IsKeyed))
  | .finish => isTrue trivial
  | .panic => isTrue trivial
  | .proceed => isTrue trivial

variable [PollingDriver δ]

/-- A calm step keeps every mirror up to date, up to what is still owed. -/
theorem Mirrored.step {m m' : Monitor δ} {l : Label} (h : m.Mirrored) (hcalm : m.Calm l)
    (hstep : m.step l = some m') : m'.Mirrored := by
  have hfree (hs : m.stack = []) (o : ObserverId) : m.owed o = [] := by
    rw [owed, hs, List.flatMap_nil]
  cases Transition.of_step hstep with
  | @await r next s d _ hr hd =>
    -- the request comes while nothing is under way, and the wait lies at the bottom
    obtain ⟨hidle, hkeyed⟩ := hcalm
    have hawait : (({ m with driver := d } : Monitor δ).push (.await next)).Mirrored := by
      refine (h.set_driver d m.guards).congr (p := []) (by simp) (.refl _) rfl rfl ?_ ?_
      · rw [Monitor.push, hidle]
        exact .await next
      · intro o _
        rfl
    refine hawait.keep? (fun t ht => hkeyed t ?_) fun o => ?_
    · rw [handedOver_of_beginWait hr hd, ht]
      rfl
    · exact hfree hidle o
  | release _ ho => exact (h.set_driver m.driver _).unregister _
  | unregister _ => exact h.unregister _
  | shutdown _ => exact h.shutdown
  | deliver _ => exact h.keep (hcalm.2 _ rfl) (hfree hcalm.1)
  | idle _ hd => exact h.set_driver _ m.guards
  | @poll n s d _ hd =>
    obtain ⟨hidle, hkeyed⟩ := hcalm
    have hpoll := (h.set_driver d m.guards).push (f := .poll n) (by simp) fun _ => rfl
    refine hpoll.keep? (fun t ht => hkeyed t ?_) fun o => ?_
    · rw [handedOver_of_beginPoll hd, ht]
      rfl
    · exact hfree hidle o
  | @resume next r hs =>
    have hnil : r = [] := Grounded.eq_nil_of_await (hs ▸ h.grounded)
    subst hnil
    exact (h.pop hs (fun _ _ => rfl) _).resume (fun _ => rfl) next
  | dispatched hs => exact h.pop hs (fun _ _ => rfl) m.driver
  | tell hs ho =>
    -- an event goes from what is owed to what was told
    exact h.tell hs (by simp) (Frame.owes_dispatch_self _ _ _) fun o' ho' =>
      Frame.owes_dispatch_of_ne ho' _ _
  | @skip e o p r hs ho =>
    -- what an observer that has left was owed is dropped, and nobody else is owed less
    have hleft : o ∉ m.observers := by simpa [isRegistered] using ho
    refine h.advance hs (by simp) fun o' ho' => ?_
    have hne : o' ≠ o := fun heq => hleft (heq ▸ ho')
    exact (Frame.owes_dispatch_of_ne hne e p).symm
  | @replay o e p first guarded r hs ho =>
    refine h.tell hs (by simp) (by simp [Frame.owes]) fun o' ho' => ?_
    have hne : ¬ o = o' := fun heq => ho' heq.symm
    simp [Frame.owes, hne]
  | replayed hs ho => exact h.endReplay hs ho
  | visited hs => exact h.pop hs (fun _ _ => rfl) m.driver
  | @visit i p r hs =>
    have hvisits := h.advance (g := .visits p) hs (by simp) fun _ _ => rfl
    exact (hvisits.push (f := .visit i) (by simp) fun _ => rfl).note rfl
  | polled hs => exact h.pop hs (fun _ _ => rfl) _
  | returned hs hf hl => exact h.pop hs (fun o _ => Frame.owes_of_isCall hf o) m.driver

/-- A step without a request is always calm. -/
theorem Mirrored.quietStep {m : Monitor δ} (h : m.Mirrored) : m.quietStep.Mirrored := by
  by_cases hs : m.stack = []
  · rwa [quietStep_of_idle hs]
  · obtain ⟨l, hl, hstep⟩ := quietStep_transition hs
    refine h.step ?_ hstep
    cases l with
    | request r => exact absurd rfl (hl r)
    | _ => trivial

/-- Mirrors stay right while everything under way comes to its end. -/
theorem Mirrored.settle {m : Monitor δ} (h : m.Mirrored) : m.settle.Mirrored := by
  rw [Monitor.settle]
  generalize m.work = n
  induction n with
  | zero => exact h
  | succ n ih => exact ih.quietStep

/-! ## Main result -/

/-- Observers that ask nothing of the monitor, whether they fail or not, always know what the
monitor knows: in every run, whenever nothing is under way, the map that an observer keeps agrees
with the retained snapshot, and whatever is under way comes to an end with the same. -/
theorem observers_mirror_snapshot {d : δ} {ls : List Label} {m : Monitor δ}
    (h : (new d).run ls = some m) (hcalm : (new d).Along Calm ls) :
    (m.stack = [] → ∀ o ∈ m.observers, (m.mirror o).Agrees m.interfaces) ∧
      m.settle.stack = [] ∧
      ∀ o ∈ m.settle.observers, (m.settle.mirror o).Agrees m.settle.interfaces := by
  have hm : m.Mirrored :=
    run_induction_along (fun _ _ _ hm hl hstep => hm.step hl hstep) (mirrored_new d) hcalm h
  exact ⟨hm.mirror_agrees, m.settle_stack, hm.settle.mirror_agrees m.settle_stack⟩

/-- Steps in which an observer joins and fails when it is told of the first interface, the interface
changes and another one comes, and a second observer joins. -/
def calmLabels : List Label :=
  [.request (.register 0), .proceed, .proceed, .proceed, .panic, .proceed,
    .request (.deliver ((Keyed.empty.insert "lo" { Interface.new "lo" .loopback with
      isEnabled := true, description := "loop" }).insert "eth0" (.new "eth0" .ethernet))),
    .proceed, .finish, .proceed, .panic, .proceed,
    .request (.register 1), .proceed, .proceed, .finish, .proceed, .finish, .proceed]

/-- Two observers come, one after the other, and both have the snapshot in the end. -/
theorem observers_mirror_snapshot_calm :
    ∃ m, (new (ManualDriver.new (some (Keyed.empty.insert "lo" (.new "lo" .loopback))))).run
        calmLabels = some m ∧
      (new (ManualDriver.new (some (Keyed.empty.insert "lo" (.new "lo" .loopback))))).Along Calm
        calmLabels ∧
      m.stack = [] ∧ m.observers = [0, 1] ∧ (m.mirror 0).Agrees m.interfaces ∧
      (m.mirror 1).Agrees m.interfaces := by
  obtain ⟨m, hrun, hidle, hobservers⟩ : ∃ m, (new (ManualDriver.new (some (Keyed.empty.insert "lo"
      (.new "lo" .loopback))))).run calmLabels = some m ∧ m.stack = [] ∧ m.observers = [0, 1] :=
    ⟨_, rfl, rfl, rfl⟩
  have hcalm : (new (ManualDriver.new (some (Keyed.empty.insert "lo"
      (.new "lo" .loopback))))).Along Calm calmLabels := by
    decide +kernel
  obtain ⟨hagrees, -, -⟩ := observers_mirror_snapshot hrun hcalm
  refine ⟨m, hrun, hcalm, hidle, hobservers, hagrees hidle 0 ?_, hagrees hidle 1 ?_⟩
  · simp [hobservers]
  · simp [hobservers]

end Monitor
end LinkWatch
