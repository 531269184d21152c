import Mathlib.Tactic.ByContra
import LinkWatch.Proofs.Monitor.Presence

/-!
# Guards and registration

A guard takes its observer off the list when it ends, whether or not another guard of the same
observer is still alive: the list holds an observer once, and does not count its guards. So a guard
keeps its observer registered exactly as long as no other guard of this observer ends
(`kept_iff_releases_alone`). Here the guard of a subscription counts from the moment the observer is
added, although it is handed out only after the replay: the replay may be where another guard comes
and goes.
-/

namespace LinkWatch

/-- True for a request that dismisses observers without the end of a guard. -/
def Request.isDirect : Request → Bool
  | .unregister _ => true
  | .shutdown => true
  | _ => false

/-- True when a guard of an observer ends. -/
def Label.releases (o : ObserverId) : Label → Bool
  | .request (.release o') => o' == o
  | _ => false

theorem Label.eq_of_releases {o : ObserverId} {l : Label} (h : l.releases o = true) :
    l = .request (.release o) := by
  cases l with
  | request r =>
    cases r with
    | release o' => simpa [releases] using h
    | _ => cases h
  | _ => cases h

/-- True for a replay to an observer that hands out a guard at its end. -/
def Frame.pledges (o : ObserverId) : Frame → Bool
  | .replay o' _ _ guarded => guarded && o' == o
  | _ => false

theorem Frame.pledges_of_isCall {f : Frame} (hf : f.isCall = true) (o : ObserverId) :
    f.pledges o = false := by
  cases f with
  | replay o' p first guarded => cases hf
  | _ => rfl

namespace Monitor

variable {δ : Type} {m m' : Monitor δ} {l : Label} {o : ObserverId}

/-- How many guards of an observer are alive or about to be handed out. -/
def pledges (m : Monitor δ) (o : ObserverId) : Nat :=
  m.guards.count o + m.stack.countP (Frame.pledges o)

/-- An observer with a guard that is alive, or about to be handed out, is registered. -/
def Kept (m : Monitor δ) (o : ObserverId) : Prop := 0 < m.pledges o → m.isRegistered o = true

/-- A guard of an observer ends only when there is no other one. -/
def ReleasesAlone (o : ObserverId) (m : Monitor δ) (l : Label) : Prop :=
  l.releases o = true → m.pledges o = 1

instance (o : ObserverId) (m : Monitor δ) (l : Label) : Decidable (m.ReleasesAlone o l) :=
  inferInstanceAs (Decidable (l.releases o = true → m.pledges o = 1))

/-! ## What steps do to guards -/

theorem pledges_congr (hguards : m'.guards = m.guards)
    (hstack : m'.stack.countP (Frame.pledges o) = m.stack.countP (Frame.pledges o)) :
    m'.pledges o = m.pledges o := by
  rw [pledges, pledges, hguards, hstack]

@[simp] theorem releaseDriver_guards (m : Monitor δ) (emptied : Bool) :
    (m.releaseDriver emptied).2.guards = m.guards := by
  rcases m.releaseDriver_snd emptied with h | h <;> rw [h]

@[simp] theorem remove_guards (m : Monitor δ) (o : ObserverId) :
    (m.remove o).2.guards = m.guards := by
  rw [remove]
  split
  · rw [releaseDriver_guards]
    rfl
  · rfl

/-- A registration that goes on pledges at most a guard of its own observer, which is registered by
then. -/
theorem pledges_resume (m : Monitor δ) (next : Awaiting) (o : ObserverId) :
    (m.resume next).pledges o = m.pledges o ∨ (m.resume next).isRegistered o = true := by
  cases next with
  | register o' guarded =>
    by_cases heq : o' = o
    · -- it is in the list when its registration goes on, whether it was there or is added
      subst heq
      right
      rw [resume, beginReplay]
      split
      · next ho => rwa [isRegistered, grant_observers]
      · simp [isRegistered, push, note]
    · left
      have hne : (o' == o) = false := by simpa using heq
      rw [resume, beginReplay]
      split
      · cases guarded with
        | false => rfl
        | true => simp [grant, pledges, List.count_cons, hne]
      · simp [push, note, pledges, Frame.pledges, hne]
  | query => exact .inl rfl
  | visit => exact .inl (by simp [resume, push, pledges, Frame.pledges])

theorem pledges_keep? (m : Monitor δ) (s : Option Snapshot) (o : ObserverId) :
    (m.keep? s).pledges o = m.pledges o := by
  cases s with
  | none => rfl
  | some s => exact pledges_congr rfl (List.countP_cons_of_neg (by simp [Frame.pledges]))

variable [PollingDriver δ]

@[simp] theorem steer_guards (c : Option DriverCall × Monitor δ) :
    (steer c).guards = c.2.guards := by
  obtain ⟨_ | _ | _, m⟩ := c <;> rfl

theorem pledges_unregister (m : Monitor δ) (o o' : ObserverId) :
    (m.unregister o).pledges o' = m.pledges o' := by
  apply pledges_congr
  · rw [unregister, steer_guards, remove_guards]
  · rw [unregister, steer_stack, remove_stack]

/-- At the end of a replay the guard that it was to hand out is alive. -/
theorem pledges_endReplay {p : List Event} {first guarded : Bool} {r : List Frame}
    {o' : ObserverId} (hs : m.stack = .replay o' p first guarded :: r) :
    ({ m with stack := r }.endReplay o' first guarded).pledges o = m.pledges o := by
  have hsteer : (steer ({ m with stack := r }.closeReplay first)).guards = m.guards := by
    rw [steer_guards, closeReplay]
  rw [pledges, pledges, endReplay_stack, hs, endReplay]
  cases guarded with
  | false =>
    have hgrant := congrArg (List.count o) hsteer
    simpa [grant, Frame.pledges, List.countP_cons] using hgrant
  | true =>
    -- what the replay has pledged is a guard now
    rw [grant, if_pos rfl, hsteer, List.count_cons, List.countP_cons, Frame.pledges, Bool.true_and]
    exact (Nat.add_right_comm _ _ _).trans (Nat.add_assoc _ _ _)

/-- An observer comes to have more guards only while it is registered. -/
theorem Transition.pledges_le (h : Transition m l m') :
    m'.pledges o ≤ m.pledges o ∨ m'.isRegistered o = true := by
  cases h with
  | await _ _ _ | poll _ _ =>
    refine .inl (Nat.le_of_eq ?_)
    rw [pledges_keep?]
    exact pledges_congr rfl (List.countP_cons_of_neg (by simp [Frame.pledges]))
  | release _ _ =>
    left
    rw [pledges_unregister]
    exact Nat.add_le_add_right (List.erase_sublist.count_le o) _
  | unregister _ => exact .inl (Nat.le_of_eq (pledges_unregister m _ o))
  | shutdown _ =>
    refine .inl (Nat.le_of_eq (pledges_congr ?_ ?_))
    · rw [Monitor.shutdown, steer_guards, clear, releaseDriver_guards]
    · rw [Monitor.shutdown, steer_stack, clear_stack]
  | deliver _ => exact .inl (Nat.le_of_eq (pledges_keep? m (some _) o))
  | idle _ _ => exact .inl (Nat.le_refl _)
  | @resume next r hs =>
    refine (pledges_resume _ next o).imp_left fun hsame => ?_
    rw [hsame]
    refine Nat.le_of_eq (pledges_congr rfl ?_)
    rw [hs, List.countP_cons_of_neg (by simp [Frame.pledges])]
  | tell hs _ | skip hs _ | replay hs _ | visit hs =>
    refine .inl (Nat.le_of_eq (pledges_congr rfl ?_))
    rw [hs]
    simp [push, note, Frame.pledges, List.countP_cons]
  | replayed hs _ => exact .inl (Nat.le_of_eq (pledges_endReplay hs))
  | dispatched hs | visited hs | polled hs =>
    refine .inl (Nat.le_of_eq (pledges_congr rfl ?_))
    rw [hs]
    simp [Frame.pledges]
  | returned hs hf _ =>
    refine .inl (Nat.le_of_eq (pledges_congr rfl ?_))
    rw [hs, List.countP_cons_of_neg (by simp [Frame.pledges_of_isCall hf])]

/-- The end of a guard leaves one fewer. -/
theorem Transition.pledges_of_release (h : Transition m (.request (.release o)) m') :
    m.pledges o = m'.pledges o + 1 := by
  cases h with
  | await _ hr _ => cases hr
  | release _ ho =>
    have hpos := List.count_pos_iff.2 ho
    rw [pledges_unregister, pledges, pledges, List.count_erase_self]
    change _ = _ - 1 + m.stack.countP (Frame.pledges o) + 1
    omega
  | returned _ _ hl => simp at hl

/-! ## Main result -/

/-- A step keeps an observer registered that has a guard, unless it dismisses the observer directly
or ends one guard of several. -/
theorem Kept.step (h : m.Kept o) (hstep : m.step l = some m')
    (hdirect : ∀ r, l = .request r → r.isDirect = false) (halone : m.ReleasesAlone o l) :
    m'.Kept o := by
  have htransition := Transition.of_step hstep
  intro hpos
  rcases htransition.pledges_le (o := o) with hle | hregistered
  · -- only a request can have taken the observer off the list
    by_contra hgone
    obtain ⟨r, rfl, hr⟩ := htransition.dismisses (h (Nat.lt_of_lt_of_le hpos hle))
      (Bool.eq_false_iff.2 hgone)
    have hguarded := hdirect r rfl
    cases r with
    | release o' =>
      -- the guard that has ended was the only one, so none is left
      have hone := halone hr
      obtain rfl : o' = o := by simpa [Request.dismisses] using hr
      have hfewer := htransition.pledges_of_release
      omega
    | unregister o' => cases hguarded
    | shutdown => cases hguarded
    | _ => cases hr
  · exact hregistered

/-- Whoever is dismissed by the end of a guard is kept only if there is no other one. -/
theorem releasesAlone_of_kept (hstep : m.step l = some m') (h : m'.Kept o) :
    m.ReleasesAlone o l := by
  intro hl
  obtain rfl := Label.eq_of_releases hl
  have htransition := Transition.of_step hstep
  have hgone : m'.isRegistered o = false :=
    htransition.isRegistered_of_dismisses (by simp [Request.dismisses])
  have hnone : m'.pledges o = 0 := by
    by_contra hsome
    rw [h (Nat.pos_of_ne_zero hsome)] at hgone
    cases hgone
  rw [htransition.pledges_of_release, hnone]

/-- The moments of a run that begins with a step are the first one and those after the step. -/
theorem forall_moments_cons_iff {P : Monitor δ → Prop} {ls : List Label} {m₁ : Monitor δ}
    (h : m.step l = some m₁) :
    (∀ ls' n, ls' <+: l :: ls → m.run ls' = some n → P n) ↔
      P m ∧ ∀ ls' n, ls' <+: ls → m₁.run ls' = some n → P n := by
  constructor
  · intro hall
    refine ⟨hall [] m List.nil_prefix rfl, fun ls' n hprefix hn => ?_⟩
    refine hall (l :: ls') n ((List.prefix_cons_inj l).2 hprefix) ?_
    exact Option.bind_eq_some_iff.2 ⟨m₁, h, hn⟩
  · rintro ⟨hfirst, hrest⟩ ls' n hprefix hn
    cases ls' with
    | nil =>
      cases hn
      exact hfirst
    | cons l' ls' =>
      obtain ⟨rfl, hprefix'⟩ := List.cons_prefix_cons.1 hprefix
      obtain ⟨m₂, h₂, hn'⟩ := Option.bind_eq_some_iff.1 hn
      rw [h] at h₂
      cases h₂
      exact hrest ls' n hprefix' hn'

/-- From a state in which an observer is kept, it is kept throughout a run without direct dismissals
exactly if its guards end alone. -/
theorem kept_throughout_iff {ls : List Label} (h : m.run ls = some m') (hm : m.Kept o)
    (hdirect : ∀ r, .request r ∈ ls → r.isDirect = false) :
    (∀ ls' n, ls' <+: ls → m.run ls' = some n → n.Kept o) ↔ m.Along (ReleasesAlone o) ls := by
  induction ls generalizing m with
  | nil =>
    refine ⟨fun _ => trivial, fun _ ls' n hprefix hn => ?_⟩
    obtain rfl := List.prefix_nil.1 hprefix
    cases hn
    exact hm
  | cons l ls ih =>
    obtain ⟨m₁, h₁, hrun⟩ := Option.bind_eq_some_iff.1 h
    have hfirst : ∀ r, l = .request r → r.isDirect = false := fun r hr =>
      hdirect r (hr ▸ List.mem_cons_self)
    have hrest : ∀ r, .request r ∈ ls → r.isDirect = false := fun r hr =>
      hdirect r (List.mem_cons_of_mem _ hr)
    have halong : m.Along (ReleasesAlone o) (l :: ls) ↔
        m.ReleasesAlone o l ∧ m₁.Along (ReleasesAlone o) ls := by
      simp [Along, h₁]
    rw [forall_moments_cons_iff h₁, halong]
    constructor
    · rintro ⟨-, hkept⟩
      have hkept₁ := hkept [] m₁ List.nil_prefix rfl
      exact ⟨releasesAlone_of_kept h₁ hkept₁, (ih hrun hkept₁ hrest).1 hkept⟩
    · rintro ⟨halone, hlater⟩
      have hkept₁ := hm.step h₁ hfirst halone
      exact ⟨hm, (ih hrun hkept₁ hrest).2 hlater⟩

/-- In a run in which observers are dismissed by the end of guards alone, an observer is registered
at every moment at which it has a guard, alive or about to be handed out, if and only if no guard of
it ever ends while it has another one. -/
theorem kept_iff_releases_alone {d : δ} {ls : List Label} (h : (new d).run ls = some m)
    (hdirect : ∀ r, .request r ∈ ls → r.isDirect = false) (o : ObserverId) :
    (∀ ls' n, ls' <+: ls → (new d).run ls' = some n → n.Kept o) ↔
      (new d).Along (ReleasesAlone o) ls := by
  refine kept_throughout_iff h (fun hpos => ?_) hdirect
  exact absurd hpos (Nat.lt_irrefl 0)

/-- Steps in which an observer gets a guard, which ends before the observer gets another. -/
def guardInTurnLabels : List Label :=
  [.request (.subscribe 0), .proceed, .proceed, .request (.release 0), .request (.subscribe 0),
    .proceed, .proceed]

theorem kept_iff_releases_alone_in_turn :
    ∃ m, (new (ManualDriver.new none)).run guardInTurnLabels = some m ∧ m.guards = [0] ∧
      (∀ r, .request r ∈ guardInTurnLabels → r.isDirect = false) ∧
      (new (ManualDriver.new none)).Along (ReleasesAlone 0) guardInTurnLabels ∧
      ∀ ls n, ls <+: guardInTurnLabels → (new (ManualDriver.new none)).run ls = some n →
        n.Kept 0 := by
  obtain ⟨m, hrun, hguards⟩ :
      ∃ m, (new (ManualDriver.new none)).run guardInTurnLabels = some m ∧ m.guards = [0] :=
    ⟨_, rfl, rfl⟩
  have hdirect : ∀ r, .request r ∈ guardInTurnLabels → r.isDirect = false := by
    simp [guardInTurnLabels, Request.isDirect]
  have halone : (new (ManualDriver.new none)).Along (ReleasesAlone 0) guardInTurnLabels := by
    decide +kernel
  have hkept := (kept_iff_releases_alone hrun hdirect 0).2 halone
  exact ⟨m, hrun, hguards, hdirect, halone, hkept⟩

/-- Steps in which an observer gets two guards, one of which ends. -/
def guardTwiceLabels : List Label :=
  [.request (.subscribe 0), .proceed, .proceed, .request (.subscribe 0), .proceed,
    .request (.release 0)]

/-- A guard is alive, nobody has dismissed its observer directly, and the observer is not
registered. -/
theorem not_registered_with_guard :
    ∃ m, (new (ManualDriver.new none)).run guardTwiceLabels = some m ∧
      (∀ r, .request r ∈ guardTwiceLabels → r.isDirect = false) ∧ 0 ∈ m.guards ∧
      m.isRegistered 0 = false :=
  ⟨_, rfl, by simp [guardTwiceLabels, Request.isDirect], by decide, rfl⟩

end Monitor
end LinkWatch
