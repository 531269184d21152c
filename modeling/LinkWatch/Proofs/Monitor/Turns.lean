import Mathlib.Data.List.Nodup
import Mathlib.Data.List.ProdSigma
import LinkWatch.Proofs.Monitor.Failure
import LinkWatch.Proofs.Monitor.Period

/-!
# A snapshot is handed out in turns

A snapshot brings turns about: one for each event and each observer of the moment, event by event
and among those in the order of registration. Between two turns the observer that is told something
may dismiss others and make newcomers join. The turn of an observer that was dismissed by then is
passed over, and newcomers have no turns; they are told what is known when they join.

`Dispatching` follows the turns that are left through a run. It gives what a dispatch tells, from
the steps of the run alone (`InTurn`), and that whoever joins in the meantime is a newcomer. What a
newcomer is told from joining on is the replay of the new snapshot, and behind it what replays to it
from before had left when it was dismissed and joined anew (`Replayed`).
-/

namespace LinkWatch

/-- True when an observer is asked to be added to the list. -/
def Label.registers (o : ObserverId) : Label → Bool
  | .request (.register o') => o' == o
  | .request (.subscribe o') => o' == o
  | _ => false

/-- True when an observer is taken off the list. -/
def Label.dismisses (o : ObserverId) : Label → Bool
  | .request r => r.dismisses o
  | _ => false

theorem Label.registers_of_awaiting {l : Label} {o : ObserverId} {guarded : Bool}
    (h : l.awaiting = some (.register o guarded)) : l.registers o = true := by
  cases l with
  | request r => cases r <;> simp_all [awaiting, Request.awaiting, registers]
  | _ => cases h

namespace Monitor

variable {δ : Type} {m m' : Monitor δ} {l : Label} {o : ObserverId}

/-! ## Turns -/

/-- The event and the observer whose turn it is in the dispatch that has so many operations below
it. -/
def turn (depth : Nat) (m : Monitor δ) : Option (Event × ObserverId) :=
  match m.stack with
  | .dispatch (x :: _) :: r => if r.length = depth then some x else none
  | _ => none

/-- What is told in a step. -/
def toldIn (m m' : Monitor δ) : List (Event × ObserverId) :=
  (m'.told.take (m'.told.length - m.told.length)).map Prod.swap

/-- The pairs whose observer was not dismissed in the steps before their turn. -/
def spared (pairs : List (Event × ObserverId)) (turns : List (List Label)) :
    List (Event × ObserverId) :=
  ((pairs.zip turns).filter fun t => t.2.all fun l => !l.dismisses t.1.2).map (·.1)

/-- A pair is spared if nobody has dismissed its observer by the time of its turn. -/
theorem spared_cons (x : Event × ObserverId) (pairs : List (Event × ObserverId)) (t : List Label)
    (turns : List (List Label)) :
    spared (x :: pairs) (t :: turns) =
      (if t.all (fun l => !l.dismisses x.2) then [x] else []) ++ spared pairs turns := by
  rw [spared, List.zip_cons_cons, List.filter_cons]
  split <;> rfl

/-- The pairs that are spared keep their order. -/
theorem spared_sublist (pairs : List (Event × ObserverId)) (turns : List (List Label)) :
    (spared pairs turns).Sublist pairs := by
  induction pairs generalizing turns with
  | nil => exact List.nil_sublist _
  | cons x pairs ih =>
    cases turns with
    | nil => exact List.nil_sublist _
    | cons t turns =>
      rw [spared_cons]
      split
      · exact (ih turns).cons_cons x
      · exact (ih turns).cons x

variable [PollingDriver δ]

/-- For each turn that comes in a run, the steps that were made before it. -/
def turns (depth : Nat) (earlier : List Label) (m : Monitor δ) : List Label → List (List Label)
  | [] => []
  | l :: ls =>
    (m.turn depth).toList.map (fun _ => earlier) ++
      match m.step l with
      | some m' => turns depth (earlier ++ [l]) m' ls
      | none => []

/-- What a dispatch tells in a run: what is told in its turns. -/
def handedOut (depth : Nat) (m : Monitor δ) : List Label → List (Event × ObserverId)
  | [] => []
  | l :: ls =>
    match m.step l with
    | some m' => (m.turn depth).toList.flatMap (fun _ => m.toldIn m') ++ handedOut depth m' ls
    | none => []

/-- A step while more than so many operations are under way, by which no snapshot is handed over and
none of some observers is asked to be added. -/
def During (depth : Nat) (os : List ObserverId) (m : Monitor δ) (l : Label) : Prop :=
  depth < m.stack.length ∧ m.DeliversNothing l ∧ ∀ o ∈ os, l.registers o = false

instance (depth : Nat) (os : List ObserverId) (m : Monitor δ) (l : Label) :
    Decidable (m.During depth os l) :=
  have : Decidable (m.DeliversNothing l) :=
    decidable_of_iff ((m.delivered l).isNone = true) Option.isNone_iff_eq_none
  inferInstanceAs (Decidable (_ ∧ _ ∧ _))

/-! ## The beginning -/

/-- A snapshot that is handed over is retained, and a turn comes for each of its events and each
observer of the moment. -/
theorem Transition.stack_of_delivered {s : Snapshot} (h : Transition m l m')
    (hs : m.delivered l = some s) :
    m'.interfaces = s ∧ m'.observers = m.observers ∧
      m'.stack = .dispatch ((Snapshot.diff m.interfaces s).product m.observers) :: m'.stack.tail := by
  cases h with
  | @await r next s' d _ hr hd =>
    rw [delivered, handedOver_of_beginWait hr hd] at hs
    subst hs
    exact ⟨rfl, rfl, rfl⟩
  | deliver _ =>
    cases hs
    exact ⟨rfl, rfl, rfl⟩
  | @poll n s' d _ hd =>
    rw [delivered, handedOver_of_beginPoll hd] at hs
    subst hs
    exact ⟨rfl, rfl, rfl⟩
  | idle _ hd => simp [delivered, handedOver, hd] at hs
  | returned _ _ hl => rcases hl with rfl | rfl <;> cases hs
  | _ => cases hs

/-! ## One step -/

/-- Who is registered after a step was registered before it and was not dismissed in it, unless the
step is where a registration adds its observer. -/
theorem Transition.isRegistered_eq (h : Transition m l m') (ho : ¬ m.Admits o) :
    m'.isRegistered o = (m.isRegistered o && !l.dismisses o) := by
  by_cases hl : ∀ r, l ≠ .request r
  · -- nobody leaves, and whoever is added is another observer
    have hkept : l.dismisses o = false := by
      cases l with
      | request r => exact absurd rfl (hl r)
      | _ => rfl
    rcases h.observers_of_not_request hl with hsame | ⟨o', -, hadmits, hadded⟩
    · simp [isRegistered, hsame, hkept]
    · have hne : o ≠ o' := by
        rintro rfl
        exact ho hadmits
      simp [isRegistered, hadded, hkept, hne]
  · obtain ⟨r, rfl⟩ : ∃ r, l = .request r := by simpa using hl
    simp [isRegistered, h.observers_of_request, Label.dismisses]

omit [PollingDriver δ] in
/-- While another operation is on top, no pair has its turn. -/
theorem turn_of_interrupted {f : Frame} {s r : List Frame} {p : List (Event × ObserverId)}
    (hs : m.stack = f :: (s ++ .dispatch p :: r)) : m.turn r.length = none := by
  rw [turn, hs]
  split
  · next x q r' hr' =>
    -- a dispatch on top has more below it than the interrupted one
    rw [List.cons.injEq] at hr'
    rw [if_neg]
    intro hlength
    have hlong := congrArg List.length hr'.2
    rw [List.length_append, List.length_cons] at hlong
    omega
  · rfl

/-- A dispatch that nobody interrupts ends when no turns are left, and otherwise tells the observer
whose turn it is, or passes it over if it has left. -/
theorem Transition.of_dispatch (h : Transition m l m') {p : List (Event × ObserverId)}
    {r : List Frame} (hs : m.stack = .dispatch p :: r) :
    p = [] ∧ m'.stack = r ∨
      ∃ e o q, p = (e, o) :: q ∧
        (m.isRegistered o = true ∧ m'.stack = .callback o e :: .dispatch q :: r ∧
            m'.told = (o, e) :: m.told ∨
          m.isRegistered o = false ∧ m'.stack = .dispatch q :: r ∧ m'.told = m.told) := by
  have hclosed : m.isOpen = false := by rw [isOpen, hs]
  cases h with
  | await hopen | release hopen | unregister hopen | shutdown hopen | deliver hopen | idle hopen
  | poll hopen =>
    rw [hclosed] at hopen
    cases hopen
  | resume hs' | visited hs' | visit hs' | replay hs' | replayed hs' | polled hs' =>
    rw [hs] at hs'
    cases hs'
  | dispatched hs' =>
    rw [hs] at hs'
    cases hs'
    exact .inl ⟨rfl, rfl⟩
  | tell hs' ho =>
    rw [hs] at hs'
    cases hs'
    exact .inr ⟨_, _, _, rfl, .inl ⟨ho, rfl, rfl⟩⟩
  | skip hs' ho =>
    rw [hs] at hs'
    cases hs'
    exact .inr ⟨_, _, _, rfl, .inr ⟨ho, rfl, rfl⟩⟩
  | returned hs' hf =>
    rw [hs] at hs'
    cases hs'
    cases hf

/-- A dispatch is under way right above some operations, with some of its turns left. Nobody who had
a turn is waiting to join above it, so that those of them who are registered are those who were not
dismissed since it began. -/
structure Dispatching (os : List ObserverId) (r : List Frame) (pairs : List (Event × ObserverId))
    (earlier : List Label) (m : Monitor δ) : Prop where
  stack : ∃ s, m.stack = s ++ .dispatch pairs :: r ∧
    ∀ o ∈ os, ∀ guarded, .await (.register o guarded) ∉ s
  among : ∀ x ∈ pairs, x.2 ∈ os
  isRegistered_eq : ∀ o ∈ os, m.isRegistered o = earlier.all fun l => !l.dismisses o

/-- What a step does to a dispatch: it is interrupted and stays as it is, or it has a turn, or it
ends. -/
inductive Dispatching.Step (os : List ObserverId) (r : List Frame)
    (pairs : List (Event × ObserverId)) (earlier : List Label) (m m' : Monitor δ) (l : Label) : Prop
  | interrupted (hturn : m.turn r.length = none)
      (h : Dispatching os r pairs (earlier ++ [l]) m')
  | turn {x : Event × ObserverId} {q : List (Event × ObserverId)} (hp : pairs = x :: q)
      (hturn : m.turn r.length = some x)
      (htold : m.toldIn m' = if earlier.all (fun l => !l.dismisses x.2) then [x] else [])
      (h : Dispatching os r q (earlier ++ [l]) m')
  | ended (hp : pairs = []) (hturn : m.turn r.length = none) (h : m'.stack = r)

namespace Dispatching

variable {os : List ObserverId} {r : List Frame} {pairs : List (Event × ObserverId)}
  {earlier : List Label}

omit [PollingDriver δ] in
/-- Nobody who had a turn is added to the list while the dispatch is under way. -/
theorem not_admits (h : Dispatching os r pairs earlier m) (ho : o ∈ os) : ¬ m.Admits o := by
  rintro ⟨⟨guarded, r', hawait⟩, -⟩
  obtain ⟨s, hs, hwaits⟩ := h.stack
  rw [hs] at hawait
  cases s with
  | nil => cases hawait
  | cons f s =>
    obtain ⟨rfl, -⟩ := List.cons.inj hawait
    exact hwaits o ho guarded List.mem_cons_self

/-- An observer that does not come back is registered until it is dismissed. -/
theorem registered_step (h : Dispatching os r pairs earlier m) (hstep : m.step l = some m') :
    ∀ o ∈ os, m'.isRegistered o = (earlier ++ [l]).all fun l => !l.dismisses o := by
  intro o ho
  rw [(Transition.of_step hstep).isRegistered_eq (h.not_admits ho), h.isRegistered_eq o ho,
    List.all_append, List.all_cons, List.all_nil, Bool.and_true]

/-- A step hands out the next pair, or passes it over, or leaves the dispatch where it is. -/
theorem step (h : Dispatching os r pairs earlier m) (hl : ∀ o ∈ os, l.registers o = false)
    (hstep : m.step l = some m') : Step os r pairs earlier m m' l := by
  have htransition := Transition.of_step hstep
  have hregistered := h.registered_step hstep
  obtain ⟨s, hs, hwaits⟩ := h.stack
  cases s with
  | cons f s =>
    -- what interrupts the dispatch leaves it where it is
    refine .interrupted (turn_of_interrupted hs) ⟨?_, h.among, hregistered⟩
    obtain ⟨p, -, hp, hstack⟩ := htransition.stack_eq_append
    have hnew : ∀ o ∈ os, ∀ guarded, .await (.register o guarded) ∉ p := by
      intro o ho guarded hmem
      have hasked := Label.registers_of_awaiting (hp _ hmem)
      rw [hl o ho] at hasked
      cases hasked
    -- the topmost operation goes on, or it has ended
    rcases hstack with hstack | hstack
    · refine ⟨p ++ f :: s, by rw [hstack, hs, List.append_assoc], fun o ho guarded hmem => ?_⟩
      rcases List.mem_append.1 hmem with hmem | hmem
      · exact hnew o ho guarded hmem
      · exact hwaits o ho guarded hmem
    · rw [hs, List.cons_append, List.tail_cons, ← List.append_assoc] at hstack
      refine ⟨p ++ s, hstack, fun o ho guarded hmem => ?_⟩
      rcases List.mem_append.1 hmem with hmem | hmem
      · exact hnew o ho guarded hmem
      · exact hwaits o ho guarded (List.mem_cons_of_mem _ hmem)
  | nil =>
    -- the dispatch itself goes on
    rcases htransition.of_dispatch hs with ⟨rfl, hend⟩ | ⟨e, o, q, rfl, hcase⟩
    · exact .ended rfl (by rw [turn, hs]; rfl) hend
    · have hturn : m.turn r.length = some (e, o) := by
        rw [turn, hs]
        exact if_pos rfl
      obtain ⟨ho, hq⟩ := List.forall_mem_cons.1 h.among
      have hstayed := h.isRegistered_eq o ho
      rcases hcase with ⟨hon, hstack, htold⟩ | ⟨hoff, hstack, htold⟩
      · refine .turn rfl hturn ?_ ⟨⟨[.callback o e], hstack, by simp⟩, hq, hregistered⟩
        rw [if_pos (hstayed.symm.trans hon), toldIn, htold, List.length_cons,
          Nat.add_sub_cancel_left]
        rfl
      · refine .turn rfl hturn ?_ ⟨⟨[], hstack, by simp⟩, hq, hregistered⟩
        rw [if_neg (by rw [← hstayed, hoff]; exact Bool.false_ne_true), toldIn, htold,
          Nat.sub_self]
        rfl

omit [PollingDriver δ] in
/-- A dispatch under way is on the stack. -/
theorem lt_length (h : Dispatching os r pairs earlier m) : r.length < m.stack.length := by
  obtain ⟨s, hs, -⟩ := h.stack
  rw [hs, List.length_append, List.length_cons]
  omega

/-- A run in which more operations are under way before each step than below a dispatch makes no
step after the end of the dispatch. -/
theorem eq_nil_of_ended {ls : List Label} (hls : m.Along (During r.length os) ls)
    (hend : m.stack = r) : ls = [] := by
  cases ls with
  | nil => rfl
  | cons l ls =>
    have hunder := hls.1.1
    rw [hend] at hunder
    exact absurd hunder (Nat.lt_irrefl _)

/-- While more operations are under way than below a dispatch, it is one of them. -/
theorem run {ls : List Label} (h : Dispatching os r pairs earlier m) (hrun : m.run ls = some m')
    (hls : m.Along (During r.length os) ls) (hunder : r.length < m'.stack.length) :
    ∃ q, Dispatching os r q (earlier ++ ls) m' := by
  induction ls generalizing m pairs earlier with
  | nil =>
    cases hrun
    exact ⟨pairs, by rwa [List.append_nil]⟩
  | cons l ls ih =>
    obtain ⟨m₁, h₁, hrest⟩ := Option.bind_eq_some_iff.1 hrun
    obtain ⟨⟨-, -, hl⟩, hls'⟩ := hls
    have hshift : earlier ++ l :: ls = earlier ++ [l] ++ ls := by simp
    rw [hshift]
    rcases h.step hl h₁ with ⟨-, hnext⟩ | ⟨-, -, -, hnext⟩ | ⟨-, -, hend⟩
    · exact ih hnext hrest (hls' m₁ h₁)
    · exact ih hnext hrest (hls' m₁ h₁)
    · obtain rfl := eq_nil_of_ended (hls' m₁ h₁) hend
      cases hrest
      rw [hend] at hunder
      exact absurd hunder (Nat.lt_irrefl _)

end Dispatching

/-- What a dispatch with some turns left tells in a run: the pairs whose observer was not dismissed
before their turn, in order, as far as their turns have come; and they have all come when it
ends. -/
structure InTurn (r : List Frame) (pairs : List (Event × ObserverId)) (earlier : List Label)
    (m : Monitor δ) (ls : List Label) (m' : Monitor δ) : Prop where
  handedOut_eq : m.handedOut r.length ls = spared pairs (m.turns r.length earlier ls)
  length_le : (m.turns r.length earlier ls).length ≤ pairs.length
  complete : m'.stack = r → (m.turns r.length earlier ls).length = pairs.length

/-- All steps of a dispatch together hand the pairs out in turn. -/
theorem Dispatching.inTurn {os : List ObserverId} {r : List Frame}
    {pairs : List (Event × ObserverId)} {earlier ls : List Label}
    (h : Dispatching os r pairs earlier m) (hrun : m.run ls = some m')
    (hls : m.Along (During r.length os) ls) : InTurn r pairs earlier m ls m' := by
  induction ls generalizing m pairs earlier with
  | nil =>
    cases hrun
    refine ⟨by rw [spared, turns, List.zip_nil_right]; rfl, Nat.zero_le _, fun hend => ?_⟩
    have hunder := h.lt_length
    rw [hend] at hunder
    exact absurd hunder (Nat.lt_irrefl _)
  | cons l ls ih =>
    obtain ⟨m₁, h₁, hrest⟩ := Option.bind_eq_some_iff.1 hrun
    obtain ⟨⟨-, -, hl⟩, hls'⟩ := hls
    -- a step outside of the dispatch, a turn, or the end
    rcases h.step hl h₁ with ⟨hturn, hnext⟩ | @⟨x, q, rfl, hturn, htold, hnext⟩ | ⟨rfl, hturn, hend⟩
    · obtain ⟨heq, hle, hcomplete⟩ := ih hnext hrest (hls' m₁ h₁)
      constructor <;> simp only [turns, handedOut, hturn, h₁]
      · exact heq
      · exact hle
      · exact hcomplete
    · obtain ⟨heq, hle, hcomplete⟩ := ih hnext hrest (hls' m₁ h₁)
      constructor <;> simp only [turns, handedOut, hturn, h₁, Option.toList_some, List.map_cons,
        List.map_nil, List.cons_append, List.nil_append, List.length_cons]
      · rw [spared_cons, ← htold, heq]
        simp
      · exact Nat.succ_le_succ hle
      · exact fun hend => congrArg (· + 1) (hcomplete hend)
    · obtain rfl := Dispatching.eq_nil_of_ended (hls' m₁ h₁) hend
      constructor <;> simp [turns, handedOut, hturn, h₁, spared]

/-! ## Newcomers -/

/-- While no snapshot comes and an observer stays registered, what it is told is what it was owed. -/
theorem course_of_deliversNothing {ls : List Label} (h : m.run ls = some m')
    (hos : m.observers.Nodup)
    (hstays : m.Along (fun n l => n.DeliversNothing l ∧ n.isRegistered o = true) ls) :
    m'.course o = m.course o := by
  have hkept : m'.observers.Nodup ∧ m'.course o = m.course o := by
    refine run_induction_along (P := fun n => n.observers.Nodup ∧ n.course o = m.course o) ?_
      ⟨hos, rfl⟩ hstays h
    rintro n l n' ⟨hn, hcourse⟩ ⟨hnothing, ho⟩ hstep
    refine ⟨nodup_of_step hn hstep, ?_⟩
    rw [(Transition.of_step hstep).course hn ho, hnothing, newsOf, List.nil_append]
    exact hcourse
  exact hkept.2

/-- What an observer was told since it joined, up to a state before which it stayed registered, and
what it is still owed are the replay of a snapshot and what operations under way had left for it
before it joined. So it is told the replay as far as it has come while its registration is under
way, and all of it when the registration returns; and it is told nothing else unless there are
leftovers. -/
structure Replayed (s : Snapshot) (o : ObserverId) (m n : Monitor δ) : Prop where
  told_append_owed : Signal.toldSince o n.past ++ n.owed o = s.values.map .added ++ m.owed o
  underWay : m.stack.tail <:+ n.stack → Signal.toldSince o n.past <+: s.values.map .added
  returned : n.stack = m.stack.tail → Signal.toldSince o n.past = s.values.map .added
  cut_short_iff : Signal.toldSince o n.past <+: s.values.map .added ↔
    (m.owed o).take ((Signal.toldSince o n.past).length - s.size) = []

/-- Of two ways to cut a list, one part begins the other if nothing is left over. -/
theorem prefix_iff_of_append_eq_append {α : Type} {a b x y : List α} (h : a ++ b = x ++ y) :
    a <+: x ↔ y.take (a.length - x.length) = [] := by
  have ha : a = x.take a.length ++ y.take (a.length - x.length) := by
    rw [← List.take_append, ← h, List.take_left]
  constructor
  · intro hle
    rw [Nat.sub_eq_zero_of_le hle.length_le, List.take_zero]
  · intro hnone
    rw [hnone, List.append_nil] at ha
    rw [ha]
    exact List.take_prefix _ _

/-- An observer that joins is owed the snapshot of that moment, and what replays under way had left
for it. -/
theorem Transition.replayed_of_joining {k n : Monitor δ} {ls : List Label} (h : Transition m l k)
    (ho : m.isRegistered o = false) (ho' : k.isRegistered o = true) (hos : k.observers.Nodup)
    (hrun : k.run ls = some n)
    (hstays : k.Along (fun n l => n.DeliversNothing l ∧ n.isRegistered o = true) ls) :
    Replayed m.interfaces o m n := by
  have hcourse : n.course o = m.interfaces.values.map .added ++ m.owed o := by
    rw [course_of_deliversNothing hrun hos hstays, (course_of_joining h ho ho').1,
      Snapshot.diff_empty]
  -- the registration itself owes nothing to anybody before its replay begins
  have howed : m.owed o = m.stack.tail.flatMap (Frame.owes o) := by
    obtain ⟨-, ⟨guarded, r, hs⟩, -⟩ := h.admits ho ho'
    rw [owed, hs]
    rfl
  refine ⟨hcourse, fun hunderWay => ?_, fun hreturned => ?_, ?_⟩
  · obtain ⟨p, hp⟩ := hunderWay
    rw [Monitor.course, howed, owed, ← hp, List.flatMap_append, ← List.append_assoc] at hcourse
    exact ⟨_, List.append_cancel_right hcourse⟩
  · rw [Monitor.course, howed, owed, hreturned] at hcourse
    exact List.append_cancel_right hcourse
  · have hsize : (m.interfaces.values.map Event.added).length = m.interfaces.size := by
      rw [List.length_map, Keyed.values, List.length_map, Keyed.size]
    rw [prefix_iff_of_append_eq_append hcourse, hsize]

/-! ## Main result -/

/-- A snapshot is handed over, and until the dispatch of what it changes has ended no other one comes
and none of the observers of the moment is asked to be added; otherwise observers may ask for
anything when they are told something.

The dispatch tells the observers of the moment what has changed, event by event and in the order of
registration, each pair at most once, and leaves out exactly those who were dismissed before their
turn. Whoever joins in the meantime is none of them, and from joining on is told the new snapshot in
key order, as far as the replay has come before it is dismissed; then it is told what replays to it
from before had left, and hence nothing else if and only if none of that is told. -/
theorem dispatch_tells_in_turn {d : δ} {before ls : List Label} {s : Snapshot} {n : Monitor δ}
    (hbefore : (new d).run before = some m) (hs : m.delivered l = some s)
    (hstep : m.step l = some m') (hrun : m'.run ls = some n)
    (hduring : m'.Along (During m'.stack.tail.length m.observers) ls) :
    InTurn m'.stack.tail ((Snapshot.diff m.interfaces s).product m.observers) [] m' ls n ∧
      (m'.handedOut m'.stack.tail.length ls).Sublist
        ((Snapshot.diff m.interfaces s).product m.observers) ∧
      (m.interfaces.IsKeyed → s.IsKeyed → (m'.handedOut m'.stack.tail.length ls).Nodup) ∧
      ∀ earlier label later k k' o, ls = earlier ++ label :: later →
        m'.run earlier = some k → k.step label = some k' → k.isRegistered o = false →
        k'.isRegistered o = true →
          o ∉ m.observers ∧
            ∀ stay rest n', later = stay ++ rest → k'.run stay = some n' →
              k'.Along (fun n _ => n.isRegistered o = true) stay → Replayed s o k n' := by
  obtain ⟨hinterfaces, hobservers, hstack⟩ := (Transition.of_step hstep).stack_of_delivered hs
  have hnodup : m.observers.Nodup := nodup_of_run hbefore
  have hbegun : Dispatching m.observers m'.stack.tail
      ((Snapshot.diff m.interfaces s).product m.observers) [] m' := by
    refine ⟨⟨[], hstack, by simp⟩, fun x hx => (List.mem_product.1 hx).2, fun o ho => ?_⟩
    rw [isRegistered_iff.2 (hobservers ▸ ho)]
    rfl
  have hturns := hbegun.inTurn hrun hduring
  have hsublist : (m'.handedOut m'.stack.tail.length ls).Sublist
      ((Snapshot.diff m.interfaces s).product m.observers) := by
    rw [hturns.handedOut_eq]
    exact spared_sublist _ _
  refine ⟨hturns, hsublist, fun hold hnew => ?_, ?_⟩
  · exact ((Snapshot.diff_exact_and_ordered hold hnew).2.2.1.product hnodup).sublist hsublist
  · rintro earlier label later k k' o rfl hk hk' ho ho'
    obtain ⟨hearlier, hrest⟩ := hduring.of_append
    obtain ⟨hlabel, hlater⟩ := hrest k hk
    have hjoin := Transition.of_step hk'
    have hsame : k.interfaces = s := by
      rw [interfaces_of_deliversNothing hk (hearlier.imp fun _ _ h => h.2.1), hinterfaces]
    obtain ⟨q, hq⟩ := hbegun.run hk hearlier hlabel.1
    refine ⟨fun hmem => hq.not_admits hmem (hjoin.admits ho ho').2, ?_⟩
    rintro stay rest n' rfl hstay hregistered
    have hos : k'.observers.Nodup := by
      have hm' : m'.observers.Nodup := hobservers ▸ hnodup
      have hkn : k.observers.Nodup :=
        run_induction (fun _ _ _ hm hstep => nodup_of_step hm hstep) hm' hk
      exact nodup_of_step hkn hk'
    have hnothing : k'.Along DeliversNothing stay :=
      ((hlater k' hk').of_append.1).imp fun _ _ h => h.2.1
    rw [← hsame]
    exact hjoin.replayed_of_joining ho ho' hos hstay (hnothing.and hregistered)

/-- Steps in which two observers join while nothing is known. -/
def pairLabels : List Label :=
  [.request (.register 0), .proceed, .proceed, .request (.register 1), .proceed, .proceed]

/-- Steps in which the first observer, when it is told of the first of two interfaces, dismisses the
second one and makes a third one join. -/
def replacingLabels : List Label :=
  [.proceed, .request (.unregister 1), .request (.register 2)]

/-- Steps in which the newcomer is told of both interfaces and its registration returns. -/
def newcomerLabels : List Label := [.proceed, .finish, .proceed, .finish, .proceed]

/-- Steps in which the first observer is told of the second interface, too, and the second one is
passed over twice. -/
def remainingLabels : List Label :=
  [.finish, .proceed, .proceed, .finish, .proceed, .proceed]

/-- An observer replaces another one by a newcomer in the middle of a dispatch. -/
theorem dispatch_tells_in_turn_replacing :
    ∃ m m' k k' n' n, (new (ManualDriver.new none)).run pairLabels = some m ∧
      m.delivered (.request (.deliver twoInterfaces)) = some twoInterfaces ∧
      m.step (.request (.deliver twoInterfaces)) = some m' ∧
      m'.run (replacingLabels ++ .proceed :: (newcomerLabels ++ remainingLabels)) = some n ∧
      m'.Along (During m'.stack.tail.length m.observers)
        (replacingLabels ++ .proceed :: (newcomerLabels ++ remainingLabels)) ∧
      m'.run replacingLabels = some k ∧ k.step .proceed = some k' ∧
      k.isRegistered 2 = false ∧ k'.isRegistered 2 = true ∧ k'.run newcomerLabels = some n' ∧
      k'.Along (fun n _ => n.isRegistered 2 = true) newcomerLabels ∧
      m'.stack.tail = [] ∧ m.observers = [0, 1] ∧
      (m'.turns 0 [] (replacingLabels ++ .proceed :: (newcomerLabels ++ remainingLabels))).length =
        4 ∧
      m'.handedOut 0 (replacingLabels ++ .proceed :: (newcomerLabels ++ remainingLabels)) =
        [(.added (.new "eth0" .ethernet), 0), (.added (.new "lo" .loopback), 0)] ∧
      2 ∉ m.observers ∧
      Signal.toldSince 2 n'.past =
        [.added (.new "eth0" .ethernet), .added (.new "lo" .loopback)] := by
  obtain ⟨m, m', k, k', n', n, hbefore, hs, hstep, hrun, hk, hk', ho, ho', hstay, htail, hobservers,
      hended, hreturned, hpairs, hspared⟩ :
      ∃ m m' k k' n' n, (new (ManualDriver.new none)).run pairLabels = some m ∧
        m.delivered (.request (.deliver twoInterfaces)) = some twoInterfaces ∧
        m.step (.request (.deliver twoInterfaces)) = some m' ∧
        m'.run (replacingLabels ++ .proceed :: (newcomerLabels ++ remainingLabels)) = some n ∧
        m'.run replacingLabels = some k ∧ k.step .proceed = some k' ∧
        k.isRegistered 2 = false ∧ k'.isRegistered 2 = true ∧ k'.run newcomerLabels = some n' ∧
        m'.stack.tail = [] ∧ m.observers = [0, 1] ∧ n.stack = [] ∧ n'.stack = k.stack.tail ∧
        ((Snapshot.diff m.interfaces twoInterfaces).product m.observers).length = 4 ∧
        spared ((Snapshot.diff m.interfaces twoInterfaces).product m.observers)
          (m'.turns 0 [] (replacingLabels ++ .proceed :: (newcomerLabels ++ remainingLabels))) =
            [(.added (.new "eth0" .ethernet), 0), (.added (.new "lo" .loopback), 0)] :=
    ⟨_, _, _, _, _, _, rfl, rfl, rfl, rfl, rfl, rfl, rfl, rfl, rfl, rfl, rfl, rfl, rfl, rfl, rfl⟩
  have hduring : m'.Along (During m'.stack.tail.length m.observers)
      (replacingLabels ++ .proceed :: (newcomerLabels ++ remainingLabels)) := by
    cases hbefore
    cases hstep
    decide +kernel
  have hregistered : k'.Along (fun n _ => n.isRegistered 2 = true) newcomerLabels := by
    cases hbefore
    cases hstep
    cases hk
    cases hk'
    decide +kernel
  obtain ⟨hturns, -, -, hnewcomers⟩ := dispatch_tells_in_turn hbefore hs hstep hrun hduring
  obtain ⟨hnew, hreplayed⟩ := hnewcomers _ _ _ k k' 2 rfl hk hk' ho ho'
  have hreplay := (hreplayed _ _ n' rfl hstay hregistered).returned hreturned
  rw [htail] at hturns
  exact ⟨m, m', k, k', n', n, hbefore, hs, hstep, hrun, hduring, hk, hk', ho, ho', hstay,
    hregistered, htail, hobservers, (hturns.complete hended).trans hpairs,
    hturns.handedOut_eq.trans hspared, hnew, hreplay⟩

/-- Steps in which an observer joins while nothing is known. -/
def loneLabels : List Label := [.request (.register 0), .proceed, .proceed]

/-- Steps in which the observer, when it is told of the first of two interfaces, makes a newcomer
join, and the newcomer, when it is told of it, leaves and asks to come back. -/
def returningNewcomerLabels : List Label :=
  [.proceed, .request (.register 1), .proceed, .proceed, .request (.unregister 1),
    .request (.register 1)]

/-- Steps in which the newcomer is told of both interfaces, its second registration returns and then
the call that made it, and the first registration goes on. -/
def resumedLabels : List Label :=
  [.proceed, .finish, .proceed, .finish, .proceed, .finish, .proceed]

/-- A newcomer that leaves during the replay to it and comes back is told of an interface once more
after its second replay has ended: the first one was not cut short. -/
theorem replay_goes_on_after_return :
    ∃ m m' k k' n', (new (ManualDriver.new none)).run loneLabels = some m ∧
      m.delivered (.request (.deliver twoInterfaces)) = some twoInterfaces ∧
      m.step (.request (.deliver twoInterfaces)) = some m' ∧
      m'.Along (During m'.stack.tail.length m.observers)
        (returningNewcomerLabels ++ .proceed :: resumedLabels) ∧
      m'.run returningNewcomerLabels = some k ∧ k.step .proceed = some k' ∧
      k.isRegistered 1 = false ∧ k'.isRegistered 1 = true ∧ k'.run resumedLabels = some n' ∧
      k'.Along (fun n _ => n.isRegistered 1 = true) resumedLabels ∧
      Signal.toldSince 1 n'.past =
        [.added (.new "eth0" .ethernet), .added (.new "lo" .loopback),
          .added (.new "lo" .loopback)] ∧
      ¬ Signal.toldSince 1 n'.past <+: twoInterfaces.values.map .added :=
  ⟨_, _, _, _, _, rfl, rfl, rfl, by decide +kernel, rfl, rfl, rfl, rfl, rfl, by decide +kernel, rfl,
    by decide +kernel⟩

end Monitor
end LinkWatch
