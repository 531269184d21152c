import LinkWatch.Proofs.Monitor.Current

/-!
# Failures of observers and visitors

An observer or a visitor may fail in the middle of whatever it has asked of the monitor. A failure
ends every operation under way up to the innermost one that catches it (`unwind`); what is left out
that way is never made up for. It turns out that nothing is left out: every call is made by an
operation that catches its failure (`Caught`), so that a failure ends the call alone, as a return
does.

A visit to every interface is followed through a run by the place of its frame in the stack
(`shown`), since visitors may visit in turn.
-/

namespace LinkWatch

/-- The same choice without a failure: who would fail returns. -/
def Label.calm : Label → Label
  | .panic => .finish
  | l => l

/-- What a choice waits for before it goes on, if it begins with a wait. -/
def Label.awaiting : Label → Option Awaiting
  | .request r => r.awaiting
  | _ => none

/-- Every call under way was made by an operation that catches its failure. -/
def Caught : List Frame → Prop
  | [] => True
  | f :: r => (f.isCall = true → ∃ g s, r = g :: s ∧ g.catches = true) ∧ Caught r

/-- Operations on top of caught ones are caught if they are by themselves. -/
theorem Caught.append {s r : List Frame} (hs : Caught s) (hr : Caught r) : Caught (s ++ r) := by
  induction s with
  | nil => exact hr
  | cons f s ih =>
    obtain ⟨hcall, hs⟩ := hs
    refine ⟨fun hf => ?_, ih hs⟩
    obtain ⟨g, s', rfl, hg⟩ := hcall hf
    exact ⟨g, s' ++ r, rfl, hg⟩

theorem Caught.tail {r : List Frame} (h : Caught r) : Caught r.tail := by
  cases r with
  | nil => trivial
  | cons f r => exact h.2

/-- An operation that makes calls only through catching ones is no danger. -/
theorem caught_of_not_call {f : Frame} {r : List Frame} (hf : f.isCall = false) (hr : Caught r) :
    Caught (f :: r) := by
  refine ⟨fun hcall => ?_, hr⟩
  rw [hf] at hcall
  cases hcall

/-- A call by an operation that catches its failure. -/
theorem caught_of_catches {f g : Frame} (hf : f.catches = true) : Caught [g, f] := by
  have hcall : f.isCall = false := by
    cases f with
    | callback | visit => cases hf
    | _ => rfl
  exact ⟨fun _ => ⟨f, [], rfl, hf⟩, caught_of_not_call hcall trivial⟩

/-- A failure goes no further than the operation that catches it. -/
theorem unwind_of_catches {f : Frame} (hf : f.catches = true) (r : List Frame) :
    unwind (f :: r) = f :: r :=
  if_pos hf

namespace Monitor

variable {δ : Type}

theorem keep?_stack_eq_append (s : Option Snapshot) (m : Monitor δ) :
    ∃ p, Caught p ∧ (∀ next, .await next ∉ p) ∧ (m.keep? s).stack = p ++ m.stack := by
  cases s with
  | none => exact ⟨[], trivial, by simp, rfl⟩
  | some s => exact ⟨[_], caught_of_not_call rfl trivial, by simp, rfl⟩

/-- A failure that is caught where the call was made ends the call alone. -/
theorem fail_eq_endCall {m : Monitor δ} (hm : Caught m.stack) : m.fail = m.endCall := by
  cases hs : m.stack with
  | nil => rw [fail, endCall, hs]
  | cons f r =>
    rw [hs] at hm
    cases f with
    | callback | visit =>
      -- the operation right below the call catches its failure
      obtain ⟨g, s, rfl, hg⟩ := hm.1 rfl
      simp only [fail, endCall, hs, Frame.isCall, if_true, unwind_of_catches hg]
    | _ => simp [fail, endCall, hs, Frame.isCall]

variable [PollingDriver δ] {m m' : Monitor δ} {l : Label}

/-- A run with failures can be cut into two anywhere. -/
theorem unwindingRun_append (m : Monitor δ) (ls ls' : List Label) :
    m.unwindingRun (ls ++ ls') = (m.unwindingRun ls).bind fun m => m.unwindingRun ls' := by
  induction ls generalizing m with
  | nil => rfl
  | cons l r ih =>
    rw [List.cons_append, unwindingRun, unwindingRun, Option.bind_assoc]
    exact Option.bind_congr fun n _ => ih n

/-! ## A failure ends the call alone -/

/-- A step ends at most the topmost operation, every call that it adds is one whose failure is
caught, and whatever waits from then on is what was asked for. -/
theorem Transition.stack_eq_append (h : Transition m l m') :
    ∃ p, Caught p ∧ (∀ next, .await next ∈ p → l.awaiting = some next) ∧
      (m'.stack = p ++ m.stack ∨ m'.stack = p ++ m.stack.tail) := by
  cases h with
  | @await r next s d _ hr =>
    obtain ⟨p, hp, hwaits, hstack⟩ :=
      keep?_stack_eq_append s ({ m with driver := d }.push (.await next))
    refine ⟨p ++ [.await next], hp.append (caught_of_not_call rfl trivial), ?_, .inl ?_⟩
    · intro next' hnext
      rcases List.mem_append.1 hnext with hkept | hwait
      · exact absurd hkept (hwaits next')
      · cases List.mem_singleton.1 hwait
        exact hr
    · rw [hstack, List.append_assoc]
      rfl
  | @poll n s d =>
    obtain ⟨p, hp, hwaits, hstack⟩ :=
      keep?_stack_eq_append s ({ m with driver := d }.push (.poll n))
    refine ⟨p ++ [.poll n], hp.append (caught_of_not_call rfl trivial), ?_, .inl ?_⟩
    · intro next hnext
      rcases List.mem_append.1 hnext with hkept | hpoll
      · exact absurd hkept (hwaits next)
      · cases List.mem_singleton.1 hpoll
    · rw [hstack, List.append_assoc]
      rfl
  | release | unregister => exact ⟨[], trivial, by simp, .inl (by simp [Monitor.unregister])⟩
  | shutdown => exact ⟨[], trivial, by simp, .inl (by simp [Monitor.shutdown])⟩
  | deliver => exact ⟨[_], caught_of_not_call rfl trivial, by simp, .inl rfl⟩
  | idle => exact ⟨[], trivial, by simp, .inl rfl⟩
  | @resume next r hs =>
    rw [hs]
    cases next with
    | register o guarded =>
      rw [Monitor.resume, beginReplay]
      split
      · exact ⟨[], trivial, by simp, .inr (grant_stack ..)⟩
      · exact ⟨[_], caught_of_not_call rfl trivial, by simp, .inr rfl⟩
    | query => exact ⟨[], trivial, by simp, .inr rfl⟩
    | visit => exact ⟨[_], caught_of_not_call rfl trivial, by simp, .inr rfl⟩
  | dispatched hs | visited hs | polled hs | returned hs =>
    rw [hs]
    exact ⟨[], trivial, by simp, .inr rfl⟩
  | skip hs =>
    rw [hs]
    exact ⟨[_], caught_of_not_call rfl trivial, by simp, .inr rfl⟩
  | tell hs | replay hs | visit hs =>
    -- a call, on top of the operation that makes it
    rw [hs]
    exact ⟨[_, _], caught_of_catches rfl, by simp, .inr rfl⟩
  | replayed hs =>
    rw [hs]
    exact ⟨[], trivial, by simp, .inr (endReplay_stack ..)⟩

/-- A step works on the topmost operation and puts others on top of the rest. -/
theorem Transition.tail_suffix (h : Transition m l m') : m.stack.tail <:+ m'.stack := by
  obtain ⟨p, -, -, hstack | hstack⟩ := h.stack_eq_append
  · exact hstack ▸ (List.tail_suffix _).trans (List.suffix_append p _)
  · exact hstack ▸ List.suffix_append p _

/-- Every call that a step makes is caught by the operation that makes it. -/
theorem Transition.caught (h : Transition m l m') (hm : Caught m.stack) : Caught m'.stack := by
  obtain ⟨p, hp, -, hstack | hstack⟩ := h.stack_eq_append
  · exact hstack ▸ hp.append hm
  · exact hstack ▸ hp.append hm.tail

/-- Where all calls are caught, a failure ends the call and nothing else. -/
theorem unwindingStep_eq (hm : Caught m.stack) (l : Label) : m.unwindingStep l = m.step l := by
  cases l with
  | panic => exact fail_eq_endCall hm
  | request | finish | proceed => rfl

/-- Where all calls are caught, a run with failures is a run in which calls return. -/
theorem unwindingRun_eq (hm : Caught m.stack) (ls : List Label) : m.unwindingRun ls = m.run ls := by
  induction ls generalizing m with
  | nil => rfl
  | cons l r ih =>
    rw [unwindingRun, run, unwindingStep_eq hm]
    refine Option.bind_congr fun n hn => ?_
    exact ih ((Transition.of_step hn).caught hm)

/-- Whoever fails might as well return. -/
theorem run_calm (m : Monitor δ) (ls : List Label) : m.run (ls.map Label.calm) = m.run ls := by
  induction ls generalizing m with
  | nil => rfl
  | cons l r ih =>
    have hstep : m.step l.calm = m.step l := by cases l <;> rfl
    rw [List.map_cons, run, run, hstep]
    exact Option.bind_congr fun n _ => ih n

/-! ## A visit to every interface -/

/-- What is shown in a step by the visit that has so many operations below it. -/
def shows (depth : Nat) (m : Monitor δ) : Label → List Interface
  | .proceed =>
    match m.stack with
    | .visits (i :: _) :: r => if r.length = depth then [i] else []
    | _ => []
  | _ => []

/-- What is shown in a run by the visit that has so many operations below it. -/
def shown (depth : Nat) (m : Monitor δ) : List Label → List Interface
  | [] => []
  | l :: ls => m.shows depth l ++
    match m.unwindingStep l with
    | some m' => shown depth m' ls
    | none => []

/-- A run in which the operation right above some others goes on until it returns. -/
structure Returns (r : List Frame) (m : Monitor δ) (ls : List Label) (m' : Monitor δ) : Prop where
  run : m.unwindingRun ls = some m'
  stack : m'.stack = r
  underWay : ∀ earlier later n, ls = earlier ++ later → later ≠ [] →
    m.unwindingRun earlier = some n → n.UnderWay r

theorem Returns.tail {r : List Frame} {ls : List Label} {m1 : Monitor δ}
    (h : Returns r m (l :: ls) m') (hstep : m.unwindingStep l = some m1) : Returns r m1 ls m' where
  run := by
    have hrun := h.run
    rwa [unwindingRun, hstep, Option.bind_some] at hrun
  stack := h.stack
  underWay := by
    intro earlier later n hls hlater hn
    refine h.underWay (l :: earlier) later n (by rw [hls, List.cons_append]) hlater ?_
    rw [unwindingRun, hstep, Option.bind_some, hn]

omit [PollingDriver δ] in
theorem not_underWay_of_stack {r : List Frame} (h : m.stack = r) : ¬ m.UnderWay r := by
  rintro ⟨f, hsuffix⟩
  have hle := hsuffix.length_le
  rw [h, List.length_cons] at hle
  exact Nat.not_succ_le_self _ hle

omit [PollingDriver δ] in
/-- A visit that is interrupted shows nothing. -/
theorem shows_of_interrupted {f : Frame} {s r : List Frame} {p : List Interface}
    (hs : m.stack = f :: (s ++ .visits p :: r)) (l : Label) : m.shows r.length l = [] := by
  cases l with
  | proceed =>
    simp only [shows]
    split
    · next i q r' hr' =>
      -- a visit on top has more below it than the interrupted one
      rw [hs, List.cons.injEq] at hr'
      rw [if_neg]
      intro hlength
      have hlong := congrArg List.length hr'.2
      rw [List.length_append, List.length_cons] at hlong
      omega
    · rfl
  | request | finish | panic => rfl

/-- A visit that nobody interrupts returns when it has shown everything, and goes on otherwise. -/
theorem Transition.of_visits (h : Transition m l m') {r : List Frame} {p : List Interface}
    (hs : m.stack = .visits p :: r) :
    l = .proceed ∧ (p = [] ∧ m'.stack = r ∨
      ∃ i q, p = i :: q ∧ m'.stack = .visit i :: .visits q :: r) := by
  -- the visit is on top, and nobody is being called
  have hclosed : m.isOpen = false := by rw [isOpen, hs]
  cases h with
  | await hopen | release hopen | unregister hopen | shutdown hopen | deliver hopen | idle hopen
  | poll hopen =>
    rw [hclosed] at hopen
    cases hopen
  | resume hs' | dispatched hs' | tell hs' | skip hs' | replay hs' | replayed hs' | polled hs' =>
    rw [hs] at hs'
    cases hs'
  | visited hs' =>
    rw [hs] at hs'
    cases hs'
    exact ⟨rfl, .inl ⟨rfl, rfl⟩⟩
  | visit hs' =>
    rw [hs] at hs'
    cases hs'
    exact ⟨rfl, .inr ⟨_, _, rfl, rfl⟩⟩
  | returned hs' hf =>
    rw [hs] at hs'
    cases hs'
    cases hf

/-- A visit that is to show some interfaces still shows them in order until it returns. -/
theorem Returns.shown_eq {r : List Frame} {ls : List Label} (h : Returns r m ls m')
    (hm : Caught m.stack) {s : List Frame} {p : List Interface}
    (hs : m.stack = s ++ .visits p :: r) : m.shown r.length ls = p := by
  induction ls generalizing m s p with
  | nil =>
    obtain rfl : m = m' := Option.some.inj h.run
    exact absurd ⟨.visits p, s, hs.symm⟩ (not_underWay_of_stack h.stack)
  | cons l ls ih =>
    obtain ⟨m1, hstep, -⟩ := Option.bind_eq_some_iff.1 h.run
    have ht : Transition m l m1 := .of_step (unwindingStep_eq hm l ▸ hstep)
    have htail := h.tail hstep
    rw [shown, hstep]
    cases s with
    | cons f s =>
      -- what interrupts the visit leaves it where it is
      obtain ⟨s1, hs1⟩ := ht.tail_suffix
      rw [hs, List.cons_append, List.tail_cons, ← List.append_assoc] at hs1
      rw [shows_of_interrupted hs]
      exact ih htail (ht.caught hm) hs1.symm
    | nil =>
      rw [List.nil_append] at hs
      obtain ⟨rfl, ⟨rfl, hs1⟩ | ⟨i, q, rfl, hs1⟩⟩ := ht.of_visits hs
      · -- nothing is left to show: the visit returns, and with it the run ends
        have hlast : ls = [] := by
          cases ls with
          | nil => rfl
          | cons k ls =>
            refine absurd (h.underWay [.proceed] (k :: ls) m1 rfl (List.cons_ne_nil k ls) ?_)
              (not_underWay_of_stack hs1)
            rw [unwindingRun, hstep]
            rfl
        subst hlast
        simp [shows, shown, hs]
      · have hrest := ih htail (ht.caught hm) (s := [.visit i]) hs1
        simp [shows, hs, hrest]

/-- A visit whose visitors ask for nothing shows everything and returns, whoever of them fails. -/
theorem unwindingRun_visits {r : List Frame} {p : List Interface} {ends : List Label}
    (hs : m.stack = .visits p :: r) (hlength : ends.length = p.length)
    (hends : ∀ l ∈ ends, l = .finish ∨ l = .panic) :
    m.unwindingRun ((ends.flatMap fun l => [.proceed, l]) ++ [.proceed]) =
      some { m with stack := r, past := (p.map Signal.visited).reverse ++ m.past } := by
  induction p generalizing m ends with
  | nil =>
    obtain rfl : ends = [] := List.eq_nil_of_length_eq_zero hlength
    simp [unwindingRun, unwindingStep, step, proceed, hs]
  | cons i p ih =>
    cases ends with
    | nil => cases hlength
    | cons l ends =>
      obtain ⟨hl, hends⟩ := List.forall_mem_cons.1 hends
      have hshown : m.unwindingStep .proceed =
          some ((({ m with stack := .visits p :: r } : Monitor δ).push (.visit i)).note
            (.visited i)) := by
        simp [unwindingStep, step, proceed, hs]
      have hended : ((({ m with stack := .visits p :: r } : Monitor δ).push (.visit i)).note
          (.visited i)).unwindingStep l =
            some { m with stack := .visits p :: r, past := .visited i :: m.past } := by
        rcases hl with rfl | rfl
        · rfl
        · rfl
      have hrest := ih (m := { m with stack := .visits p :: r, past := .visited i :: m.past }) rfl
        (Nat.succ.inj hlength) hends
      rw [List.flatMap_cons, List.append_assoc, List.cons_append, List.cons_append, List.nil_append,
        unwindingRun, hshown, Option.bind_some, unwindingRun, hended, Option.bind_some, hrest]
      simp

/-! ## Main result -/

/-- Failures make no difference. Whoever of the observers and visitors fails, and however operations
are nested, a run leads to the monitor that it leads to when they return instead: everything that
was seen, the retained snapshot, the registered observers and the driver are the same. A visit shows
every interface of the snapshot that is retained when it has waited, once and in key order, until it
returns; and it does return, where the visitors ask for nothing. -/
theorem failures_are_isolated (d : δ) (ls : List Label) :
    (new d).unwindingRun ls = (new d).unwindingRun (ls.map Label.calm) ∧
      (new d).unwindingRun ls = (new d).run ls ∧
      ∀ m r m1, (new d).unwindingRun ls = some m → m.stack = .await .visit :: r →
        m.unwindingStep .proceed = some m1 →
        (∀ later m', Returns r m1 later m' → m1.shown r.length later = m.interfaces.values) ∧
        ∀ ends : List Label, ends.length = m.interfaces.values.length →
          (∀ l ∈ ends, l = .finish ∨ l = .panic) →
          m1.unwindingRun ((ends.flatMap fun l => [.proceed, l]) ++ [.proceed]) =
            some { m1 with
              stack := r
              past := (m.interfaces.values.map Signal.visited).reverse ++ m1.past } := by
  have hnew : Caught (new d).stack := trivial
  refine ⟨?_, unwindingRun_eq hnew ls, fun m r m1 hrun hs hstep => ?_⟩
  · rw [unwindingRun_eq hnew, unwindingRun_eq hnew, run_calm]
  · have hm : Caught m.stack := by
      rw [unwindingRun_eq hnew] at hrun
      exact run_induction (P := fun m => Caught m.stack)
        (fun n l n' hn hl => (Transition.of_step hl).caught hn) hnew hrun
    have hvisits : m1.stack = .visits m.interfaces.values :: r := by
      simp only [unwindingStep, step, proceed, hs, Option.some.injEq] at hstep
      rw [← hstep]
      rfl
    have hm1 : Caught m1.stack := by
      rw [unwindingStep_eq hm] at hstep
      exact (Transition.of_step hstep).caught hm
    refine ⟨fun later m' hreturns => ?_, fun ends hlength hends => ?_⟩
    · exact hreturns.shown_eq hm1 (s := []) hvisits
    · exact unwindingRun_visits hvisits hlength hends

/-- Steps in which an observer joins and, when it is told of the first of two interfaces, asks for a
visit to both. -/
def visitingLabels : List Label :=
  [.request (.register 0), .proceed, .proceed, .proceed, .request .visit]

/-- Steps in which both visitors fail, and then the observer, each time it is told something. -/
def failingLabels : List Label :=
  [.proceed, .proceed, .panic, .proceed, .panic, .proceed, .panic, .proceed, .panic, .proceed]

/-- A visitor fails at one of two interfaces, in the middle of other operations, and both are shown.
-/
theorem failures_are_isolated_nested :
    ∃ m m1 m' : Monitor ManualDriver,
      (new (ManualDriver.new (some twoInterfaces))).unwindingRun visitingLabels = some m ∧
      m.stack = .await .visit :: m.stack.tail ∧ m.unwindingStep .proceed = some m1 ∧
      m1.unwindingRun [.proceed, .panic, .proceed, .panic, .proceed] =
        some { m1 with
          stack := m.stack.tail
          past := [.visited (.new "lo" .loopback), .visited (.new "eth0" .ethernet)] ++ m1.past } ∧
      (new (ManualDriver.new (some twoInterfaces))).unwindingRun
        (visitingLabels ++ failingLabels) = some m' ∧
      (new (ManualDriver.new (some twoInterfaces))).unwindingRun
        ((visitingLabels ++ failingLabels).map Label.calm) = some m' ∧
      m'.stack = [] ∧ m'.observers = [0] ∧ m'.driver.starts = 1 ∧
      m'.received 0 = [.added (.new "eth0" .ethernet), .added (.new "lo" .loopback)] := by
  obtain ⟨m, m1, m', hrun, hs, hstep, hvalues, hrun', hidle, hobservers, hstarts, hreceived⟩ :
      ∃ m m1 m' : Monitor ManualDriver,
        (new (ManualDriver.new (some twoInterfaces))).unwindingRun visitingLabels = some m ∧
        m.stack = .await .visit :: m.stack.tail ∧ m.unwindingStep .proceed = some m1 ∧
        m.interfaces.values = [.new "eth0" .ethernet, .new "lo" .loopback] ∧
        (new (ManualDriver.new (some twoInterfaces))).unwindingRun
          (visitingLabels ++ failingLabels) = some m' ∧
        m'.stack = [] ∧ m'.observers = [0] ∧ m'.driver.starts = 1 ∧
        m'.received 0 = [.added (.new "eth0" .ethernet), .added (.new "lo" .loopback)] :=
    ⟨_, _, _, rfl, rfl, rfl, rfl, rfl, rfl, rfl, rfl, rfl⟩
  obtain ⟨-, -, hvisit⟩ := failures_are_isolated (ManualDriver.new (some twoInterfaces))
    visitingLabels
  have hshown := (hvisit m _ m1 hrun hs hstep).2 [.panic, .panic] (by rw [hvalues]; rfl)
    (by simp)
  rw [hvalues] at hshown
  have hcalm := (failures_are_isolated (ManualDriver.new (some twoInterfaces))
    (visitingLabels ++ failingLabels)).1
  exact ⟨m, m1, m', hrun, hs, hstep, hshown, hrun', hcalm ▸ hrun', hidle, hobservers, hstarts,
    hreceived⟩

end Monitor
end LinkWatch
