import Mathlib.Algebra.GroupWithZero.Nat
import LinkWatch.Proofs.Difference
import LinkWatch.Proofs.Monitor.Step

/-!
# Every operation comes to its end

`Frame.work` bounds the steps that an operation takes when nobody interferes. Every step by which
an operation goes on makes the sum of these bounds smaller (`Transition.work_lt`), so that letting a
monitor settle does end everything that is under way (`settle_stack`).
-/

namespace LinkWatch

/-- Every operation takes a step at least. -/
theorem Frame.work_pos (size : Nat) (f : Frame) : 0 < f.work size := by
  cases f with
  | await next => cases next <;> simp [work]
  | _ => simp [work]

namespace Monitor

variable {δ : Type}

theorem foldl_work (size n : Nat) (l : List Frame) :
    l.foldl (fun n f => n + f.work size) n = n + (l.map (Frame.work size)).sum := by
  induction l generalizing n with
  | nil => rfl
  | cons f l ih =>
    rw [List.foldl_cons, ih, List.map_cons, List.sum_cons]
    omega

/-- The work that is left is the work of the operations under way. -/
theorem work_eq_sum (m : Monitor δ) :
    m.work = (m.stack.map (Frame.work m.interfaces.size)).sum := by
  rw [work, foldl_work, Nat.zero_add]

/-- When no work is left, nothing is under way. -/
theorem stack_eq_nil_of_work {m : Monitor δ} (h : m.work = 0) : m.stack = [] := by
  rw [work_eq_sum] at h
  cases hs : m.stack with
  | nil => rfl
  | cons f r =>
    rw [hs, List.map_cons, List.sum_cons] at h
    have hpos := f.work_pos m.interfaces.size
    omega

/-- What an operation does after its wait takes fewer steps than the operation had left. -/
theorem work_resume_le (m : Monitor δ) (next : Awaiting) :
    (m.resume next).work + 1 ≤ (Frame.await next).work m.interfaces.size + m.work := by
  cases next with
  | register o guarded =>
    rw [resume, beginReplay]
    split
    · -- the observer is there already, and nothing is begun
      rw [work_eq_sum, work_eq_sum, grant_stack, grant_interfaces, Frame.work]
      omega
    · -- the replay tells of every interface once
      have hlength := congrArg List.length (Snapshot.diff_empty m.interfaces)
      rw [List.length_map, Keyed.values, List.length_map] at hlength
      simp only [work_eq_sum, push, note, List.map_cons, List.sum_cons, Frame.work, hlength,
        Keyed.size]
      omega
  | query =>
    simp only [resume, work_eq_sum, note, Frame.work]
    omega
  | visit =>
    have hlength : m.interfaces.values.length = m.interfaces.size := List.length_map _
    simp only [resume, work_eq_sum, push, List.map_cons, List.sum_cons, Frame.work, hlength]
    omega

variable [PollingDriver δ]

/-- Every step by which an operation goes on or ends leaves less to do. -/
theorem Transition.work_lt {m m' : Monitor δ} {l : Label} (h : Transition m l m')
    (hl : ∀ r, l ≠ .request r) : m'.work < m.work := by
  cases h with
  -- requests begin operations and are not meant here
  | await => exact absurd rfl (hl _)
  | release => exact absurd rfl (hl _)
  | unregister => exact absurd rfl (hl _)
  | shutdown => exact absurd rfl (hl _)
  | deliver => exact absurd rfl (hl _)
  | idle => exact absurd rfl (hl _)
  | poll => exact absurd rfl (hl _)
  | @resume next r hs =>
    have hle := work_resume_le { m with stack := r, driver := PollingDriver.endWait m.driver } next
    rw [work_eq_sum m, hs, List.map_cons, List.sum_cons]
    rw [work_eq_sum { m with stack := r, driver := PollingDriver.endWait m.driver }] at hle
    exact hle
  | @replayed o p first guarded r hs ho =>
    simp only [work_eq_sum, endReplay_stack, endReplay_interfaces, hs, List.map_cons,
      List.sum_cons, Frame.work]
    omega
  | @returned l f r hs hf hl =>
    have hpos := f.work_pos m.interfaces.size
    simp only [work_eq_sum, hs, List.map_cons, List.sum_cons]
    omega
  | dispatched hs => simp [work_eq_sum, hs, Frame.work]
  | tell hs ho => simp [work_eq_sum, hs, Frame.work, push, note]; omega
  | skip hs ho => simp [work_eq_sum, hs, Frame.work]
  | replay hs ho => simp [work_eq_sum, hs, Frame.work, push, note]; omega
  | visited hs => simp [work_eq_sum, hs, Frame.work]
  | visit hs => simp [work_eq_sum, hs, Frame.work, push, note]; omega
  | polled hs => simp [work_eq_sum, hs, Frame.work]

/-- Only a monitor with nothing under way can neither go on nor return from a call. -/
theorem eq_nil_of_stuck {m : Monitor δ} (hp : m.proceed = none) (he : m.endCall = none) :
    m.stack = [] := by
  cases hs : m.stack with
  | nil => rfl
  | cons f r =>
    exfalso
    cases f with
    | callback o e => simp [endCall, hs] at he
    | visit i => simp [endCall, hs] at he
    | await next => simp [proceed, hs] at hp
    | poll n => simp [proceed, hs] at hp
    | dispatch p => cases p <;> simp [proceed, hs] at hp
    | visits p => cases p <;> simp [proceed, hs] at hp
    | replay o p first guarded =>
      cases p with
      | nil => simp [proceed, hs] at hp
      | cons e p =>
        simp only [proceed, hs] at hp
        split at hp <;> cases hp

/-- A monitor with something under way can always go on or return from a call. -/
theorem quietStep_transition {m : Monitor δ} (h : m.stack ≠ []) :
    ∃ l, (∀ r, l ≠ .request r) ∧ m.step l = some m.quietStep := by
  rw [quietStep]
  cases hp : m.proceed with
  | some m' => exact ⟨.proceed, by simp, hp⟩
  | none =>
    cases he : m.endCall with
    | some m' => exact ⟨.finish, by simp, he⟩
    | none => exact absurd (eq_nil_of_stuck hp he) h

/-- When nothing is under way a quiet step does nothing. -/
theorem quietStep_of_idle {m : Monitor δ} (h : m.stack = []) : m.quietStep = m := by
  simp [quietStep, proceed, endCall, h]

/-- A quiet step leaves less work. -/
theorem work_quietStep_le (m : Monitor δ) : m.quietStep.work ≤ m.work - 1 := by
  by_cases h : m.stack = []
  · rw [quietStep_of_idle h, work_eq_sum, h]
    exact Nat.zero_le _
  · obtain ⟨l, hl, hstep⟩ := quietStep_transition h
    have hlt := (Transition.of_step hstep).work_lt hl
    omega

/-- Each of several quiet steps leaves less work. -/
theorem work_repeat_le (n : Nat) (m : Monitor δ) :
    (Nat.repeat quietStep n m).work ≤ m.work - n := by
  induction n with
  | zero => exact Nat.le_refl _
  | succ n ih =>
    have hle := work_quietStep_le (Nat.repeat quietStep n m)
    rw [Nat.repeat]
    omega

/-- Everything that is under way comes to its end. -/
theorem settle_stack (m : Monitor δ) : m.settle.stack = [] := by
  apply stack_eq_nil_of_work
  have hle := work_repeat_le m.work m
  rw [Nat.sub_self] at hle
  exact Nat.le_zero.1 hle

end Monitor
end LinkWatch
