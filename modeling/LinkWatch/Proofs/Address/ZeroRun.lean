import Mathlib.Data.List.TakeWhile
import LinkWatch.Address.Canonical

/-!
# Runs of zero groups

The run that is left out of IPv6 text is looked for at one position after another, and what was found
gives way to a longer run only (`LongestBelow`). So the run found is maximal, no other is longer, and
every other of its length is further to the right (`IsElided`). No run of two groups or more is missed
(`longestZeroRun_eq_none_iff`).
-/

namespace LinkWatch

/-! ## Zeros from a position on -/

/-- Around a run of zeros there is what stands before it and what stands behind it. -/
theorem take_append_zeros_append_drop (gs : List UInt16) (i : Nat) :
    gs.take i ++ List.replicate (zerosFrom gs i) 0 ++ gs.drop (i + zerosFrom gs i) = gs := by
  have hzeros : (gs.drop i).takeWhile (· == 0) = List.replicate (zerosFrom gs i) 0 := by
    rw [zerosFrom, List.eq_replicate_iff]
    exact ⟨rfl, fun x hx => by simpa using List.mem_takeWhile_imp hx⟩
  have htake : (gs.drop i).takeWhile (· == 0) = (gs.drop i).take (zerosFrom gs i) :=
    List.prefix_iff_eq_take.1 (List.takeWhile_prefix _)
  rw [← hzeros, htake, ← List.drop_drop, List.append_assoc, List.take_append_drop,
    List.take_append_drop]

/-- Behind the zeros stands none. -/
theorem head?_drop_zerosFrom (gs : List UInt16) (i : Nat) :
    (gs.drop (i + zerosFrom gs i)).head? ≠ some 0 := by
  have hdrop : gs.drop (i + zerosFrom gs i) = (gs.drop i).dropWhile (· == 0) := by
    calc gs.drop (i + zerosFrom gs i)
        = (gs.drop i).drop (zerosFrom gs i) := List.drop_drop.symm
      _ = ((gs.drop i).takeWhile (· == 0) ++ (gs.drop i).dropWhile (· == 0)).drop
            (zerosFrom gs i) := by rw [List.takeWhile_append_dropWhile]
      _ = (gs.drop i).dropWhile (· == 0) := List.drop_left
  intro h
  have hnot := List.head?_dropWhile_not (· == 0) (gs.drop i)
  rw [← hdrop, h] at hnot
  cases hnot

theorem zerosFrom_append {l r : List UInt16} {n : Nat} (hr : r.head? ≠ some 0) :
    zerosFrom (l ++ List.replicate n 0 ++ r) l.length = n := by
  have hnone : r.takeWhile (· == 0) = [] := by
    cases r with
    | nil => rfl
    | cons x r =>
      have hx : x ≠ 0 := fun hx => hr (congrArg some hx)
      simp [hx]
  rw [zerosFrom, List.append_assoc, List.drop_left, List.takeWhile_append_of_pos (by simp), hnone,
    List.append_nil, List.length_replicate]

theorem zerosFrom_succ {gs : List UInt16} {i : Nat} (h : gs[i]? = some 0) :
    zerosFrom gs i = zerosFrom gs (i + 1) + 1 := by
  obtain ⟨hi, hget⟩ := List.getElem?_eq_some_iff.1 h
  rw [zerosFrom, List.drop_eq_getElem_cons hi, hget]
  rfl

theorem zerosFrom_of_length_le {gs : List UInt16} {i : Nat} (h : gs.length ≤ i) :
    zerosFrom gs i = 0 := by
  rw [zerosFrom, List.drop_of_length_le h]
  rfl

/-- A start and a length that belong to a run of two zeros or more, up to its end. -/
def IsZeroRun (gs : List UInt16) (r : Nat × Nat) : Prop := 2 ≤ r.2 ∧ r.2 = zerosFrom gs r.1

/-! ## The search -/

/-- What is found at a position, given what was found before it. -/
def longerRun (gs : List UInt16) (best : Option (Nat × Nat)) (i : Nat) : Option (Nat × Nat) :=
  if 2 ≤ zerosFrom gs i && best.all (·.2 < zerosFrom gs i) then some (i, zerosFrom gs i) else best

theorem longestZeroRun_eq_foldl (gs : List UInt16) :
    longestZeroRun gs = (List.range gs.length).foldl (longerRun gs) none := rfl

/-- The longest run that starts below a position, and of several the leftmost. -/
inductive LongestBelow (gs : List UInt16) (k : Nat) : Option (Nat × Nat) → Prop
  | none (short : ∀ j < k, zerosFrom gs j < 2) : LongestBelow gs k none
  | some {i n : Nat} (run : IsZeroRun gs (i, n)) (longest : ∀ j < k, zerosFrom gs j ≤ n)
      (leftmost : ∀ j < i, zerosFrom gs j < n) : LongestBelow gs k (some (i, n))

/-- One more position is looked at. -/
theorem LongestBelow.longerRun {gs : List UInt16} {k : Nat} {best : Option (Nat × Nat)}
    (h : LongestBelow gs k best) : LongestBelow gs (k + 1) (longerRun gs best k) := by
  unfold LinkWatch.longerRun
  split
  · next hlonger =>
    simp only [Bool.and_eq_true, decide_eq_true_eq] at hlonger
    obtain ⟨htwo, hbest⟩ := hlonger
    -- all that was seen is shorter than what was found, which is shorter than this
    have hshorter : ∀ j < k, zerosFrom gs j < zerosFrom gs k := by
      intro j hj
      cases h with
      | none short => exact Nat.lt_of_lt_of_le (short j hj) htwo
      | some run longest leftmost =>
        exact Nat.lt_of_le_of_lt (longest j hj) (of_decide_eq_true hbest)
    refine .some ⟨htwo, rfl⟩ (fun j hj => ?_) hshorter
    rcases Nat.lt_succ_iff_lt_or_eq.1 hj with hj | rfl
    · exact Nat.le_of_lt (hshorter j hj)
    · exact Nat.le_refl _
  · next hlonger =>
    simp only [Bool.and_eq_true, decide_eq_true_eq, not_and] at hlonger
    cases h with
    | none short =>
      refine .none fun j hj => ?_
      rcases Nat.lt_succ_iff_lt_or_eq.1 hj with hj | rfl
      · exact short j hj
      · exact Nat.lt_of_not_le fun htwo => hlonger htwo rfl
    | @some i n run longest leftmost =>
      refine .some run (fun j hj => ?_) leftmost
      rcases Nat.lt_succ_iff_lt_or_eq.1 hj with hj | rfl
      · exact longest j hj
      · -- a run that is longer than this one has two groups as well
        have htwo : 2 ≤ n := run.1
        refine Nat.le_of_not_lt fun hlt => hlonger (by omega) ?_
        exact decide_eq_true hlt

theorem longestBelow_longestZeroRun (gs : List UInt16) :
    LongestBelow gs gs.length (longestZeroRun gs) := by
  have hfold : ∀ k, LongestBelow gs k ((List.range k).foldl (longerRun gs) none) := by
    intro k
    induction k with
    | zero => exact .none nofun
    | succ k ih =>
      rw [List.range_succ, List.foldl_append]
      exact ih.longerRun
  rw [longestZeroRun_eq_foldl]
  exact hfold gs.length

/-- The run that is left out is one. -/
theorem isZeroRun_of_longestZeroRun (gs : List UInt16) :
    ∀ r ∈ longestZeroRun gs, IsZeroRun gs r := by
  intro r hr
  have hlongest := longestBelow_longestZeroRun gs
  rw [hr] at hlongest
  cases hlongest with
  | some run => exact run

/-! ## The run that is left out -/

/-- Zeros with something else, or nothing, on either side of them. -/
structure IsMaximalRun (gs l : List UInt16) (n : Nat) (r : List UInt16) : Prop where
  eq : gs = l ++ List.replicate n 0 ++ r
  left : l.getLast? ≠ some 0
  right : r.head? ≠ some 0

theorem IsMaximalRun.zerosFrom_eq {gs l r : List UInt16} {n : Nat} (h : IsMaximalRun gs l n r) :
    zerosFrom gs l.length = n := by
  rw [h.eq]
  exact zerosFrom_append h.right

/-- The leftmost of the longest runs of two zeros or more. -/
structure IsElided (gs l : List UInt16) (n : Nat) (r : List UInt16) : Prop where
  run : IsMaximalRun gs l n r
  two_le : 2 ≤ n
  longest : ∀ l' m r', IsMaximalRun gs l' m r' → m ≤ n
  leftmost : ∀ l' r', IsMaximalRun gs l' n r' → l.length ≤ l'.length

/-- There is one such run at most. -/
theorem IsElided.unique {gs l r l' r' : List UInt16} {n n' : Nat} (h : IsElided gs l n r)
    (h' : IsElided gs l' n' r') : l = l' ∧ n = n' ∧ r = r' := by
  have hn : n = n' := Nat.le_antisymm (h'.longest _ _ _ h.run) (h.longest _ _ _ h'.run)
  subst hn
  have hlength : l.length = l'.length :=
    Nat.le_antisymm (h.leftmost _ _ h'.run) (h'.leftmost _ _ h.run)
  have heq := h.run.eq.symm.trans h'.run.eq
  rw [List.append_assoc, List.append_assoc] at heq
  obtain ⟨rfl, hrest⟩ := List.append_inj heq hlength
  exact ⟨rfl, rfl, List.append_cancel_left hrest⟩

/-- A run that is as long as any from another position takes in the zeros to its left. -/
theorem isMaximalRun_of_longest {gs : List UInt16} {i : Nat} (hpos : 0 < zerosFrom gs i)
    (hlongest : ∀ j < gs.length, zerosFrom gs j ≤ zerosFrom gs i) :
    IsMaximalRun gs (gs.take i) (zerosFrom gs i) (gs.drop (i + zerosFrom gs i)) where
  eq := (take_append_zeros_append_drop gs i).symm
  right := head?_drop_zerosFrom gs i
  left := by
    intro hlast
    cases i with
    | zero => simp at hlast
    | succ j =>
      have hlt : j + 1 < gs.length := by
        apply Nat.lt_of_not_le
        intro hle
        rw [zerosFrom_of_length_le hle] at hpos
        exact Nat.lt_irrefl 0 hpos
      have hj : j < gs.length := Nat.lt_of_succ_lt hlt
      have hzero : gs[j]? = some 0 := by
        simpa [List.getLast?_take, List.getElem?_eq_getElem hj] using hlast
      have hle := hlongest j hj
      rw [zerosFrom_succ hzero] at hle
      omega

theorem longestZeroRun_eq_some {gs : List UInt16} {i n : Nat}
    (h : longestZeroRun gs = some (i, n)) :
    (gs.take i).length = i ∧ IsElided gs (gs.take i) n (gs.drop (i + n)) := by
  have hbelow := longestBelow_longestZeroRun gs
  rw [h] at hbelow
  cases hbelow with
  | some run longest leftmost =>
    obtain ⟨htwo, hn⟩ : 2 ≤ n ∧ n = zerosFrom gs i := run
    have hi : i < gs.length := by
      apply Nat.lt_of_not_le
      intro hle
      rw [zerosFrom_of_length_le hle] at hn
      omega
    have hlength : (gs.take i).length = i := List.length_take_of_le (Nat.le_of_lt hi)
    have hrun : IsMaximalRun gs (gs.take i) n (gs.drop (i + n)) := by
      rw [hn] at longest ⊢
      exact isMaximalRun_of_longest (by omega) longest
    refine ⟨hlength, hrun, htwo, ?_, ?_⟩
    · intro l' m r' hrun'
      rw [← hrun'.zerosFrom_eq]
      rcases Nat.lt_or_ge l'.length gs.length with hlt | hge
      · exact longest l'.length hlt
      · rw [zerosFrom_of_length_le hge]
        exact Nat.zero_le n
    · intro l' r' hrun'
      rw [hlength]
      apply Nat.le_of_not_lt
      intro hlt
      have hshorter := leftmost l'.length hlt
      rw [hrun'.zerosFrom_eq] at hshorter
      exact Nat.lt_irrefl n hshorter

/-- No run is left out exactly where there is none of two zeros or more. -/
theorem longestZeroRun_eq_none_iff {gs : List UInt16} :
    longestZeroRun gs = none ↔ ∀ l n r, IsMaximalRun gs l n r → n < 2 := by
  constructor
  · intro h l n r hrun
    have hbelow := longestBelow_longestZeroRun gs
    rw [h] at hbelow
    cases hbelow with
    | none short =>
      rw [← hrun.zerosFrom_eq]
      rcases Nat.lt_or_ge l.length gs.length with hlt | hge
      · exact short l.length hlt
      · rw [zerosFrom_of_length_le hge]
        exact Nat.two_pos
  · intro h
    cases hfound : longestZeroRun gs with
    | none => rfl
    | some found =>
      obtain ⟨-, helided⟩ := longestZeroRun_eq_some hfound
      exact absurd helided.two_le (Nat.not_le.2 (h _ _ _ helided.run))

/-- The search finds the run that is left out wherever there is one. -/
theorem IsElided.longestZeroRun_eq {gs l r : List UInt16} {n : Nat} (h : IsElided gs l n r) :
    longestZeroRun gs = some (l.length, n) := by
  cases hfound : longestZeroRun gs with
  | none =>
    have hshort := longestZeroRun_eq_none_iff.1 hfound _ _ _ h.run
    exact absurd h.two_le (Nat.not_le.2 hshort)
  | some found =>
    obtain ⟨i, m⟩ := found
    obtain ⟨hlength, helided⟩ := longestZeroRun_eq_some hfound
    obtain ⟨rfl, rfl, -⟩ := h.unique helided
    rw [hlength]

/-- Groups that begin with two zeros have a run of two zeros or more. -/
theorem exists_isMaximalRun {gs r : List UInt16} {n : Nat} (hn : 2 ≤ n)
    (h : gs = List.replicate n 0 ++ r) : ∃ l m r, 2 ≤ m ∧ IsMaximalRun gs l m r := by
  have hle : n ≤ zerosFrom gs 0 := by
    rw [h, zerosFrom, List.drop_zero, List.takeWhile_append_of_pos (by simp), List.length_append,
      List.length_replicate]
    exact Nat.le_add_right _ _
  refine ⟨[], zerosFrom gs 0, gs.drop (0 + zerosFrom gs 0), Nat.le_trans hn hle, ?_, nofun, ?_⟩
  · exact (take_append_zeros_append_drop gs 0).symm
  · exact head?_drop_zerosFrom gs 0

end LinkWatch
