import Mathlib.Algebra.BigOperators.Fin
import Mathlib.Data.Nat.Digits.Defs
import LinkWatch.Text.Numeral

/-!
# Positional values

A number below the power of a base has one list of so many digits: the digits of a number have this
number as their value (`value_digits`), and lists of one length have the same value only where they
are the same (`value_injective`). The order of such lists, the first difference deciding, is the order
of their values (`compareLex_eq_compare_value`). What bitwise operations do to the values they do to
the digits (`value_zipWith`).
-/

namespace LinkWatch.Text.Radix

variable {base : Nat}

/-! ## Values -/

/-- Read from its end, a list of digits is a list with the least significant digit first. -/
theorem value_eq_ofDigits (base : Nat) (ds : List Nat) :
    value base ds = Nat.ofDigits base ds.reverse := by
  rw [value, Nat.ofDigits_eq_foldr, List.foldr_reverse]
  congr 1
  funext n d
  show n * base + d = d + base * n
  rw [Nat.add_comm, Nat.mul_comm]

theorem value_append (base : Nat) (ds es : List Nat) :
    value base (ds ++ es) = value base ds * base ^ es.length + value base es := by
  simp only [value_eq_ofDigits, List.reverse_append, Nat.ofDigits_append, List.length_reverse]
  rw [Nat.add_comm, Nat.mul_comm]

theorem value_cons (base d : Nat) (ds : List Nat) :
    value base (d :: ds) = d * base ^ ds.length + value base ds := by
  have hone : value base [d] = d := by simp [value]
  rw [← List.singleton_append, value_append, hone]

/-- Each digit counts with the power of its place. -/
theorem value_ofFn (base : Nat) {n : Nat} (f : Fin n → Nat) :
    value base (List.ofFn f) = ∑ i, f i * base ^ (n - 1 - i.val) := by
  induction n with
  | zero => rfl
  | succ n ih =>
    rw [List.ofFn_succ, value_cons, List.length_ofFn, ih, Fin.sum_univ_succ]
    congr 1
    apply Finset.sum_congr rfl
    intro i _
    have hexp : n + 1 - 1 - i.succ.val = n - 1 - i.val := by
      rw [Fin.val_succ]
      omega
    rw [hexp]

theorem value_lt (hbase : 1 < base) {ds : List Nat} (h : ∀ d ∈ ds, d < base) :
    value base ds < base ^ ds.length := by
  rw [value_eq_ofDigits, ← List.length_reverse]
  apply Nat.ofDigits_lt_base_pow_length hbase
  intro d hd
  exact h d (List.mem_reverse.1 hd)

theorem value_injective (hbase : 1 < base) {ds es : List Nat} (hlength : ds.length = es.length)
    (hds : ∀ d ∈ ds, d < base) (hes : ∀ e ∈ es, e < base) (h : value base ds = value base es) :
    ds = es := by
  rw [value_eq_ofDigits, value_eq_ofDigits] at h
  apply List.reverse_inj.1
  apply Nat.ofDigits_inj_of_len_eq hbase (by simpa using hlength) _ _ h
  · intro d hd
    exact hds d (List.mem_reverse.1 hd)
  · intro e he
    exact hes e (List.mem_reverse.1 he)

/-! ## Digits -/

/-- All digits of a number, most significant first. -/
def digits (base count n : Nat) : List Nat :=
  (List.range count).map (digit base count n)

/-- The last digit is the remainder, those before it are the digits of the quotient. -/
theorem digits_succ (base count n : Nat) :
    digits base (count + 1) n = digits base count (n / base) ++ [n % base] := by
  have hinit : ∀ i ∈ List.range count,
      digit base (count + 1) n i = digit base count (n / base) i := by
    intro i hi
    have hi' := List.mem_range.1 hi
    -- one place higher in the number, and the same place in the quotient
    have hexp : count + 1 - 1 - i = (count - 1 - i) + 1 := by omega
    rw [digit, digit, hexp, Nat.div_div_eq_div_mul]
    show n / base ^ (count - 1 - i + 1) % base = n / (base * base ^ (count - 1 - i)) % base
    rw [Nat.pow_succ, Nat.mul_comm]
  have hlast : digit base (count + 1) n count = n % base := by
    rw [digit, Nat.add_sub_cancel, Nat.sub_self]
    show n / base ^ 0 % base = n % base
    rw [Nat.pow_zero, Nat.div_one]
  rw [digits, List.range_succ, List.map_append, List.map_congr_left hinit, List.map_singleton, hlast]
  rfl

theorem value_digits (base count n : Nat) : value base (digits base count n) = n % base ^ count := by
  induction count generalizing n with
  | zero =>
    rw [Nat.pow_zero, Nat.mod_one]
    rfl
  | succ count ih =>
    have hone : value base [n % base] = n % base := by simp [value]
    rw [digits_succ, value_append, ih, hone, List.length_singleton, Nat.pow_one, Nat.pow_succ,
      Nat.mul_comm (base ^ count) base, Nat.mod_mul, Nat.mul_comm base, Nat.add_comm]

/-! ## Digit by digit -/

/-- An operation that works on the higher and on the lower parts of two numbers by themselves works on
each pair of digits by itself. -/
theorem value_zipWith {f : Nat → Nat → Nat} (hzero : f 0 0 = 0)
    (hparts : ∀ k a b c d : Nat, b < base ^ k → d < base ^ k →
      f (a * base ^ k + b) (c * base ^ k + d) = f a c * base ^ k + f b d)
    (hbase : 1 < base) {ds es : List Nat} (hlength : ds.length = es.length)
    (hds : ∀ d ∈ ds, d < base) (hes : ∀ e ∈ es, e < base) :
    value base (List.zipWith f ds es) = f (value base ds) (value base es) := by
  induction ds generalizing es with
  | nil =>
    obtain rfl := List.eq_nil_of_length_eq_zero hlength.symm
    exact hzero.symm
  | cons d ds ih =>
    cases es with
    | nil => cases hlength
    | cons e es =>
      have hrest : ds.length = es.length := Nat.succ.inj hlength
      have hds' : ∀ x ∈ ds, x < base := fun x hx => hds x (List.mem_cons_of_mem d hx)
      have hes' : ∀ x ∈ es, x < base := fun x hx => hes x (List.mem_cons_of_mem e hx)
      have hltd := value_lt hbase hds'
      have hlte := value_lt hbase hes'
      rw [← hrest] at hlte
      rw [List.zipWith_cons_cons, value_cons, value_cons, value_cons, List.length_zipWith,
        ← hrest, Nat.min_self, ih hrest hds' hes', hparts _ _ _ _ _ hltd hlte]

/-! ## Order -/

/-- Of two numbers with a higher and a lower part, the higher parts decide first. -/
theorem compare_mul_add {m a b c d : Nat} (hb : b < m) (hd : d < m) :
    compare (a * m + b) (c * m + d) = (compare a c).then (compare b d) := by
  rcases Nat.lt_trichotomy a c with hac | rfl | hac
  · -- the lower part is too small to make up for one more above it
    have hle : (a + 1) * m ≤ c * m := Nat.mul_le_mul_right m hac
    rw [Nat.succ_mul] at hle
    rw [Nat.compare_eq_lt.2 hac, Ordering.lt_then]
    exact Nat.compare_eq_lt.2 (by omega)
  · rw [Nat.compare_eq_eq.2 rfl, Ordering.eq_then]
    rcases Nat.lt_trichotomy b d with hbd | rfl | hbd
    · rw [Nat.compare_eq_lt.2 hbd]
      exact Nat.compare_eq_lt.2 (by omega)
    · rw [Nat.compare_eq_eq.2 rfl, Nat.compare_eq_eq.2 rfl]
    · rw [Nat.compare_eq_gt.2 hbd]
      exact Nat.compare_eq_gt.2 (by omega)
  · have hle : (c + 1) * m ≤ a * m := Nat.mul_le_mul_right m hac
    rw [Nat.succ_mul] at hle
    rw [Nat.compare_eq_gt.2 hac, Ordering.gt_then]
    exact Nat.compare_eq_gt.2 (by omega)

/-- Lists of one length compare as their values do. -/
theorem compareLex_eq_compare_value (hbase : 1 < base) {ds es : List Nat}
    (hlength : ds.length = es.length) (hds : ∀ d ∈ ds, d < base) (hes : ∀ e ∈ es, e < base) :
    List.compareLex compare ds es = compare (value base ds) (value base es) := by
  induction ds generalizing es with
  | nil =>
    obtain rfl := List.eq_nil_of_length_eq_zero hlength.symm
    rfl
  | cons d ds ih =>
    cases es with
    | nil => cases hlength
    | cons e es =>
      have hrest : ds.length = es.length := Nat.succ.inj hlength
      have hds' : ∀ x ∈ ds, x < base := fun x hx => hds x (List.mem_cons_of_mem d hx)
      have hes' : ∀ x ∈ es, x < base := fun x hx => hes x (List.mem_cons_of_mem e hx)
      have hltd := value_lt hbase hds'
      have hlte := value_lt hbase hes'
      rw [← hrest] at hlte
      rw [List.compareLex_cons_cons, ih hrest hds' hes', value_cons, value_cons, ← hrest,
        compare_mul_add hltd hlte]

end LinkWatch.Text.Radix
