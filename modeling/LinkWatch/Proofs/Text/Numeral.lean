import Mathlib.Algebra.Group.Nat.Defs
import Mathlib.Data.List.Induction
import Mathlib.Data.List.Forall2
import Mathlib.Data.List.TakeWhile
import LinkWatch.Text.Blank
import LinkWatch.Text.Numeral

/-!
# Numerals that are written can be read

A number that is written in a base up to 16 reads back in that base (`readNumeral_toDigits`), and
the characters of its numeral are digits of the base and nothing else. Many numerals are read as one
number (`IsNumeral`), but only one of them is in lower case and has no zero too many, and that one is
written (`isCanonical_iff`).
-/

namespace LinkWatch.Text

/-! ## Digits -/

theorem digitValue_digitChar {d : Nat} (h : d < 16) : digitValue d.digitChar = some d := by
  revert d
  decide

theorem isDigit_iff {base : Nat} {c : Char} :
    isDigit base c = true ↔ ∃ d < base, digitValue c = some d := by
  rw [isDigit]
  split
  · next d hd => simp [hd]
  · next hd => simp [hd]

/-- Digits stand between `0` and `z`. -/
theorem toNat_of_isDigit {base : Nat} {c : Char} (h : isDigit base c = true) :
    48 ≤ c.toNat ∧ c.toNat ≤ 122 := by
  obtain ⟨d, -, hd⟩ := isDigit_iff.1 h
  unfold digitValue at hd
  split at hd
  · next hc =>
    simp only [Bool.and_eq_true, decide_eq_true_eq] at hc
    exact ⟨hc.1, Nat.le_trans hc.2 (by decide)⟩
  · split at hd
    · next hc =>
      simp only [Bool.and_eq_true, decide_eq_true_eq] at hc
      exact ⟨Nat.le_trans (by decide) hc.1, hc.2⟩
    · split at hd
      · next hc =>
        simp only [Bool.and_eq_true, decide_eq_true_eq] at hc
        exact ⟨Nat.le_trans (by decide) hc.1, Nat.le_trans hc.2 (by decide)⟩
      · cases hd

theorem isDigit_digitChar {base d : Nat} (hbase : base ≤ 16) (h : d < base) :
    isDigit base d.digitChar = true :=
  isDigit_iff.2 ⟨d, h, digitValue_digitChar (Nat.lt_of_lt_of_le h hbase)⟩

/-- The digits that are written are lower-case. -/
theorem mem_toDigits {base n : Nat} (hbase : 1 < base) {c : Char} (h : c ∈ Nat.toDigits base n) :
    ∃ d < base, c = d.digitChar := by
  -- the last digit comes off the end
  induction n using Nat.base_induction base hbase with
  | single m hm =>
    rw [Nat.toDigits_of_lt_base hm, List.mem_singleton] at h
    exact ⟨m, hm, h⟩
  | digit m k hk hm ih =>
    rw [← Nat.toDigits_append_toDigits hbase hm hk, List.mem_append] at h
    rcases h with h | h
    · exact ih h
    · rw [Nat.toDigits_of_lt_base hk, List.mem_singleton] at h
      exact ⟨k, hk, h⟩

theorem isDigit_of_mem_toDigits {base n : Nat} (hbase : 1 < base) (hle : base ≤ 16) {c : Char}
    (h : c ∈ Nat.toDigits base n) : isDigit base c = true := by
  obtain ⟨d, hd, rfl⟩ := mem_toDigits hbase h
  exact isDigit_digitChar hle hd

/-- A character without a value is in no numeral. -/
theorem not_mem_toDigits {base n : Nat} (hbase : 1 < base) (hle : base ≤ 16) {c : Char}
    (hc : digitValue c = none) : c ∉ Nat.toDigits base n := by
  intro h
  obtain ⟨d, -, hd⟩ := isDigit_iff.1 (isDigit_of_mem_toDigits hbase hle h)
  rw [hc] at hd
  cases hd

/-! ## Values -/

theorem numeralValue_append_singleton (base : Nat) (cs : List Char) (c : Char) :
    numeralValue base (cs ++ [c]) = numeralValue base cs * base + (digitValue c).getD 0 := by
  rw [numeralValue, List.foldl_append]
  rfl

theorem numeralValue_toDigits {base n : Nat} (hbase : 1 < base) (hle : base ≤ 16) :
    numeralValue base (Nat.toDigits base n) = n := by
  induction n using Nat.base_induction base hbase with
  | single m hm =>
    have hdigit := digitValue_digitChar (Nat.lt_of_lt_of_le hm hle)
    rw [Nat.toDigits_of_lt_base hm, ← List.nil_append [m.digitChar],
      numeralValue_append_singleton, hdigit]
    simp [numeralValue]
  | digit m k hk hm ih =>
    have hdigit := digitValue_digitChar (Nat.lt_of_lt_of_le hk hle)
    rw [← Nat.toDigits_append_toDigits hbase hm hk, Nat.toDigits_of_lt_base hk,
      numeralValue_append_singleton, ih, hdigit, Nat.mul_comm m base]
    rfl

/-- The digits in front count for as many places as follow. -/
theorem numeralValue_append (base : Nat) (cs ds : List Char) :
    numeralValue base (cs ++ ds) =
      numeralValue base cs * base ^ ds.length + numeralValue base ds := by
  -- the last digit comes off the end
  induction ds using List.reverseRecOn with
  | nil => simp [numeralValue]
  | append_singleton ds c ih =>
    rw [← List.append_assoc, numeralValue_append_singleton, ih, numeralValue_append_singleton,
      List.length_append, List.length_singleton, Nat.pow_succ, Nat.add_mul, Nat.mul_assoc,
      Nat.add_assoc]

/-- A numeral of so many digits stays below the power of the base. -/
theorem numeralValue_lt {base : Nat} {cs : List Char} (h : ∀ c ∈ cs, isDigit base c = true) :
    numeralValue base cs < base ^ cs.length := by
  -- the last digit comes off the end
  induction cs using List.reverseRecOn with
  | nil => exact Nat.one_pos
  | append_singleton cs c ih =>
    obtain ⟨d, hd, hvalue⟩ := isDigit_iff.1 (h c (by simp))
    have hinit := ih fun c' hc' => h c' (List.mem_append_left _ hc')
    rw [numeralValue_append_singleton, hvalue, Option.getD_some, List.length_append,
      List.length_singleton, Nat.pow_succ]
    have hdigit : numeralValue base cs * base + d < (numeralValue base cs + 1) * base := by
      rw [Nat.succ_mul]
      exact Nat.add_lt_add_left hd _
    exact Nat.lt_of_lt_of_le hdigit (Nat.mul_le_mul_right base hinit)

/-- The digits of a base that denote a number, of either case and with any zeros in front. -/
structure IsNumeral (base : Nat) (cs : List Char) (n : Nat) : Prop where
  ne_nil : cs ≠ []
  isDigit : ∀ c ∈ cs, isDigit base c = true
  value_eq : numeralValue base cs = n

theorem IsNumeral.append {base m n : Nat} {cs ds : List Char} (hcs : IsNumeral base cs m)
    (hds : IsNumeral base ds n) : IsNumeral base (cs ++ ds) (m * base ^ ds.length + n) where
  ne_nil := List.append_ne_nil_of_left_ne_nil hcs.ne_nil ds
  isDigit c hc := (List.mem_append.1 hc).elim (hcs.isDigit c) (hds.isDigit c)
  value_eq := by rw [numeralValue_append, hcs.value_eq, hds.value_eq]

/-- Such texts are read, and no others. -/
theorem readNumeral_eq_some_iff {base : Nat} {cs : List Char} {n : Nat} :
    readNumeral base cs = some n ↔ IsNumeral base cs n := by
  rw [readNumeral]
  constructor
  · intro h
    split at h
    · next hdigits =>
      simp only [Bool.and_eq_true, Bool.not_eq_true', List.isEmpty_eq_false_iff,
        List.all_eq_true] at hdigits
      exact ⟨hdigits.1, hdigits.2, Option.some.inj h⟩
    · cases h
  · rintro ⟨hne, hdigits, rfl⟩
    have hsome : (!cs.isEmpty && cs.all (isDigit base)) = true := by
      simpa [List.isEmpty_iff] using ⟨hne, hdigits⟩
    rw [if_pos hsome]

/-- A numeral reads as the number that it was written for. -/
theorem readNumeral_toDigits {base n : Nat} (hbase : 1 < base) (hle : base ≤ 16) :
    readNumeral base (Nat.toDigits base n) = some n :=
  readNumeral_eq_some_iff.2 ⟨Nat.toDigits_ne_nil,
    fun _ hc => isDigit_of_mem_toDigits hbase hle hc, numeralValue_toDigits hbase hle⟩

/-- The numeral that is written for a number: in lower case, and with no zero in front of other
digits. -/
structure IsCanonical (base : Nat) (cs : List Char) (n : Nat) : Prop where
  ne_nil : cs ≠ []
  lower : ∀ c ∈ cs, ∃ d < base, c = d.digitChar
  leading : ∀ r, cs = '0' :: r → r = []
  value_eq : numeralValue base cs = n

theorem eq_nil_of_toDigits_eq_cons {base n : Nat} (hbase : 1 < base) (hle : base ≤ 16)
    {r : List Char} (h : Nat.toDigits base n = '0' :: r) : r = [] := by
  induction n using Nat.base_induction base hbase generalizing r with
  | single m hm =>
    rw [Nat.toDigits_of_lt_base hm] at h
    exact (List.cons.inj h).2.symm
  | digit m k hk hm ih =>
    rw [← Nat.toDigits_append_toDigits hbase hm hk] at h
    -- the digits of `m` would be a zero alone, and `m` is none
    obtain ⟨c, cs, hcs⟩ := List.exists_cons_of_ne_nil (Nat.toDigits_ne_nil (b := base) (n := m))
    rw [hcs, List.cons_append] at h
    obtain ⟨rfl, -⟩ := List.cons.inj h
    have hzero := ih hcs
    subst hzero
    have hvalue : numeralValue base ['0'] = m := by rw [← hcs, numeralValue_toDigits hbase hle]
    have hm0 : m = 0 := by simpa [numeralValue, digitValue] using hvalue.symm
    omega

/-- A number has one such numeral. -/
theorem isCanonical_iff {base n : Nat} (hbase : 1 < base) (hle : base ≤ 16) {cs : List Char} :
    IsCanonical base cs n ↔ cs = Nat.toDigits base n := by
  constructor
  · intro h
    -- the last digit comes off the end
    induction cs using List.reverseRecOn generalizing n with
    | nil => exact absurd rfl h.ne_nil
    | append_singleton cs c ih =>
      obtain ⟨d, hd, rfl⟩ := h.lower c (by simp)
      have hvalue := h.value_eq
      rw [numeralValue_append_singleton, digitValue_digitChar (Nat.lt_of_lt_of_le hd hle),
        Option.getD_some] at hvalue
      by_cases hcs : cs = []
      · subst hcs
        have hn : d = n := by simpa [numeralValue] using hvalue
        rw [← hn, Nat.toDigits_of_lt_base hd]
        rfl
      · have hfirst : ∀ r, cs ≠ '0' :: r := by
          rintro r rfl
          have hnil := h.leading (r ++ [d.digitChar]) rfl
          simp at hnil
        have hinit : cs = Nat.toDigits base (numeralValue base cs) :=
          ih ⟨hcs, fun c hc => h.lower c (List.mem_append_left _ hc),
            fun r hr => absurd hr (hfirst r), rfl⟩
        have hpos : 0 < numeralValue base cs := by
          apply Nat.pos_of_ne_zero
          intro hzero
          rw [hzero, Nat.toDigits_of_lt_base (Nat.lt_trans Nat.zero_lt_one hbase)] at hinit
          exact hfirst [] hinit
        rw [← hvalue, Nat.mul_comm, ← Nat.toDigits_append_toDigits hbase hpos hd, ← hinit,
          Nat.toDigits_of_lt_base hd]
  · rintro rfl
    exact ⟨Nat.toDigits_ne_nil, fun c hc => mem_toDigits hbase hc,
      fun r hr => eq_nil_of_toDigits_eq_cons hbase hle hr, numeralValue_toDigits hbase hle⟩

theorem forall₂_isCanonical_iff {base : Nat} (hbase : 1 < base) (hle : base ≤ 16)
    {ts : List (List Char)} {ns : List Nat} :
    List.Forall₂ (IsCanonical base) ts ns ↔ ts = ns.map (Nat.toDigits base) := by
  have hrel : IsCanonical base = fun cs n => cs = Nat.toDigits base n := by
    funext cs n
    exact propext (isCanonical_iff hbase hle)
  rw [hrel, ← List.forall₂_map_right_iff (R := Eq), List.forall₂_eq_eq_eq]

/-- A text with a character that has no value is not read. -/
theorem readNumeral_of_mem {base : Nat} {cs : List Char} {c : Char} (hc : c ∈ cs)
    (hvalue : digitValue c = none) : readNumeral base cs = none := by
  have hdigits : ¬ cs.all (isDigit base) = true := by
    intro hall
    obtain ⟨d, -, hd⟩ := isDigit_iff.1 (List.all_eq_true.1 hall c hc)
    rw [hvalue] at hd
    cases hd
  rw [readNumeral, Bool.not_eq_true _ |>.mp hdigits, Bool.and_false]
  rfl

/-! ## Signs -/

/-- The texts for a number that may carry a plus sign. -/
def IsUnsigned (base : Nat) (cs : List Char) (n : Nat) : Prop :=
  ∃ digits, (cs = digits ∨ cs = '+' :: digits) ∧ IsNumeral base digits n

theorem readUnsigned_eq_some_iff {base limit n : Nat} {cs : List Char} :
    readUnsigned base limit cs = some n ↔ IsUnsigned base cs n ∧ n ≤ limit := by
  have hplus (r : List Char) : ¬ IsNumeral base ('+' :: r) n := by
    intro h
    obtain ⟨d, -, hd⟩ := isDigit_iff.1 (h.isDigit '+' List.mem_cons_self)
    cases hd
  unfold readUnsigned
  dsimp only
  split
  · next r =>
    rw [Option.filter_eq_some_iff, readNumeral_eq_some_iff, decide_eq_true_eq]
    refine and_congr_left fun _ => ⟨fun h => ⟨r, .inr rfl, h⟩, ?_⟩
    rintro ⟨digits, rfl | heq, h⟩
    · exact absurd h (hplus r)
    · rwa [(List.cons.inj heq).2]
  · next hne =>
    rw [Option.filter_eq_some_iff, readNumeral_eq_some_iff, decide_eq_true_eq]
    refine and_congr_left fun _ => ⟨fun h => ⟨cs, .inl rfl, h⟩, ?_⟩
    rintro ⟨digits, rfl | heq, h⟩
    · exact h
    · exact absurd heq (hne digits)

/-! ## Pairs -/

/-- Both digits of a byte are digits of the base, in upper case as well as in lower case. -/
theorem isNumeral_hexPair (upper : Bool) (b : UInt8) :
    IsNumeral 16 (hexPair upper b) b.toNat := by
  have hdigit : ∀ upper : Bool, ∀ n < 16, digitValue
      (if n < 10 then Char.ofNat ('0'.toNat + n)
        else Char.ofNat ((if upper then 'A' else 'a').toNat + (n - 10))) = some n := by decide
  have hhigh : b.toNat / 16 < 16 := Nat.div_lt_of_lt_mul b.toNat_lt
  have hlow : b.toNat % 16 < 16 := Nat.mod_lt _ (by decide)
  refine ⟨List.cons_ne_nil _ _, ?_, ?_⟩
  · intro c hc
    simp only [hexPair, List.mem_cons, List.not_mem_nil, or_false] at hc
    rcases hc with rfl | rfl
    · exact isDigit_iff.2 ⟨_, hhigh, hdigit upper _ hhigh⟩
    · exact isDigit_iff.2 ⟨_, hlow, hdigit upper _ hlow⟩
  · simp only [hexPair, numeralValue, List.foldl_cons, List.foldl_nil, hdigit upper _ hhigh,
      hdigit upper _ hlow, Option.getD_some]
    omega

/-! ## Blanks -/

/-- A text is what is left of it when blanks are trimmed, between blanks. -/
theorem exists_blanks_trim (cs : List Char) :
    ∃ l r, cs = l ++ trim cs ++ r ∧ (∀ c ∈ l, isBlank c = true) ∧ ∀ c ∈ r, isBlank c = true := by
  refine ⟨cs.takeWhile isBlank, ((trimLeft cs).reverse.takeWhile isBlank).reverse, ?_, ?_, ?_⟩
  · have hright : trim cs ++ ((trimLeft cs).reverse.takeWhile isBlank).reverse = trimLeft cs := by
      rw [trim, trimRight, ← List.reverse_append, List.takeWhile_append_dropWhile,
        List.reverse_reverse]
    rw [List.append_assoc, hright]
    exact List.takeWhile_append_dropWhile.symm
  · intro c hc
    exact List.mem_takeWhile_imp hc
  · intro c hc
    exact List.mem_takeWhile_imp (List.mem_reverse.1 hc)

/-- Blanks around a text without blanks are what is trimmed off. -/
theorem trim_of_blanks {l cs r : List Char} (hl : ∀ c ∈ l, isBlank c = true)
    (hcs : ∀ c ∈ cs, isBlank c = false) (hr : ∀ c ∈ r, isBlank c = true) :
    trim (l ++ cs ++ r) = cs := by
  have hnone : ∀ {ds : List Char}, (∀ c ∈ ds, isBlank c = false) → ds.dropWhile isBlank = ds := by
    intro ds hds
    cases ds with
    | nil => rfl
    | cons d ds => rw [List.dropWhile_cons_of_neg (by simp [hds d List.mem_cons_self])]
  cases cs with
  | nil =>
    have hall : ∀ c ∈ l ++ r, isBlank c = true := by
      intro c hc
      rcases List.mem_append.1 hc with hc | hc
      · exact hl c hc
      · exact hr c hc
    rw [List.append_nil, trim, trimLeft, List.dropWhile_eq_nil_iff.2 hall]
    rfl
  | cons c cs =>
    have hleft : trimLeft (l ++ (c :: cs) ++ r) = (c :: cs) ++ r := by
      rw [trimLeft, List.append_assoc, List.dropWhile_append_of_pos hl, List.cons_append,
        List.dropWhile_cons_of_neg (by simp [hcs c List.mem_cons_self])]
    have hrev : ∀ d ∈ (c :: cs).reverse, isBlank d = false := by
      intro d hd
      exact hcs d (List.mem_reverse.1 hd)
    rw [trim, hleft, trimRight, List.reverse_append,
      List.dropWhile_append_of_pos (by simpa using hr), hnone hrev, List.reverse_reverse]

/-- Nothing is trimmed off a text without blanks. -/
theorem trim_of_forall {cs : List Char} (h : ∀ c ∈ cs, isBlank c = false) : trim cs = cs := by
  have htrim := trim_of_blanks (l := []) (r := []) (by simp) h (by simp)
  rwa [List.nil_append, List.append_nil] at htrim

/-- A digit is no blank. -/
theorem isBlank_of_isDigit {base : Nat} {c : Char} (h : isDigit base c = true) :
    isBlank c = false := by
  obtain ⟨hlow, hhigh⟩ := toNat_of_isDigit h
  unfold isBlank
  simp only [Bool.or_eq_false_iff, Bool.and_eq_false_iff, decide_eq_false_iff_not,
    beq_eq_false_iff_ne]
  omega

theorem isBlank_digitChar {d : Nat} (h : d < 16) : isBlank d.digitChar = false := by
  revert d
  decide

theorem trim_toDigits {base n : Nat} (hbase : 1 < base) (hle : base ≤ 16) :
    trim (Nat.toDigits base n) = Nat.toDigits base n := by
  apply trim_of_forall
  intro c hc
  obtain ⟨d, hd, rfl⟩ := mem_toDigits hbase hc
  exact isBlank_digitChar (Nat.lt_of_lt_of_le hd hle)

end LinkWatch.Text
