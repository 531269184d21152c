import LinkWatch.Proofs.Address.Arithmetic

/-!
# Bitwise operations

Combining two addresses of one family combines their numbers (`combine_eq_ok_iff`), since the packed
forms hold these numbers. Bits of different octets or groups do not meet, so that the parts of the
addresses are combined one by one (`combine_octets`, `combine_groups`). The laws of the operations on
numbers become laws on addresses (`bitwise_componentwise`), and since addresses are ordered as their
numbers are, an address lies between its bits in common with a mask and its bits with those of the mask
added (`exists_masked`).
-/

namespace LinkWatch.IpAddress

open Text

/-! ## Addresses of one family -/

/-- Both addresses are IPv4, or both are IPv6. -/
inductive SameFamily : IpAddress → IpAddress → Prop where
  | v4 (x y : Octets) : SameFamily (.v4 x) (.v4 y)
  | v6 (x y : Groups) : SameFamily (.v6 x) (.v6 y)

/-- Two addresses are of the same family if they are valid and their families are equal. -/
theorem sameFamily_iff {a b : IpAddress} :
    SameFamily a b ↔ a.isValid = true ∧ a.family = b.family := by
  constructor
  · rintro (⟨x, y⟩ | ⟨x, y⟩)
    · exact ⟨rfl, rfl⟩
    · exact ⟨rfl, rfl⟩
  · rintro ⟨hvalid, hfamily⟩
    cases a with
    | none => cases hvalid
    | v4 x =>
      cases b with
      | v4 y => exact .v4 x y
      | none => cases hfamily
      | v6 y => cases hfamily
    | v6 x =>
      cases b with
      | v6 y => exact .v6 x y
      | none => cases hfamily
      | v4 y => cases hfamily

theorem isValid_eq (a : IpAddress) : a.isValid = decide (a.family ≠ .none) := by
  cases a <;> rfl

theorem SameFamily.symm {a b : IpAddress} (h : SameFamily a b) : SameFamily b a := by
  cases h with
  | v4 x y => exact .v4 y x
  | v6 x y => exact .v6 y x

/-- The family alone decides. -/
theorem sameFamily_congr {a b c d : IpAddress} (hac : a.family = c.family)
    (hbd : b.family = d.family) : SameFamily a b ↔ SameFamily c d := by
  rw [sameFamily_iff, sameFamily_iff, isValid_eq, isValid_eq, hac, hbd]

/-- Addresses of one family compare as their numbers do. -/
theorem order_of_sameFamily {a b : IpAddress} (h : SameFamily a b) :
    a.order b = .ok (compare a.value b.value) := by
  cases h with
  | v4 x y =>
    rw [order, Octets.compareLex_eq]
    rfl
  | v6 x y =>
    rw [order, Groups.compareLex_eq]
    rfl

/-- The first address is before the second or at its place. -/
def AtMost (a b : IpAddress) : Prop :=
  ∃ r : Ordering, a.order b = .ok r ∧ r.isLE = true

/-- Within a family the order is the order of the values. -/
theorem atMost_iff {a b : IpAddress} (h : SameFamily a b) : AtMost a b ↔ a.value ≤ b.value := by
  rw [AtMost, order_of_sameFamily h]
  constructor
  · rintro ⟨r, hr, hle⟩
    rw [← Except.ok.inj hr] at hle
    exact Nat.isLE_compare.1 hle
  · intro hle
    exact ⟨_, rfl, Nat.isLE_compare.2 hle⟩

/-! ## Numbers -/

namespace BitOperation

/-- The operation on words or numbers of any type. -/
def on {α : Type} [AndOp α] [OrOp α] : BitOperation → α → α → α
  | .and, x, y => x &&& y
  | .or, x, y => x ||| y

variable (op : BitOperation)

/-- An operation on words is the operation on the numbers that they stand for. -/
theorem toNat_onBits {w : Nat} (x y : BitVec w) :
    (op.onBits x y).toNat = op.on x.toNat y.toNat := by
  cases op with
  | and => exact BitVec.toNat_and x y
  | or => exact BitVec.toNat_or x y

theorem on_comm (m n : Nat) : op.on m n = op.on n m := by
  cases op with
  | and => exact Nat.and_comm m n
  | or => exact Nat.or_comm m n

theorem on_assoc (l m n : Nat) : op.on (op.on l m) n = op.on l (op.on m n) := by
  cases op with
  | and => exact Nat.and_assoc l m n
  | or => exact Nat.or_assoc l m n

theorem on_self (n : Nat) : op.on n n = n := by
  cases op with
  | and => exact Nat.and_self n
  | or => exact Nat.or_self n

/-- A number is what it has in common with anything that contains it. -/
theorem and_or_absorb (m n : Nat) : and.on m (or.on m n) = m := by
  apply Nat.eq_of_testBit_eq
  intro i
  show (m &&& (m ||| n)).testBit i = m.testBit i
  rw [Nat.testBit_and, Nat.testBit_or]
  cases m.testBit i <;> rfl

theorem or_and_absorb (m n : Nat) : or.on m (and.on m n) = m := by
  apply Nat.eq_of_testBit_eq
  intro i
  show (m ||| m &&& n).testBit i = m.testBit i
  rw [Nat.testBit_or, Nat.testBit_and]
  cases m.testBit i <;> rfl

/-- Both operations work on the upper digits by themselves. -/
theorem on_div (m n k : Nat) : op.on m n / 2 ^ k = op.on (m / 2 ^ k) (n / 2 ^ k) := by
  cases op with
  | and => exact Nat.and_div_two_pow
  | or => exact Nat.or_div_two_pow

/-- Both operations work on the lower digits by themselves. -/
theorem on_mod (m n k : Nat) : op.on m n % 2 ^ k = op.on (m % 2 ^ k) (n % 2 ^ k) := by
  cases op with
  | and => exact Nat.and_mod_two_pow
  | or => exact Nat.or_mod_two_pow

/-- Higher bits meet higher bits, and lower ones lower ones. -/
theorem on_mul_add {k a b c d : Nat} (hb : b < 2 ^ k) (hd : d < 2 ^ k) :
    op.on (a * 2 ^ k + b) (c * 2 ^ k + d) = op.on a c * 2 ^ k + op.on b d := by
  have hdiv : ∀ {m n : Nat}, n < 2 ^ k → (m * 2 ^ k + n) / 2 ^ k = m := by
    intro m n hn
    rw [Nat.mul_comm, Nat.mul_add_div (Nat.two_pow_pos k), Nat.div_eq_of_lt hn, Nat.add_zero]
  have hmod : ∀ {m n : Nat}, n < 2 ^ k → (m * 2 ^ k + n) % 2 ^ k = n := by
    intro m n hn
    rw [Nat.mul_add_mod_self_right, Nat.mod_eq_of_lt hn]
  -- the result is put together from its quotient and its rest, which `op` makes from those of both
  rw [← Nat.div_add_mod' (op.on _ _) (2 ^ k), on_div, on_mod, hdiv hb, hdiv hd, hmod hb, hmod hd]

/-- The digits are combined one by one, where the digits are words of `k` bits. -/
theorem value_zipWith_on {α : Type} [AndOp α] [OrOp α] {f : α → Nat} {k n : Nat} (hk : 0 < k)
    (hf : ∀ a, f a < 2 ^ k) (hon : ∀ a b, f (op.on a b) = op.on (f a) (f b)) (v w : Vector α n) :
    Radix.value (2 ^ k) ((v.zipWith op.on w).toList.map f) =
      op.on (Radix.value (2 ^ k) (v.toList.map f)) (Radix.value (2 ^ k) (w.toList.map f)) := by
  have hdigits : (v.zipWith op.on w).toList.map f =
      List.zipWith op.on (v.toList.map f) (w.toList.map f) := by
    rw [Vector.toList_zipWith, List.map_zipWith, List.zipWith_map]
    simp only [hon]
  have hparts : ∀ j a b c d : Nat, b < (2 ^ k) ^ j → d < (2 ^ k) ^ j →
      op.on (a * (2 ^ k) ^ j + b) (c * (2 ^ k) ^ j + d) =
        op.on a c * (2 ^ k) ^ j + op.on b d := by
    intro j a b c d hb hd
    rw [← Nat.pow_mul] at hb hd ⊢
    exact op.on_mul_add hb hd
  rw [hdigits]
  exact Radix.value_zipWith (op.on_self 0) hparts (Nat.one_lt_two_pow (Nat.ne_of_gt hk))
    (by rw [length_digits, length_digits]) (digits_lt hf v.toList) (digits_lt hf w.toList)

/-- Octet by octet, the values are combined. -/
theorem value_octets (x y : Octets) :
    Octets.value (x.zipWith op.on y) = op.on x.value y.value := by
  apply op.value_zipWith_on (k := 8) (by decide) UInt8.toNat_lt
  intro a b
  cases op <;> rfl

/-- Group by group, the values are combined. -/
theorem value_groups (x y : Groups) :
    Groups.value (x.zipWith op.on y) = op.on x.value y.value := by
  apply op.value_zipWith_on (k := 16) (by decide) UInt16.toNat_lt
  intro a b
  cases op <;> rfl

end BitOperation

/-! ## Combined addresses -/

section Combine

variable (op : BitOperation) {a b : IpAddress}

/-- The packed forms hold the numbers, and what is combined has the width of its operands. -/
theorem exists_combine (h : SameFamily a b) :
    ∃ c, combine op a b = .ok c ∧ c.family = a.family ∧ c.value = op.on a.value b.value := by
  cases h with
  | v4 x y =>
    refine ⟨_, rfl, rfl, ?_⟩
    show (Octets.unpack ⟨op.onBits x.pack.toBitVec y.pack.toBitVec⟩).value = op.on x.value y.value
    rw [Octets.value_unpack]
    show (op.onBits x.pack.toBitVec y.pack.toBitVec).toNat = op.on x.value y.value
    rw [op.toNat_onBits, ← x.toNat_pack, ← y.toNat_pack]
    rfl
  | v6 x y =>
    refine ⟨_, rfl, rfl, ?_⟩
    show (Groups.unpack (.ofBits (op.onBits x.toBits y.toBits))).value = op.on x.value y.value
    rw [Groups.value_unpack, PackedV6.toBits_ofBits, op.toNat_onBits, ← x.toNat_toBits_pack,
      ← y.toNat_toBits_pack]
    rfl

/-- The result of an operation is the address of the same family with the combined value. -/
theorem combine_eq_ok_iff (h : SameFamily a b) {c : IpAddress} :
    combine op a b = .ok c ↔ c.family = a.family ∧ c.value = op.on a.value b.value := by
  obtain ⟨d, hd, hfamily, hvalue⟩ := exists_combine op h
  rw [hd]
  constructor
  · rintro ⟨⟩
    exact ⟨hfamily, hvalue⟩
  · rintro ⟨hfamily', hvalue'⟩
    rw [eq_of_value_eq (hfamily.trans hfamily'.symm) (hvalue.trans hvalue'.symm)]

/-- Addresses of different families are refused, with the name of the operation. -/
theorem combine_of_not_sameFamily (h : ¬ SameFamily a b) :
    combine op a b = .error (.mismatch op.operation) := by
  cases a with
  | none => rfl
  | v4 x =>
    cases b with
    | v4 y => exact absurd (.v4 x y) h
    | none => rfl
    | v6 y => rfl
  | v6 x =>
    cases b with
    | v6 y => exact absurd (.v6 x y) h
    | none => rfl
    | v4 y => rfl

/-- An operation succeeds exactly within a family. -/
theorem exists_combine_iff : (∃ c, combine op a b = .ok c) ↔ SameFamily a b := by
  constructor
  · rintro ⟨c, hc⟩
    by_contra h
    rw [combine_of_not_sameFamily _ h] at hc
    cases hc
  · intro h
    obtain ⟨c, hc, -⟩ := exists_combine op h
    exact ⟨c, hc⟩

theorem combine_octets (x y : Octets) :
    combine op (v4 x) (v4 y) = .ok (v4 (x.zipWith op.on y)) :=
  (combine_eq_ok_iff op (.v4 x y)).2 ⟨rfl, op.value_octets x y⟩

theorem combine_groups (x y : Groups) :
    combine op (v6 x) (v6 y) = .ok (v6 (x.zipWith op.on y)) :=
  (combine_eq_ok_iff op (.v6 x y)).2 ⟨rfl, op.value_groups x y⟩

/-! ## Laws -/

/-- The order of the operands makes no difference, not even for the error. -/
theorem combine_comm (a b : IpAddress) : combine op a b = combine op b a := by
  by_cases h : SameFamily a b
  · obtain ⟨c, hc, hfamily, hvalue⟩ := exists_combine op h
    rw [hc, eq_comm, combine_eq_ok_iff op h.symm]
    exact ⟨hfamily.trans (sameFamily_iff.1 h).2, hvalue.trans (op.on_comm _ _)⟩
  · have h' : ¬ SameFamily b a := fun hba => h hba.symm
    rw [combine_of_not_sameFamily _ h, combine_of_not_sameFamily _ h']

/-- Three addresses are combined in either way, or fail in either way. -/
theorem combine_assoc (a b c : IpAddress) :
    (combine op a b).bind (combine op · c) = (combine op b c).bind (combine op a ·) := by
  by_cases hab : SameFamily a b
  · obtain ⟨d, hd, hdfamily, hdvalue⟩ := exists_combine op hab
    have hfamily := (sameFamily_iff.1 hab).2
    rw [hd]
    show combine op d c = _
    by_cases hbc : SameFamily b c
    · -- all three are of one family, so both sides have the same number
      obtain ⟨e, he, hefamily, hevalue⟩ := exists_combine op hbc
      have hdc : SameFamily d c := (sameFamily_congr (hdfamily.trans hfamily) rfl).2 hbc
      have hae : SameFamily a e := (sameFamily_congr rfl hefamily).2 hab
      obtain ⟨r, hr, hrfamily, hrvalue⟩ := exists_combine op hdc
      rw [he, hr]
      show _ = combine op a e
      rw [eq_comm, combine_eq_ok_iff op hae, hrfamily, hrvalue, hdvalue, hevalue, op.on_assoc]
      exact ⟨hdfamily, rfl⟩
    · -- `a` and `b` combine to an address of their family, which fails beside `c` as `b` does
      have hdc : ¬ SameFamily d c := by rwa [sameFamily_congr (hdfamily.trans hfamily) rfl]
      rw [combine_of_not_sameFamily _ hdc, combine_of_not_sameFamily _ hbc]
      rfl
  · rw [combine_of_not_sameFamily _ hab]
    show Except.error _ = _
    by_cases hbc : SameFamily b c
    · -- `b` and `c` combine to an address of their family, which fails beside `a` as `b` does
      obtain ⟨e, he, hefamily, -⟩ := exists_combine op hbc
      have hae : ¬ SameFamily a e := by rwa [sameFamily_congr rfl hefamily]
      rw [he]
      exact (combine_of_not_sameFamily _ hae).symm
    · rw [combine_of_not_sameFamily _ hbc]
      rfl

theorem combine_self {a : IpAddress} (ha : a.isValid = true) :
    combine op a a = .ok a :=
  (combine_eq_ok_iff op (sameFamily_iff.2 ⟨ha, rfl⟩)).2 ⟨rfl, (op.on_self a.value).symm⟩

/-- What one operation leaves of an address that the other has combined is the address. -/
theorem combine_absorb {op other : BitOperation}
    (habsorb : ∀ m n : Nat, op.on m (other.on m n) = m) (h : SameFamily a b) :
    (combine other a b).bind (combine op a ·) = .ok a := by
  obtain ⟨c, hc, hfamily, hvalue⟩ := exists_combine other h
  have hac : SameFamily a c := sameFamily_iff.2 ⟨(sameFamily_iff.1 h).1, hfamily.symm⟩
  rw [hc]
  show combine op a c = _
  rw [combine_eq_ok_iff op hac, hvalue, habsorb]
  exact ⟨rfl, rfl⟩

end Combine

/-- The bits in common with a mask come before the address, and the bits of either after it. -/
theorem exists_masked {a b : IpAddress} (h : SameFamily a b) :
    ∃ low high, bitAnd a b = .ok low ∧ bitOr a b = .ok high ∧ low.AtMost a ∧ a.AtMost high := by
  obtain ⟨low, hlow, hlowfamily, hlowvalue⟩ := exists_combine .and h
  obtain ⟨high, hhigh, hhighfamily, hhighvalue⟩ := exists_combine .or h
  have haa : SameFamily a a := sameFamily_iff.2 ⟨(sameFamily_iff.1 h).1, rfl⟩
  have hbelow : SameFamily low a := (sameFamily_congr hlowfamily rfl).2 haa
  have habove : SameFamily a high := (sameFamily_congr rfl hhighfamily).2 haa
  refine ⟨low, high, hlow, hhigh, ?_, ?_⟩
  · rw [atMost_iff hbelow, hlowvalue]
    exact Nat.and_le_left
  · rw [atMost_iff habove, hhighvalue]
    exact Nat.left_le_or

/-- Two addresses have bits in common and bits of either exactly where both are IPv4 or both are IPv6,
and these are the bits of their octets or groups, one by one. Both operations are commutative,
associative and idempotent, each absorbs the other, and an address lies between its bits in common with
a mask and its bits with those of the mask added. -/
theorem bitwise_componentwise :
    (∀ a b : IpAddress,
      ((∃ c, bitAnd a b = .ok c) ↔ SameFamily a b) ∧ ((∃ c, bitOr a b = .ok c) ↔ SameFamily a b) ∧
      (¬ SameFamily a b →
        bitAnd a b = .error (.mismatch .bitwiseAnd) ∧
        bitOr a b = .error (.mismatch .bitwiseOr))) ∧
    (∀ x y : Octets,
      bitAnd (v4 x) (v4 y) = .ok (v4 (x.zipWith (· &&& ·) y)) ∧
      bitOr (v4 x) (v4 y) = .ok (v4 (x.zipWith (· ||| ·) y))) ∧
    (∀ x y : Groups,
      bitAnd (v6 x) (v6 y) = .ok (v6 (x.zipWith (· &&& ·) y)) ∧
      bitOr (v6 x) (v6 y) = .ok (v6 (x.zipWith (· ||| ·) y))) ∧
    (∀ a b : IpAddress, bitAnd a b = bitAnd b a ∧ bitOr a b = bitOr b a) ∧
    (∀ a b c : IpAddress,
      (bitAnd a b).bind (bitAnd · c) = (bitAnd b c).bind (bitAnd a ·) ∧
      (bitOr a b).bind (bitOr · c) = (bitOr b c).bind (bitOr a ·)) ∧
    (∀ a : IpAddress, a.isValid = true → bitAnd a a = .ok a ∧ bitOr a a = .ok a) ∧
    (∀ a b : IpAddress, SameFamily a b →
      (bitOr a b).bind (bitAnd a ·) = .ok a ∧ (bitAnd a b).bind (bitOr a ·) = .ok a ∧
      ∃ low high, bitAnd a b = .ok low ∧ bitOr a b = .ok high ∧
        low.AtMost a ∧ a.AtMost high) := by
  refine ⟨?_, ?_, ?_, ?_, ?_, ?_, ?_⟩
  · intro a b
    refine ⟨exists_combine_iff .and, exists_combine_iff .or, ?_⟩
    intro h
    exact ⟨combine_of_not_sameFamily .and h, combine_of_not_sameFamily .or h⟩
  · intro x y
    exact ⟨combine_octets .and x y, combine_octets .or x y⟩
  · intro x y
    exact ⟨combine_groups .and x y, combine_groups .or x y⟩
  · intro a b
    exact ⟨combine_comm .and a b, combine_comm .or a b⟩
  · intro a b c
    exact ⟨combine_assoc .and a b c, combine_assoc .or a b c⟩
  · intro a ha
    exact ⟨combine_self .and ha, combine_self .or ha⟩
  · intro a b h
    exact ⟨combine_absorb BitOperation.and_or_absorb h, combine_absorb BitOperation.or_and_absorb h,
      exists_masked h⟩

/-- An address and a mask of twenty bits, and what an unset address does. -/
theorem bitwise_componentwise_masked :
    (v4 #v[192, 168, 20, 100]).isValid = true ∧
    SameFamily (v4 #v[192, 168, 20, 100]) (v4 #v[255, 255, 240, 0]) ∧
    ¬ SameFamily (v4 #v[192, 168, 20, 100]) none ∧
    bitAnd (v4 #v[192, 168, 20, 100]) (v4 #v[192, 168, 20, 100]) =
      .ok (v4 #v[192, 168, 20, 100]) ∧
    bitAnd (v4 #v[192, 168, 20, 100]) none = .error (.mismatch .bitwiseAnd) ∧
    ∃ low high,
      bitAnd (v4 #v[192, 168, 20, 100]) (v4 #v[255, 255, 240, 0]) = .ok low ∧
      bitOr (v4 #v[192, 168, 20, 100]) (v4 #v[255, 255, 240, 0]) = .ok high ∧
      low.AtMost (v4 #v[192, 168, 20, 100]) ∧ AtMost (v4 #v[192, 168, 20, 100]) high := by
  obtain ⟨hfails, -, -, -, -, hself, hmasked⟩ := bitwise_componentwise
  have hsame : SameFamily (v4 #v[192, 168, 20, 100]) (v4 #v[255, 255, 240, 0]) := .v4 _ _
  have hunset : ¬ SameFamily (v4 #v[192, 168, 20, 100]) none := nofun
  exact ⟨rfl, hsame, hunset, (hself _ rfl).1, ((hfails _ _).2.2 hunset).1, (hmasked _ _ hsame).2.2⟩

end LinkWatch.IpAddress
