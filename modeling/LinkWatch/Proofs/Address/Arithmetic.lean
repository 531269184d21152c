import Mathlib.Data.Nat.ModEq
import Mathlib.Tactic.Ring
import LinkWatch.Proofs.Address.Packing

/-!
# Addresses as numbers

The addresses of a family are the numbers below a power of two (`ofNumber`), and what is added or
subtracted moves along them and wraps around (`add_eq`, `sub_eq`). Everything about sums and differences
is arithmetic modulo that power: steps of one add up, and each way undoes the other
(`add_sub_modular`).
-/

namespace LinkWatch

/-- The number of bits of the addresses of a family. -/
def AddressFamily.width : AddressFamily → Nat
  | none => 0
  | v4 => 32
  | v6 => 128

namespace IpAddress

/-- The number that an address stands for, its first octet or group the most significant. -/
def value : IpAddress → Nat
  | none => 0
  | v4 o => o.value
  | v6 g => g.value

/-- The address of a family whose number is the given one, up to multiples of the power. -/
def ofNumber (f : AddressFamily) (n : Nat) : IpAddress :=
  match f with
  | .none => none
  | .v4 => v4 (.unpack (UInt32.ofNat n))
  | .v6 => v6 (.ofBits (BitVec.ofNat 128 n))

/-- The value of an address fits into the width of its family. -/
theorem value_lt (a : IpAddress) : a.value < 2 ^ a.family.width := by
  cases a with
  | none => exact Nat.one_pos
  | v4 o => exact o.value_lt
  | v6 g => exact g.value_lt

@[simp] theorem family_ofNumber (f : AddressFamily) (n : Nat) : (ofNumber f n).family = f := by
  cases f <;> rfl

@[simp] theorem value_ofNumber (f : AddressFamily) (n : Nat) :
    (ofNumber f n).value = n % 2 ^ f.width := by
  cases f with
  | none => exact (Nat.mod_one n).symm
  | v4 =>
    show (Octets.unpack (UInt32.ofNat n)).value = n % 2 ^ 32
    rw [Octets.value_unpack, UInt32.toNat_ofNat']
  | v6 =>
    show (Groups.unpack (PackedV6.ofBits (BitVec.ofNat 128 n))).value = n % 2 ^ 128
    rw [Groups.value_unpack, PackedV6.toBits_ofBits, BitVec.toNat_ofNat]

theorem family_ne_none_of_isValid {a : IpAddress} (ha : a.isValid = true) : a.family ≠ .none := by
  cases a with
  | none => cases ha
  | v4 o => exact nofun
  | v6 g => exact nofun

/-- An address of a family is valid. -/
theorem isValid_ofNumber {f : AddressFamily} (hf : f ≠ .none) (n : Nat) :
    (ofNumber f n).isValid = true := by
  cases f with
  | none => exact absurd rfl hf
  | v4 => rfl
  | v6 => rfl

/-- Family and number make up the address. -/
theorem eq_of_value_eq {a b : IpAddress} (hfamily : a.family = b.family)
    (hvalue : a.value = b.value) : a = b := by
  cases a with
  | none =>
    cases b with
    | none => rfl
    | v4 o => cases hfamily
    | v6 g => cases hfamily
  | v4 o =>
    cases b with
    | none => cases hfamily
    | v4 o' => rw [Octets.value_injective hvalue]
    | v6 g => cases hfamily
  | v6 g =>
    cases b with
    | none => cases hfamily
    | v4 o => cases hfamily
    | v6 g' => rw [Groups.value_injective hvalue]

/-- An address is known by its family and its value. -/
theorem eq_ofNumber_iff {a : IpAddress} {f : AddressFamily} {n : Nat} :
    a = ofNumber f n ↔ a.family = f ∧ a.value = n % 2 ^ f.width := by
  constructor
  · rintro rfl
    exact ⟨family_ofNumber f n, value_ofNumber f n⟩
  · rintro ⟨hfamily, hvalue⟩
    apply eq_of_value_eq
    · rw [family_ofNumber, hfamily]
    · rw [value_ofNumber, hvalue]

/-- An address is the one with its value. -/
theorem ofNumber_value (a : IpAddress) : ofNumber a.family a.value = a :=
  (eq_ofNumber_iff.2 ⟨rfl, (Nat.mod_eq_of_lt a.value_lt).symm⟩).symm

/-- Numbers that differ by a multiple of the size of a family stand for the same address. -/
theorem ofNumber_congr {f : AddressFamily} {m n : Nat} (h : m % 2 ^ f.width = n % 2 ^ f.width) :
    ofNumber f m = ofNumber f n := by
  rw [eq_ofNumber_iff, family_ofNumber, value_ofNumber]
  exact ⟨rfl, h⟩

/-! ## Sums and differences -/

/-- What is added or subtracted is a number of the narrower family. -/
theorem toNat_lt_width {f : AddressFamily} (hf : f ≠ .none) (n : UInt32) :
    n.toNat < 2 ^ f.width := by
  have hn := n.toNat_lt
  cases f with
  | none => exact absurd rfl hf
  | v4 => exact hn
  | v6 => exact Nat.lt_trans hn (show 2 ^ 32 < 2 ^ 128 by decide)

/-- Adding works on the value, without a carry out of the family. -/
theorem add_eq {a : IpAddress} (ha : a.isValid = true) (n : UInt32) :
    a.add n = .ok (ofNumber a.family (a.value + n.toNat)) := by
  cases a with
  | none => cases ha
  | v4 o =>
    have hsum : o.pack + n = UInt32.ofNat (o.value + n.toNat) := by
      apply UInt32.toNat_inj.1
      rw [UInt32.toNat_add, o.toNat_pack, UInt32.toNat_ofNat']
    show Except.ok (v4 (.unpack (o.pack + n))) = _
    rw [hsum]
    rfl
  | v6 g =>
    have hsum : g.toBits + BitVec.ofNat 128 n.toNat = BitVec.ofNat 128 (g.value + n.toNat) := by
      apply BitVec.eq_of_toNat_eq
      rw [BitVec.toNat_add, Groups.toBits, g.toNat_toBits_pack, BitVec.toNat_ofNat,
        BitVec.toNat_ofNat, Nat.add_mod_mod]
    show Except.ok (v6 (.ofBits (g.toBits + BitVec.ofNat 128 n.toNat))) = _
    rw [hsum]
    rfl

/-- Going back is going on to the end and around. -/
theorem sub_eq {a : IpAddress} (ha : a.isValid = true) (n : UInt32) :
    a.sub n = .ok (ofNumber a.family (a.value + (2 ^ a.family.width - n.toNat))) := by
  have hn := toNat_lt_width (family_ne_none_of_isValid ha) n
  cases a with
  | none => cases ha
  | v4 o =>
    have hdifference : o.pack - n = UInt32.ofNat (o.value + (2 ^ 32 - n.toNat)) := by
      apply UInt32.toNat_inj.1
      rw [UInt32.toNat_sub, o.toNat_pack, UInt32.toNat_ofNat', Nat.add_comm]
    show Except.ok (v4 (.unpack (o.pack - n))) = _
    rw [hdifference]
    rfl
  | v6 g =>
    have hfits : n.toNat < 2 ^ 128 := hn
    have hdifference : g.toBits - BitVec.ofNat 128 n.toNat =
        BitVec.ofNat 128 (g.value + (2 ^ 128 - n.toNat)) := by
      apply BitVec.eq_of_toNat_eq
      rw [BitVec.toNat_sub, Groups.toBits, g.toNat_toBits_pack, BitVec.toNat_ofNat,
        BitVec.toNat_ofNat, Nat.mod_eq_of_lt hfits, Nat.add_comm]
    show Except.ok (v6 (.ofBits (g.toBits - BitVec.ofNat 128 n.toNat))) = _
    rw [hdifference]
    rfl

section Family

variable {f : AddressFamily} (hf : f ≠ .none)

include hf

/-- Adding to the address of a number adds to the number. -/
theorem add_ofNumber (m : Nat) (n : UInt32) :
    (ofNumber f m).add n = .ok (ofNumber f (m + n.toNat)) := by
  rw [add_eq (isValid_ofNumber hf m), family_ofNumber, value_ofNumber]
  congr 1
  apply ofNumber_congr
  exact Nat.mod_add_mod _ _ _

/-- Subtracting is adding what is missing to the size of the family. -/
theorem sub_ofNumber (m : Nat) (n : UInt32) :
    (ofNumber f m).sub n = .ok (ofNumber f (m + (2 ^ f.width - n.toNat))) := by
  rw [sub_eq (isValid_ofNumber hf m), family_ofNumber, value_ofNumber]
  congr 1
  apply ofNumber_congr
  exact Nat.mod_add_mod _ _ _

end Family

/-- The sum keeps the family, and its value is taken modulo the size of the family. -/
theorem add_eq_ok_iff {a b : IpAddress} (ha : a.isValid = true) (n : UInt32) :
    a.add n = .ok b ↔
      b.family = a.family ∧ b.value = (a.value + n.toNat) % 2 ^ a.family.width := by
  rw [add_eq ha, Except.ok.injEq, eq_comm, eq_ofNumber_iff]

/-- The difference keeps the family, and its value is taken modulo the size of the family. -/
theorem sub_eq_ok_iff {a b : IpAddress} (ha : a.isValid = true) (n : UInt32) :
    a.sub n = .ok b ↔
      b.family = a.family ∧ (b.value : Int) = (a.value - n.toNat) % 2 ^ a.family.width := by
  have hn := toNat_lt_width (family_ne_none_of_isValid ha) n
  -- below zero the numbers start again at the power
  have hdifference :
      (((a.value + (2 ^ a.family.width - n.toNat)) % 2 ^ a.family.width : Nat) : Int) =
        (a.value - n.toNat) % 2 ^ a.family.width := by
    rw [← Int.add_emod_right]
    push_cast [Nat.cast_sub (Nat.le_of_lt hn)]
    congr 1
    ring
  rw [sub_eq ha, Except.ok.injEq, eq_comm, eq_ofNumber_iff, ← hdifference, Int.natCast_inj]

/-! ## Steps -/

/-- An operation carried out so many times in a row, up to the first failure. -/
def times (operation : EStateM AddressError IpAddress Unit) :
    Nat → EStateM AddressError IpAddress Unit
  | 0 => pure ()
  | n + 1 => do
    operation
    times operation n

/-- An operation in place leaves the address as it is if it fails. -/
theorem run_inPlace (operation : IpAddress → Except AddressError IpAddress) (a : IpAddress) :
    (inPlace operation).run a =
      match operation a with
      | .ok b => .ok () b
      | .error e => .error e a := by
  show (match operation a with
    | .ok b => set b
    | .error e => throw e : EStateM AddressError IpAddress Unit).run a = _
  cases operation a with
  | ok b => rfl
  | error e => rfl

/-- Steps of one length add up. -/
theorem run_times {operation : EStateM AddressError IpAddress Unit} {f : AddressFamily} {k : Nat}
    (hstep : ∀ m, operation.run (ofNumber f m) = .ok () (ofNumber f (m + k))) (n m : Nat) :
    (times operation n).run (ofNumber f m) = .ok () (ofNumber f (m + n * k)) := by
  induction n generalizing m with
  | zero =>
    rw [Nat.zero_mul]
    rfl
  | succ n ih =>
    have hsplit : m + (n + 1) * k = m + k + n * k := by ring
    have hfirst : operation (ofNumber f m) = .ok () (ofNumber f (m + k)) := hstep m
    show EStateM.bind operation (fun _ => times operation n) (ofNumber f m) = _
    rw [EStateM.bind, hfirst, hsplit]
    exact ih (m + k)

section Family

variable {f : AddressFamily} (hf : f ≠ .none)

include hf

/-- Steps on lead as far as their number added. -/
theorem run_times_increment (m : Nat) (n : UInt32) :
    (times increment n.toNat).run (ofNumber f m) = .ok () (ofNumber f (m + n.toNat)) := by
  have hstep : ∀ m, increment.run (ofNumber f m) = .ok () (ofNumber f (m + 1)) := by
    intro m
    rw [increment, run_inPlace, next, add_ofNumber hf]
    rfl
  have hsteps := run_times hstep n.toNat m
  rwa [Nat.mul_one] at hsteps

/-- Steps back lead as far as their number subtracted. -/
theorem run_times_decrement (m : Nat) (n : UInt32) :
    (times decrement n.toNat).run (ofNumber f m) =
      .ok () (ofNumber f (m + (2 ^ f.width - n.toNat))) := by
  have hstep : ∀ m, decrement.run (ofNumber f m) = .ok () (ofNumber f (m + (2 ^ f.width - 1))) := by
    intro m
    rw [decrement, run_inPlace, previous, sub_ofNumber hf]
    rfl
  rw [run_times hstep]
  congr 1
  apply ofNumber_congr
  -- each step is once around less one
  have hn := toNat_lt_width hf n
  have haround : n.toNat * (2 ^ f.width - 1) + n.toNat = n.toNat * 2 ^ f.width := by
    rw [Nat.mul_sub_one]
    exact Nat.sub_add_cancel (Nat.le_mul_of_pos_right _ (by omega))
  apply Nat.ModEq.add_right_cancel' n.toNat
  rw [Nat.add_assoc, haround, Nat.add_assoc, Nat.sub_add_cancel (Nat.le_of_lt hn), Nat.ModEq,
    Nat.add_mul_mod_self_right, Nat.add_mod_right]

end Family

/-! ## Both ways -/

/-- Sums and differences of a valid address have its family and the number modulo the power; they are
what so many steps on or back lead to, and each undoes the other. An unset address has none, and stays
unset. -/
theorem add_sub_modular (n : UInt32) :
    (∀ a : IpAddress, a.isValid = true →
      (∃ b, a.add n = .ok b ∧ (times increment n.toNat).run a = .ok () b ∧ b.sub n = .ok a) ∧
      (∀ b, a.add n = .ok b ↔
        b.family = a.family ∧ b.value = (a.value + n.toNat) % 2 ^ a.family.width) ∧
      (∃ b, a.sub n = .ok b ∧ (times decrement n.toNat).run a = .ok () b ∧ b.add n = .ok a) ∧
      (∀ b, a.sub n = .ok b ↔
        b.family = a.family ∧ (b.value : Int) = (a.value - n.toNat) % 2 ^ a.family.width)) ∧
    none.add n = .error (.mismatch .addition) ∧
    none.sub n = .error (.mismatch .subtraction) ∧
    increment.run none = .error (.mismatch .addition) none ∧
    decrement.run none = .error (.mismatch .subtraction) none := by
  refine ⟨?_, rfl, rfl, rfl, rfl⟩
  intro a ha
  have hf := family_ne_none_of_isValid ha
  have hn := toNat_lt_width hf n
  obtain ⟨f, m, rfl⟩ : ∃ f m, a = ofNumber f m := ⟨_, _, (ofNumber_value a).symm⟩
  rw [family_ofNumber] at hf hn
  -- there and back is once around
  have haround : ofNumber f (m + 2 ^ f.width) = ofNumber f m :=
    ofNumber_congr (Nat.add_mod_right _ _)
  refine ⟨⟨_, add_ofNumber hf m n, run_times_increment hf m n, ?_⟩, fun b => add_eq_ok_iff ha n,
    ⟨_, sub_ofNumber hf m n, run_times_decrement hf m n, ?_⟩, fun b => sub_eq_ok_iff ha n⟩
  · have hsum : m + n.toNat + (2 ^ f.width - n.toNat) = m + 2 ^ f.width := by omega
    rw [sub_ofNumber hf, hsum, haround]
  · have hsum : m + (2 ^ f.width - n.toNat) + n.toNat = m + 2 ^ f.width := by omega
    rw [add_ofNumber hf, hsum, haround]

/-- A sum that carries from the lower half into the higher one. -/
theorem add_sub_modular_carry :
    (v6 #v[0x2001, 0xdb8, 1, 1, 0xffff, 0xffff, 0xffff, 0xfffe]).isValid = true ∧
      (v6 #v[0x2001, 0xdb8, 1, 1, 0xffff, 0xffff, 0xffff, 0xfffe]).add 2 =
        .ok (v6 #v[0x2001, 0xdb8, 1, 2, 0, 0, 0, 0]) :=
  ⟨rfl, (((add_sub_modular 2).1 _ rfl).2.1 _).2 ⟨rfl, by decide⟩⟩

end IpAddress
end LinkWatch
