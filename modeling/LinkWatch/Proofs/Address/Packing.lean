import LinkWatch.Address.Arithmetic
import LinkWatch.Address.Order
import LinkWatch.Proofs.Text.Radix

/-!
# Packed forms

Octets and groups are the digits of a number, and their packed forms are words that hold this number.
A word has room for all of it and for nothing else, so that packing and unpacking undo each other, and
since digits compare as their number does, so do the packed forms (`packed_invert_and_order`). The
words of an IPv6 address are also given by shifts, a group at a time (`Groups.shiftIn`,
`Groups.shiftOut`).
-/

namespace LinkWatch

open Text

/-! ## Order of words -/

/-- The order of a type of words is the order of the numbers that they hold. -/
theorem compareOfLessAndEq_eq {α : Type} [LT α] [DecidableLT α] [DecidableEq α] {f : α → Nat}
    (hlt : ∀ {a b : α}, a < b ↔ f a < f b) (heq : ∀ {a b : α}, f a = f b ↔ a = b) (a b : α) :
    compareOfLessAndEq a b = compare (f a) (f b) := by
  show compareOfLessAndEq a b = compareOfLessAndEq (f a) (f b)
  simp only [compareOfLessAndEq, hlt, heq]

theorem compare_uint8 (a b : UInt8) : compare a b = compare a.toNat b.toNat :=
  compareOfLessAndEq_eq UInt8.lt_iff_toNat_lt UInt8.toNat_inj a b

theorem compare_uint16 (a b : UInt16) : compare a b = compare a.toNat b.toNat :=
  compareOfLessAndEq_eq UInt16.lt_iff_toNat_lt UInt16.toNat_inj a b

theorem compare_uint32 (a b : UInt32) : compare a b = compare a.toNat b.toNat :=
  compareOfLessAndEq_eq UInt32.lt_iff_toNat_lt UInt32.toNat_inj a b

theorem compare_uint64 (a b : UInt64) : compare a b = compare a.toNat b.toNat :=
  compareOfLessAndEq_eq UInt64.lt_iff_toNat_lt UInt64.toNat_inj a b

/-- Lists of words compare as the lists of the numbers that they hold. -/
theorem compareLex_map {α : Type} [Ord α] {f : α → Nat}
    (h : ∀ a b : α, compare a b = compare (f a) (f b)) (xs ys : List α) :
    List.compareLex compare xs ys = List.compareLex compare (xs.map f) (ys.map f) := by
  induction xs generalizing ys with
  | nil => cases ys <;> rfl
  | cons x xs ih =>
    cases ys with
    | nil => rfl
    | cons y ys =>
      rw [List.map_cons, List.map_cons, List.compareLex_cons_cons, List.compareLex_cons_cons, h,
        ih]

/-! ## Words as digits -/

section Digits

variable {α : Type} {base n : Nat} {f : α → Nat}

theorem digits_lt (hf : ∀ a, f a < base) (xs : List α) : ∀ d ∈ xs.map f, d < base := by
  intro d hd
  obtain ⟨a, -, rfl⟩ := List.mem_map.1 hd
  exact hf a

theorem length_digits (v : Vector α n) : (v.toList.map f).length = n := by
  rw [List.length_map, Vector.length_toList]

/-- Digits of a base make a number with at most so many digits. -/
theorem value_digits_lt (hbase : 1 < base) (hf : ∀ a, f a < base) (v : Vector α n) :
    Radix.value base (v.toList.map f) < base ^ n := by
  have hlt := Radix.value_lt hbase (digits_lt hf v.toList)
  rwa [length_digits] at hlt

/-- So many words are told apart by the number that they are the digits of. -/
theorem eq_of_value_digits_eq (hbase : 1 < base) (hf : ∀ a, f a < base)
    (hinjective : Function.Injective f) {v w : Vector α n}
    (h : Radix.value base (v.toList.map f) = Radix.value base (w.toList.map f)) : v = w := by
  have hdigits : v.toList.map f = w.toList.map f :=
    Radix.value_injective hbase (by rw [length_digits, length_digits]) (digits_lt hf v.toList)
      (digits_lt hf w.toList) h
  apply Vector.toList_inj.1
  exact List.map_injective_iff.2 hinjective hdigits

/-- So many words compare as the number that they are the digits of. -/
theorem compareLex_eq_compare_value_digits [Ord α] (hbase : 1 < base) (hf : ∀ a, f a < base)
    (hcompare : ∀ a b : α, compare a b = compare (f a) (f b)) (v w : Vector α n) :
    List.compareLex compare v.toList w.toList =
      compare (Radix.value base (v.toList.map f)) (Radix.value base (w.toList.map f)) := by
  rw [compareLex_map hcompare]
  exact Radix.compareLex_eq_compare_value hbase (by rw [length_digits, length_digits])
    (digits_lt hf v.toList) (digits_lt hf w.toList)

end Digits

/-! ## Octets -/

namespace Octets

/-- The value of an address fits into its bits. -/
theorem value_lt (o : Octets) : o.value < 2 ^ 32 :=
  value_digits_lt (by decide) UInt8.toNat_lt o

/-- Addresses with the same value are the same. -/
theorem value_injective {x y : Octets} (h : x.value = y.value) : x = y :=
  eq_of_value_digits_eq (by decide) UInt8.toNat_lt (fun _ _ => UInt8.toNat_inj.1) h

/-- Comparing parts one by one compares the values. -/
theorem compareLex_eq (x y : Octets) :
    List.compareLex compare x.toList y.toList = compare x.value y.value :=
  compareLex_eq_compare_value_digits (by decide) UInt8.toNat_lt compare_uint8 x y

/-- The word holds the number. -/
@[simp] theorem toNat_pack (o : Octets) : o.pack.toNat = o.value := by
  rw [pack, UInt32.toNat_ofNat_of_lt' o.value_lt]

@[simp] theorem value_unpack (w : UInt32) : (unpack w).value = w.toNat := by
  have hdigits : (unpack w).toList.map (·.toNat) = Radix.digits 256 4 w.toNat := by
    rw [unpack, Vector.toList_ofFn, List.map_ofFn]
    simp [List.ofFn_succ, Radix.digits, List.range_succ, Radix.digit]
  have hlt : w.toNat < 256 ^ 4 := w.toNat_lt
  rw [value, hdigits, Radix.value_digits, Nat.mod_eq_of_lt hlt]

/-- An address that is packed comes back when it is unpacked. -/
theorem unpack_pack (o : Octets) : unpack o.pack = o := by
  apply value_injective
  rw [value_unpack, toNat_pack]

/-- A packed address that is unpacked comes back when it is packed. -/
theorem pack_unpack (w : UInt32) : (unpack w).pack = w := by
  apply UInt32.toNat_inj.1
  rw [toNat_pack, value_unpack]

end Octets

/-! ## Two words -/

namespace PackedV6

/-- The number of both words, of which the first is the higher. -/
theorem toNat_toBits (p : PackedV6) : p.toBits.toNat = p.high.toNat * 2 ^ 64 + p.low.toNat := by
  have hlow : p.low.toBitVec.toNat < 2 ^ 64 := p.low.toBitVec.isLt
  rw [toBits, BitVec.toNat_append, ← Nat.shiftLeft_add_eq_or_of_lt hlow, Nat.shiftLeft_eq]
  rfl

theorem toBits_ofBits (b : BitVec 128) : (ofBits b).toBits = b := by
  apply BitVec.eq_of_toNat_eq
  rw [toNat_toBits]
  show (b.extractLsb' 64 64).toNat * 2 ^ 64 + (b.setWidth 64).toNat = b.toNat
  -- quotient and remainder of the number by the size of a word
  rw [BitVec.extractLsb'_toNat, BitVec.toNat_setWidth, Nat.shiftRight_eq_div_pow]
  have hlt := b.isLt
  omega

/-- A packed address is known by its bits. -/
theorem toBits_injective {p q : PackedV6} (h : p.toBits = q.toBits) : p = q := by
  have hnat := congrArg BitVec.toNat h
  rw [toNat_toBits, toNat_toBits] at hnat
  have hp := p.low.toNat_lt
  have hq := q.low.toNat_lt
  have hhigh : p.high = q.high := UInt64.toNat_inj.1 (by omega)
  have hlow : p.low = q.low := UInt64.toNat_inj.1 (by omega)
  cases p
  cases q
  cases hhigh
  cases hlow
  rfl

theorem ofBits_toBits (p : PackedV6) : ofBits p.toBits = p := by
  apply toBits_injective
  rw [toBits_ofBits]

/-- The higher words decide first, as they do for the numbers. -/
theorem order_eq (p q : PackedV6) : p.order q = compare p.toBits.toNat q.toBits.toNat := by
  rw [order, compare_uint64, compare_uint64, toNat_toBits, toNat_toBits,
    Radix.compare_mul_add p.low.toNat_lt q.low.toNat_lt]

end PackedV6

/-! ## Groups -/

namespace Groups

/-- The value of an address fits into its bits. -/
theorem value_lt (g : Groups) : g.value < 2 ^ 128 :=
  value_digits_lt (by decide) UInt16.toNat_lt g

/-- Addresses with the same value are the same. -/
theorem value_injective {x y : Groups} (h : x.value = y.value) : x = y :=
  eq_of_value_digits_eq (by decide) UInt16.toNat_lt (fun _ _ => UInt16.toNat_inj.1) h

/-- Comparing parts one by one compares the values. -/
theorem compareLex_eq (x y : Groups) :
    List.compareLex compare x.toList y.toList = compare x.value y.value :=
  compareLex_eq_compare_value_digits (by decide) UInt16.toNat_lt compare_uint16 x y

/-- Four groups fit into one word. -/
theorem toNat_half {gs : List UInt16} (h : gs.length = 4) :
    (UInt64.ofNat (Radix.value 65536 (gs.map (·.toNat)))).toNat =
      Radix.value 65536 (gs.map (·.toNat)) := by
  have hlt := Radix.value_lt (by decide) (digits_lt UInt16.toNat_lt gs)
  rw [List.length_map, h] at hlt
  exact UInt64.toNat_ofNat_of_lt' hlt

/-- The words hold the number. -/
@[simp] theorem toNat_toBits_pack (g : Groups) : g.pack.toBits.toNat = g.value := by
  have htake : (g.toList.take 4).length = 4 := by simp
  have hdrop : (g.toList.drop 4).length = 4 := by simp
  have hsplit : g.toList.map (·.toNat) =
      (g.toList.take 4).map (·.toNat) ++ (g.toList.drop 4).map (·.toNat) := by
    rw [← List.map_append, List.take_append_drop]
  rw [PackedV6.toNat_toBits, value, hsplit, Radix.value_append, List.length_map, hdrop, pack]
  simp only [toNat_half htake, toNat_half hdrop]
  rfl

@[simp] theorem value_unpack (p : PackedV6) : (unpack p).value = p.toBits.toNat := by
  have hdigits : (unpack p).toList.map (·.toNat) =
      Radix.digits 65536 4 p.high.toNat ++ Radix.digits 65536 4 p.low.toNat := by
    rw [unpack, Vector.toList_ofFn, List.map_ofFn]
    simp [List.ofFn_succ, Radix.digits, List.range_succ, Radix.digit]
  have hhigh : p.high.toNat < 65536 ^ 4 := p.high.toNat_lt
  have hlow : p.low.toNat < 65536 ^ 4 := p.low.toNat_lt
  rw [value, hdigits, Radix.value_append, Radix.value_digits, Radix.value_digits,
    Nat.mod_eq_of_lt hhigh, Nat.mod_eq_of_lt hlow, PackedV6.toNat_toBits]
  simp [Radix.digits]

/-- An address that is packed comes back when it is unpacked. -/
theorem unpack_pack (g : Groups) : unpack g.pack = g := by
  apply value_injective
  rw [value_unpack, toNat_toBits_pack]

/-- A packed address that is unpacked comes back when it is packed. -/
theorem pack_unpack (p : PackedV6) : (unpack p).pack = p := by
  apply PackedV6.toBits_injective
  apply BitVec.eq_of_toNat_eq
  rw [toNat_toBits_pack, value_unpack]

/-- Each group counts with the power of its place. -/
theorem value_eq_sum (g : Groups) :
    g.value = ∑ i : Fin 8, g[i].toNat * 2 ^ (16 * (7 - i.val)) := by
  have hdigits : g.toList.map (·.toNat) = List.ofFn fun i : Fin 8 => g[i].toNat := by
    apply List.ext_getElem
    · rw [length_digits, List.length_ofFn]
    · intro i hi _
      rw [List.getElem_map, Vector.getElem_toList, List.getElem_ofFn]
      rfl
  rw [value, hdigits, Radix.value_ofFn]
  apply Finset.sum_congr rfl
  intro i _
  rw [Nat.pow_mul]

/-! ### Shifts -/

/-- Groups shifted into a word, each behind those before it. -/
def shiftIn (gs : List UInt16) : UInt64 :=
  gs.foldl (fun w g => w <<< 16 ||| g.toUInt64) 0

/-- No bit of four groups is shifted out, and none falls on another. -/
theorem toNat_shiftIn {gs : List UInt16} (h : gs.length ≤ 4) :
    (shiftIn gs).toNat = Radix.value 65536 (gs.map (·.toNat)) := by
  -- from the front, as the groups are shifted in
  induction gs using List.reverseRecOn with
  | nil => rfl
  | append_singleton gs g ih =>
    rw [List.length_append, List.length_singleton] at h
    have hshift : shiftIn (gs ++ [g]) = shiftIn gs <<< 16 ||| g.toUInt64 := by
      rw [shiftIn, List.foldl_append]
      rfl
    have hg : g.toNat < 2 ^ 16 := g.toNat_lt
    -- there are three groups at most so far, and they leave room for one more
    have hfits : Radix.value 65536 (gs.map (·.toNat)) * 2 ^ 16 < 2 ^ 64 := by
      have hlt : Radix.value 65536 (gs.map (·.toNat)) < 65536 ^ (gs.map (·.toNat)).length :=
        Radix.value_lt (by decide) (digits_lt UInt16.toNat_lt gs)
      have hpow : 65536 ^ (gs.map (·.toNat)).length ≤ 65536 ^ 3 := by
        apply Nat.pow_le_pow_right (by decide)
        rw [List.length_map]
        omega
      omega
    rw [hshift, UInt64.toNat_or, UInt64.toNat_shiftLeft, ih (by omega), UInt16.toNat_toUInt64]
    show Radix.value 65536 (gs.map (·.toNat)) <<< 16 % 2 ^ 64 ||| g.toNat = _
    rw [Nat.shiftLeft_eq, Nat.mod_eq_of_lt hfits, ← Nat.shiftLeft_eq,
      ← Nat.shiftLeft_add_eq_or_of_lt hg, Nat.shiftLeft_eq, List.map_append, Radix.value_append]
    simp [Radix.value]

/-- Each half is packed by shifting in its four groups. -/
theorem pack_eq_shiftIn (g : Groups) :
    g.pack = ⟨shiftIn (g.toList.take 4), shiftIn (g.toList.drop 4)⟩ := by
  have htake : (g.toList.take 4).length = 4 := by simp
  have hdrop : (g.toList.drop 4).length = 4 := by simp
  rw [pack, PackedV6.mk.injEq]
  constructor
  · apply UInt64.toNat_inj.1
    rw [toNat_half htake, toNat_shiftIn (Nat.le_of_eq htake)]
  · apply UInt64.toNat_inj.1
    rw [toNat_half hdrop, toNat_shiftIn (Nat.le_of_eq hdrop)]

/-- Places for eight groups, filled two at a time: each shift leaves a group of the first word and
one of the second at the end. -/
def shiftOut (p : PackedV6) : List UInt16 :=
  (List.range 4).foldl
    (fun gs i =>
      let shift := UInt64.ofNat (48 - 16 * i)
      (gs.set i (p.high >>> shift).toUInt16).set (i + 4) (p.low >>> shift).toUInt16)
    (List.replicate 8 0)

/-- A group is what is left when the ones below it are shifted out. -/
theorem ofNat_digit (w : UInt64) {i : Nat} (hi : i < 4) :
    UInt16.ofNat (Radix.digit 65536 4 w.toNat i) =
      (w >>> UInt64.ofNat (48 - 16 * i)).toUInt16 := by
  apply UInt16.toNat_inj.1
  have hshift : (UInt64.ofNat (48 - 16 * i)).toNat % 64 = 16 * (4 - 1 - i) := by
    rw [UInt64.toNat_ofNat']
    omega
  rw [UInt16.toNat_ofNat', UInt64.toNat_toUInt16, UInt64.toNat_shiftRight, hshift,
    Nat.shiftRight_eq_div_pow, Nat.pow_mul]
  exact Nat.mod_mod _ _

/-- The groups are shifted out of the halves. -/
theorem toList_unpack (p : PackedV6) : (unpack p).toList = shiftOut p := by
  have hdigit : ∀ w : UInt64, ∀ i < 4, UInt16.ofNat (Radix.digit 65536 4 w.toNat i) =
      (w >>> UInt64.ofNat (48 - 16 * i)).toUInt16 := fun w i hi => ofNat_digit w hi
  rw [unpack, Vector.toList_ofFn]
  simp [List.ofFn_succ, shiftOut, List.range_succ, hdigit]

end Groups

/-! ## The packed forms together -/

/-- Packing and unpacking undo each other, for the octets of a word, the groups of two words and the
two words of a number of 128 bits. The number of packed groups counts each group with the power of its
place; the words are those that shifts give. Addresses of one family compare as their packed forms do,
for IPv6 by the words and by the number. -/
theorem IpAddress.packed_invert_and_order :
    (Function.LeftInverse Octets.unpack Octets.pack ∧
      Function.RightInverse Octets.unpack Octets.pack) ∧
    (Function.LeftInverse Groups.unpack Groups.pack ∧
      Function.RightInverse Groups.unpack Groups.pack) ∧
    (Function.LeftInverse PackedV6.ofBits PackedV6.toBits ∧
      Function.RightInverse PackedV6.ofBits PackedV6.toBits) ∧
    (∀ g : Groups, g.pack.toBits.toNat = ∑ i : Fin 8, g[i].toNat * 2 ^ (16 * (7 - i.val))) ∧
    (∀ g : Groups,
      g.pack = ⟨Groups.shiftIn (g.toList.take 4), Groups.shiftIn (g.toList.drop 4)⟩) ∧
    (∀ p : PackedV6, (Groups.unpack p).toList = Groups.shiftOut p) ∧
    (∀ x y : Octets, order (v4 x) (v4 y) = .ok (compare x.pack y.pack)) ∧
    (∀ x y : Groups, order (v6 x) (v6 y) = .ok (x.pack.order y.pack) ∧
      order (v6 x) (v6 y) = .ok (compare x.pack.toBits.toNat y.pack.toBits.toNat)) := by
  have horder : ∀ x y : Groups,
      order (v6 x) (v6 y) = .ok (compare x.pack.toBits.toNat y.pack.toBits.toNat) := by
    intro x y
    rw [order, Groups.compareLex_eq, Groups.toNat_toBits_pack, Groups.toNat_toBits_pack]
  refine ⟨⟨Octets.unpack_pack, Octets.pack_unpack⟩, ⟨Groups.unpack_pack, Groups.pack_unpack⟩,
    ⟨PackedV6.ofBits_toBits, PackedV6.toBits_ofBits⟩, ?_, Groups.pack_eq_shiftIn,
    Groups.toList_unpack, ?_, ?_⟩
  · intro g
    rw [Groups.toNat_toBits_pack, Groups.value_eq_sum]
  · intro x y
    rw [order, Octets.compareLex_eq, compare_uint32, Octets.toNat_pack, Octets.toNat_pack]
  · intro x y
    rw [PackedV6.order_eq]
    exact ⟨horder x y, horder x y⟩

end LinkWatch
