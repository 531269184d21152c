import LinkWatch.Address.Netmask
import LinkWatch.Proofs.Address.Packing

/-!
# Netmasks

The masks of a length are described bit by bit (`getMsbD_bits`). The two checks look at a word in
different ways and accept the same words: leading ones and trailing zeros fill a word exactly when it is
the mask of its leading ones (`leadingOnes_add_trailingZeros_eq_iff`), and a word is rebuilt from its
number of one bits exactly when it is a mask (`bits_cpop_eq_iff`). So an address is accepted exactly when
it has a length (`HasLength`), which is then the one that is read off it
(`accepts_prefix_masks`).
-/

namespace LinkWatch.Netmask

/-! ## Bits of a mask -/

variable {width count : Nat}

theorem getLsbD_bits (width count i : Nat) :
    (bits width count).getLsbD i = decide (i < width ∧ width ≤ i + count) := by
  rw [bits]
  split
  · next hcount =>
    show (BitVec.ofNat width 0).getLsbD i = _
    rw [BitVec.getLsbD_zero, eq_comm, decide_eq_false_iff_not]
    omega
  · split
    · next hpos hlt =>
      rw [BitVec.getLsbD_shiftLeft, BitVec.getLsbD_allOnes, Bool.eq_iff_iff]
      simp only [Bool.and_eq_true, Bool.not_eq_true', decide_eq_true_eq, decide_eq_false_iff_not]
      omega
    · next hpos hge =>
      rw [BitVec.getLsbD_allOnes, decide_eq_decide]
      omega

/-- The one bits of a mask are the first ones. -/
theorem getMsbD_bits (width count : Nat) {i : Nat} (hi : i < width) :
    (bits width count).getMsbD i = decide (i < count) := by
  rw [BitVec.getMsbD_eq_getLsbD, decide_eq_true hi, Bool.true_and, getLsbD_bits, decide_eq_decide]
  omega

/-- A word is the mask of a length when its one bits are those from a place on. -/
theorem eq_bits_iff {b : BitVec width} :
    b = bits width count ↔ ∀ i < width, b.getLsbD i = decide (width - count ≤ i) := by
  constructor
  · rintro rfl i hi
    rw [getLsbD_bits, decide_eq_decide]
    omega
  · intro hb
    apply BitVec.eq_of_getLsbD_eq
    intro i hi
    rw [hb i hi, getLsbD_bits, decide_eq_decide]
    omega

theorem bits_min (width count : Nat) : bits width count = bits width (min count width) := by
  rw [eq_bits_iff]
  intro i hi
  rw [getLsbD_bits, decide_eq_decide]
  omega

theorem bits_eq_append (h : count ≤ width) :
    bits width count =
      (BitVec.allOnes count ++ 0#(width - count)).cast (Nat.add_sub_cancel' h) := by
  rw [eq_comm, eq_bits_iff]
  intro i hi
  rw [BitVec.getLsbD_cast, BitVec.getLsbD_append]
  split
  · next hlow => rw [BitVec.getLsbD_zero, decide_eq_false (Nat.not_le.2 hlow)]
  · next hhigh =>
    rw [BitVec.getLsbD_allOnes, decide_eq_decide]
    omega

theorem toNat_cpop_bits (width count : Nat) :
    (bits width count).cpop.toNat = min count width := by
  have hle : min count width ≤ width := Nat.min_le_right count width
  rw [bits_min, bits_eq_append hle, BitVec.cpop_cast, BitVec.toNat_cast, BitVec.toNat_cpop_append,
    BitVec.cpop_allOnes, BitVec.cpop_zero, BitVec.toNat_ofNat, BitVec.toNat_ofNat, Nat.zero_mod,
    Nat.add_zero, Nat.mod_eq_of_lt Nat.lt_two_pow_self]

/-- As a number, a mask lacks of the power what its zero bits have room for. -/
theorem toNat_bits (h : count ≤ width) :
    (bits width count).toNat = 2 ^ width - 2 ^ (width - count) := by
  rw [bits_eq_append h, BitVec.toNat_cast, BitVec.toNat_append, BitVec.toNat_allOnes,
    BitVec.toNat_ofNat, Nat.zero_mod, Nat.or_zero, Nat.shiftLeft_eq, Nat.sub_one_mul, ← Nat.pow_add,
    Nat.add_sub_cancel' h]

/-- Masks of different lengths differ in their number of one bits. -/
theorem bits_injective {m n : Nat} (hm : m ≤ width) (hn : n ≤ width)
    (h : bits width m = bits width n) : m = n := by
  have hcpop := congrArg (fun b : BitVec width => b.cpop.toNat) h
  simp only [toNat_cpop_bits] at hcpop
  omega

/-! ## Leading ones and trailing zeros -/

section Scan

/-- A word has room for its own width. -/
theorem toNat_width (width : Nat) : (width : BitVec width).toNat = width := by
  rw [BitVec.natCast_eq_ofNat, BitVec.toNat_ofNat, Nat.mod_eq_of_lt Nat.lt_two_pow_self]

variable (b : BitVec width)

theorem leadingOnes_le : leadingOnes b ≤ width := by
  have hle := BitVec.le_def.1 (BitVec.clz_le (x := ~~~b))
  rwa [toNat_width] at hle

theorem trailingZeros_le : trailingZeros b ≤ width := by
  have hle := BitVec.le_def.1 (BitVec.clz_le (x := b.reverse))
  rwa [toNat_width] at hle

theorem getLsbD_of_leadingOnes {i : Nat} (hi : i < width) (h : width - leadingOnes b ≤ i) :
    b.getLsbD i = true := by
  have hlt : (~~~b).toNat < 2 ^ i :=
    Nat.lt_of_lt_of_le BitVec.toNat_lt_two_pow_sub_clz (Nat.pow_le_pow_right Nat.two_pos h)
  have hzero : (~~~b).getLsbD i = false := Nat.testBit_lt_two_pow hlt
  simpa [hi] using hzero

/-- Below the leading ones stands a zero. -/
theorem getLsbD_below_leadingOnes (h : leadingOnes b < width) :
    b.getLsbD (width - 1 - leadingOnes b) = false := by
  have hne : ~~~b ≠ BitVec.ofNat width 0 := by
    rw [← BitVec.clz_lt_iff_ne_zero, BitVec.lt_def, toNat_width]
    exact h
  have hpos : 0 < width := by omega
  have hplace : width - 1 - leadingOnes b < width := by omega
  have hone := BitVec.getLsbD_true_clz_of_ne_zero hpos hne
  rw [← leadingOnes, BitVec.getLsbD_not] at hone
  simpa [hplace] using hone

/-- Above the trailing zeros stands a one. -/
theorem getLsbD_trailingZeros (h : trailingZeros b < width) :
    b.getLsbD (trailingZeros b) = true := by
  apply BitVec.getLsbD_true_ctz_of_ne_zero
  rw [← BitVec.ctz_lt_iff_ne_zero, BitVec.lt_def, toNat_width]
  exact h

end Scan

theorem leadingOnes_bits (h : count ≤ width) : leadingOnes (bits width count) = count := by
  have hbits := eq_bits_iff.1 (rfl : bits width count = bits width count)
  have hle := leadingOnes_le (bits width count)
  rcases Nat.lt_trichotomy (leadingOnes (bits width count)) count with hlt | heq | hgt
  · -- the zero below the leading ones would be one of the mask's ones
    have hzero := getLsbD_below_leadingOnes (bits width count) (by omega)
    rw [hbits _ (by omega), decide_eq_false_iff_not] at hzero
    omega
  · exact heq
  · -- the first zero of the mask would be one of the leading ones
    have hone := getLsbD_of_leadingOnes (bits width count) (i := width - 1 - count) (by omega)
      (by omega)
    rw [hbits _ (by omega), decide_eq_true_iff] at hone
    omega

theorem trailingZeros_bits (h : count ≤ width) :
    trailingZeros (bits width count) = width - count := by
  have hbits := eq_bits_iff.1 (rfl : bits width count = bits width count)
  have hle := trailingZeros_le (bits width count)
  rcases Nat.lt_trichotomy (trailingZeros (bits width count)) (width - count) with hlt | heq | hgt
  · have hone := getLsbD_trailingZeros (bits width count) (by omega)
    rw [hbits _ (by omega), decide_eq_true_iff] at hone
    omega
  · exact heq
  · have hzero := BitVec.getLsbD_false_of_lt_ctz hgt
    rw [hbits _ (by omega), decide_eq_false_iff_not] at hzero
    omega

/-- A word that its leading ones and trailing zeros fill has no other bits. -/
theorem leadingOnes_add_trailingZeros_eq_iff (b : BitVec width) :
    leadingOnes b + trailingZeros b = width ↔ ∃ n ≤ width, b = bits width n := by
  constructor
  · intro hfill
    refine ⟨leadingOnes b, leadingOnes_le b, eq_bits_iff.2 ?_⟩
    intro i hi
    -- every place is one of the leading ones or one of the trailing zeros
    by_cases hone : width - leadingOnes b ≤ i
    · rw [getLsbD_of_leadingOnes b hi hone, decide_eq_true hone]
    · rw [BitVec.getLsbD_false_of_lt_ctz (show i < trailingZeros b by omega),
        decide_eq_false hone]
  · rintro ⟨n, hn, rfl⟩
    rw [leadingOnes_bits hn, trailingZeros_bits hn]
    omega

/-- A word that is not a mask is not rebuilt from its number of one bits. -/
theorem bits_cpop_eq_iff (b : BitVec width) :
    bits width b.cpop.toNat = b ↔ ∃ n ≤ width, b = bits width n := by
  constructor
  · intro h
    exact ⟨b.cpop.toNat, BitVec.toNat_cpop_le b, h.symm⟩
  · rintro ⟨n, -, rfl⟩
    rw [toNat_cpop_bits, ← bits_min]

/-! ## Masks and their lengths -/

/-- An address is the mask of a length: for IPv4 from 1 to 32, for IPv6 from 0 to 128. -/
inductive HasLength : IpAddress → UInt8 → Prop where
  | v4 {o : Octets} {n : UInt8} : 1 ≤ n → n ≤ 32 → o.pack = Netmask.v4 n → HasLength (.v4 o) n
  | v6 {g : Groups} {n : UInt8} : n ≤ 128 → g.pack = Netmask.v6 n → HasLength (.v6 g) n

theorem hasLength_v4_iff {o : Octets} {n : UInt8} :
    HasLength (.v4 o) n ↔
      (1 ≤ n.toNat ∧ n.toNat ≤ 32) ∧ o.pack.toBitVec = bits 32 n.toNat := by
  constructor
  · intro h
    cases h with
    | v4 hpos hle hpack =>
      refine ⟨⟨UInt8.le_iff_toNat_le.1 hpos, UInt8.le_iff_toNat_le.1 hle⟩, ?_⟩
      rw [hpack, v4]
  · rintro ⟨⟨hpos, hle⟩, hbits⟩
    exact .v4 (UInt8.le_iff_toNat_le.2 hpos) (UInt8.le_iff_toNat_le.2 hle)
      (UInt32.toBitVec_inj.1 hbits)

theorem hasLength_v6_iff {g : Groups} {n : UInt8} :
    HasLength (.v6 g) n ↔ n.toNat ≤ 128 ∧ g.pack.toBits = bits 128 n.toNat := by
  constructor
  · intro h
    cases h with
    | v6 hle hpack =>
      refine ⟨UInt8.le_iff_toNat_le.1 hle, ?_⟩
      rw [hpack, v6, PackedV6.toBits_ofBits]
  · rintro ⟨hle, hbits⟩
    apply HasLength.v6 (UInt8.le_iff_toNat_le.2 hle)
    apply PackedV6.toBits_injective
    rw [hbits, v6, PackedV6.toBits_ofBits]

/-- An address has one length at most. -/
theorem HasLength.unique {mask : IpAddress} {m n : UInt8} (hm : HasLength mask m)
    (hn : HasLength mask n) : m = n := by
  apply UInt8.toNat_inj.1
  cases mask with
  | none => cases hm
  | v4 o =>
    rw [hasLength_v4_iff] at hm hn
    exact bits_injective hm.1.2 hn.1.2 (hm.2.symm.trans hn.2)
  | v6 g =>
    rw [hasLength_v6_iff] at hm hn
    exact bits_injective hm.1 hn.1 (hm.2.symm.trans hn.2)

/-- The one bits of both words are those of the number that they make up. -/
theorem ones_eq (p : PackedV6) : p.ones = p.toBits.cpop.toNat := by
  rw [PackedV6.ones, PackedV6.toBits, BitVec.toNat_cpop_append]

theorem ones_le (p : PackedV6) : p.ones ≤ 128 := by
  rw [ones_eq]
  exact BitVec.toNat_cpop_le _

/-! ## Checks -/

/-- The lengths of masks fit into a byte. -/
theorem toNat_ofNat_of_le {n : Nat} (h : n ≤ 128) : (UInt8.ofNat n).toNat = n :=
  UInt8.toNat_ofNat_of_lt' (Nat.lt_of_le_of_lt h (by decide))

/-- The check of an IPv4 mask finds its length. -/
theorem exists_hasLength_v4_iff (o : Octets) :
    (∃ n, HasLength (.v4 o) n) ↔
      o.pack ≠ 0 ∧ leadingOnes o.pack.toBitVec + trailingZeros o.pack.toBitVec = 32 := by
  rw [leadingOnes_add_trailingZeros_eq_iff]
  constructor
  · rintro ⟨n, h⟩
    obtain ⟨⟨hpos, hle⟩, hbits⟩ := hasLength_v4_iff.1 h
    refine ⟨?_, n.toNat, hle, hbits⟩
    intro hzero
    -- the empty word has no one bit, a mask from 1 on has at least one
    have hcpop := toNat_cpop_bits 32 n.toNat
    have hnone : (0 : UInt32).toBitVec.cpop.toNat = 0 := by decide
    rw [← hbits, hzero, hnone] at hcpop
    omega
  · rintro ⟨hne, n, hle, hbits⟩
    -- the mask of length 0 is the word that is refused as empty
    have hpos : n ≠ 0 := by
      rintro rfl
      exact hne (UInt32.toBitVec_inj.1 hbits)
    refine ⟨.ofNat n, hasLength_v4_iff.2 ?_⟩
    rw [toNat_ofNat_of_le (Nat.le_trans hle (by decide))]
    exact ⟨⟨Nat.pos_of_ne_zero hpos, hle⟩, hbits⟩

/-- The check of an IPv6 mask finds its length. -/
theorem exists_hasLength_v6_iff (g : Groups) :
    (∃ n, HasLength (.v6 g) n) ↔ v6 (.ofNat g.pack.ones) = g.pack := by
  have hones : (UInt8.ofNat g.pack.ones).toNat = g.pack.toBits.cpop.toNat := by
    rw [toNat_ofNat_of_le (ones_le g.pack), ones_eq]
  have hbuilt : v6 (.ofNat g.pack.ones) = g.pack ↔
      bits 128 g.pack.toBits.cpop.toNat = g.pack.toBits := by
    rw [v6, hones]
    constructor
    · intro h
      rw [← PackedV6.toBits_ofBits (bits 128 _), h]
    · intro h
      rw [h, PackedV6.ofBits_toBits]
  rw [hbuilt, bits_cpop_eq_iff]
  constructor
  · rintro ⟨n, h⟩
    exact ⟨n.toNat, hasLength_v6_iff.1 h⟩
  · rintro ⟨n, hle, hbits⟩
    refine ⟨.ofNat n, hasLength_v6_iff.2 ?_⟩
    rw [toNat_ofNat_of_le hle]
    exact ⟨hle, hbits⟩

/-- The error for an address that is no mask. -/
def refusal : IpAddress → AddressError
  | .none => .mismatch .netmaskValidation
  | .v4 o =>
    .malformed (IpAddress.v4 o).text (if o.pack = 0 then .emptyNetmask else .brokenNetmask)
  | .v6 g => .malformed (IpAddress.v6 g).text .brokenNetmask

theorem check_v4 (o : Octets) :
    check (.v4 o) =
      if o.pack ≠ 0 ∧ leadingOnes o.pack.toBitVec + trailingZeros o.pack.toBitVec = 32 then .ok ()
      else .error (refusal (.v4 o)) := by
  show checkV4 (.v4 o) = _
  by_cases hzero : o.pack = 0
  · simp [checkV4, IpAddress.packedV4, IpAddress.octets, Except.map, refusal, hzero]
  · simp [checkV4, IpAddress.packedV4, IpAddress.octets, Except.map, refusal, hzero]

theorem check_v6 (g : Groups) :
    check (.v6 g) =
      if v6 (.ofNat g.pack.ones) = g.pack then .ok () else .error (refusal (.v6 g)) :=
  rfl

theorem check_of_hasLength {mask : IpAddress} {n : UInt8} (h : HasLength mask n) :
    check mask = .ok () := by
  cases mask with
  | none => cases h
  | v4 o => rw [check_v4, if_pos ((exists_hasLength_v4_iff o).1 ⟨n, h⟩)]
  | v6 g => rw [check_v6, if_pos ((exists_hasLength_v6_iff g).1 ⟨n, h⟩)]

theorem check_of_no_length {mask : IpAddress} (h : ¬ ∃ n, HasLength mask n) :
    check mask = .error (refusal mask) := by
  cases mask with
  | none => rfl
  | v4 o =>
    rw [exists_hasLength_v4_iff] at h
    rw [check_v4, if_neg h]
  | v6 g =>
    rw [exists_hasLength_v6_iff] at h
    rw [check_v6, if_neg h]

theorem check_eq_ok_iff (mask : IpAddress) : check mask = .ok () ↔ ∃ n, HasLength mask n := by
  constructor
  · intro hcheck
    by_contra h
    rw [check_of_no_length h] at hcheck
    cases hcheck
  · rintro ⟨n, h⟩
    exact check_of_hasLength h

/-- The length of a mask is its number of one bits. -/
theorem length_of_hasLength {mask : IpAddress} {n : UInt8} (h : HasLength mask n) :
    length mask = .ok n.toNat := by
  rw [length, check_of_hasLength h]
  cases mask with
  | none => cases h
  | v4 o =>
    obtain ⟨⟨-, hle⟩, hbits⟩ := hasLength_v4_iff.1 h
    show Except.ok o.pack.toBitVec.cpop.toNat = _
    rw [hbits, toNat_cpop_bits, Nat.min_eq_left hle]
  | v6 g =>
    obtain ⟨hle, hbits⟩ := hasLength_v6_iff.1 h
    show Except.ok g.pack.ones = _
    rw [ones_eq, hbits, toNat_cpop_bits, Nat.min_eq_left hle]

theorem length_of_no_length {mask : IpAddress} (h : ¬ ∃ n, HasLength mask n) :
    length mask = .error (refusal mask) := by
  rw [length, check_of_no_length h]

/-- An IPv4 address is accepted exactly when it is the mask of a length from 1 to 32, an IPv6 address
exactly when it is the mask of a length from 0 to 128. It is the mask of no other length, and this
length is the one that is read off it; an address that is no mask is malformed, and an unset one is of
the wrong family. The mask of any count starts with so many one bits, up to the width, and has no
others. -/
theorem accepts_prefix_masks :
    (∀ mask : IpAddress,
      (check mask = .ok () ↔ ∃ n, HasLength mask n) ∧
      (∀ n, HasLength mask n →
        length mask = .ok n.toNat ∧ ∀ k, HasLength mask k → k = n) ∧
      ((¬ ∃ n, HasLength mask n) →
        check mask = .error (refusal mask) ∧ length mask = .error (refusal mask))) ∧
    (∀ count : UInt8,
      (v4 count).toBitVec.cpop.toNat = min count.toNat 32 ∧
      (∀ i < 32, (v4 count).toBitVec.getMsbD i = decide (i < count.toNat)) ∧
      (v6 count).ones = min count.toNat 128 ∧
      (∀ i < 128, (v6 count).toBits.getMsbD i = decide (i < count.toNat))) := by
  constructor
  · intro mask
    refine ⟨check_eq_ok_iff mask, ?_, ?_⟩
    · intro n h
      refine ⟨length_of_hasLength h, ?_⟩
      intro k hk
      exact hk.unique h
    · intro h
      exact ⟨check_of_no_length h, length_of_no_length h⟩
  · intro count
    refine ⟨toNat_cpop_bits 32 _, ?_, ?_, ?_⟩
    · intro i hi
      exact getMsbD_bits 32 _ hi
    · rw [ones_eq, v6, PackedV6.toBits_ofBits, toNat_cpop_bits]
    · intro i hi
      rw [v6, PackedV6.toBits_ofBits, getMsbD_bits 128 _ hi]

/-- A mask of twenty bits, and ones behind a zero octet. -/
theorem accepts_prefix_masks_twenty :
    HasLength (.v4 #v[255, 255, 240, 0]) 20 ∧
    length (.v4 #v[255, 255, 240, 0]) = .ok 20 ∧
    (¬ ∃ n, HasLength (.v4 #v[255, 255, 0, 255]) n) ∧
    check (.v4 #v[255, 255, 0, 255]) = .error (refusal (.v4 #v[255, 255, 0, 255])) ∧
    (19 < 32 ∧ (v4 20).toBitVec.getMsbD 19 = true) ∧
    (20 < 128 ∧ (v6 20).toBits.getMsbD 20 = false) := by
  obtain ⟨hmasks, hcounts⟩ := accepts_prefix_masks
  have htwenty : HasLength (.v4 #v[255, 255, 240, 0]) 20 := .v4 (by decide) (by decide) (by decide)
  have hbroken : ¬ ∃ n, HasLength (.v4 #v[255, 255, 0, 255]) n := by
    rw [exists_hasLength_v4_iff]
    decide +kernel
  exact ⟨htwenty, ((hmasks _).2.1 20 htwenty).1, hbroken, ((hmasks _).2.2 hbroken).1,
    ⟨by decide, (hcounts 20).2.1 19 (by decide)⟩, ⟨by decide, (hcounts 20).2.2.2 20 (by decide)⟩⟩

end LinkWatch.Netmask
