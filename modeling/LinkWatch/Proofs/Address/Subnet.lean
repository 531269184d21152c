import LinkWatch.Address.Assignment
import LinkWatch.Proofs.Address.Bitwise
import LinkWatch.Proofs.Address.Netmask

/-!
# Networks of addresses

A netmask of a length keeps the first bits of an address and leaves the others free, so that the
addresses of a network are the numbers with one quotient by a power of two (`div_two_pow_eq_iff`), and
its base and its broadcast address are the first and the last of them (`subnet_is_interval`). A network
lies inside another exactly when one of its addresses does and its mask is at least as long
(`forall_between_iff`), and this is what the comparison with the private blocks finds out
(`private_iff_whole_network`).
-/

namespace LinkWatch

open IpAddress

/-! ## Numbers with one quotient -/

section Quotients

variable {k w x y : Nat}

/-- The numbers with the same quotient reach from its multiple to just before the next one. -/
theorem div_two_pow_eq_iff :
    y / 2 ^ k = x / 2 ^ k ↔
      x / 2 ^ k * 2 ^ k ≤ y ∧ y ≤ x / 2 ^ k * 2 ^ k + (2 ^ k - 1) := by
  have hpos := Nat.two_pow_pos k
  rw [Nat.div_eq_iff hpos, Nat.add_sub_assoc hpos]

/-- They end below a greater power. -/
theorem div_mul_two_pow_le (hk : k ≤ w) (hx : x < 2 ^ w) : x / 2 ^ k * 2 ^ k + 2 ^ k ≤ 2 ^ w := by
  have hlt : x / 2 ^ k < 2 ^ (w - k) := by
    rw [Nat.div_lt_iff_lt_mul (Nat.two_pow_pos k), ← Nat.pow_add, Nat.sub_add_cancel hk]
    exact hx
  have hle := Nat.mul_le_mul_right (2 ^ k) (Nat.succ_le_of_lt hlt)
  rwa [← Nat.pow_add, Nat.sub_add_cancel hk, Nat.succ_mul] at hle

/-- Leading ones keep the quotient. -/
theorem and_leading_eq (hk : k ≤ w) (hx : x < 2 ^ w) :
    x &&& 2 ^ w - 2 ^ k = x / 2 ^ k * 2 ^ k := by
  have hsplit : 2 ^ w = 2 ^ (w - k) * 2 ^ k := by rw [← Nat.pow_add, Nat.sub_add_cancel hk]
  have hlt : x / 2 ^ k < 2 ^ (w - k) := by
    rw [Nat.div_lt_iff_lt_mul (Nat.two_pow_pos k), ← hsplit]
    exact hx
  -- the mask has `w - k` ones before `k` zeros, so that the higher bits stay and the lower ones go
  have hparts := BitOperation.and.on_mul_add (a := x / 2 ^ k) (c := 2 ^ (w - k) - 1)
    (Nat.mod_lt x (Nat.two_pow_pos k)) (Nat.two_pow_pos k)
  rw [Nat.div_add_mod', Nat.add_zero, Nat.sub_one_mul, ← hsplit] at hparts
  show BitOperation.and.on x _ = _
  rw [hparts]
  show (x / 2 ^ k &&& 2 ^ (w - k) - 1) * 2 ^ k + (x % 2 ^ k &&& 0) = _
  rw [Nat.and_zero, Nat.add_zero, Nat.and_two_pow_sub_one_of_lt_two_pow hlt]

/-- Ones in all the last places make the last number with the quotient. -/
theorem or_trailing_eq (k x : Nat) : x ||| 2 ^ k - 1 = x / 2 ^ k * 2 ^ k + (2 ^ k - 1) := by
  have hpos := Nat.two_pow_pos k
  have hmod := Nat.mod_lt x hpos
  have hfree : 2 ^ k - 1 < 2 ^ k := by omega
  -- the upper and the lower part by themselves: the upper one stays, the lower one becomes all ones
  have hparts := BitOperation.or.on_mul_add (a := x / 2 ^ k) (c := 0) hmod hfree
  rw [Nat.div_add_mod', Nat.zero_mul, Nat.zero_add] at hparts
  have hones : x % 2 ^ k ||| 2 ^ k - 1 = 2 ^ k - 1 := by
    have hlt : x % 2 ^ k ||| 2 ^ k - 1 < 2 ^ k := Nat.or_lt_two_pow hmod hfree
    have hle : 2 ^ k - 1 ≤ x % 2 ^ k ||| 2 ^ k - 1 := Nat.right_le_or
    omega
  show BitOperation.or.on x _ = _
  rw [hparts]
  show (x / 2 ^ k ||| 0) * 2 ^ k + (x % 2 ^ k ||| 2 ^ k - 1) = _
  rw [Nat.or_zero, hones]

/-- All numbers with a quotient by one power have the same quotient by another exactly when one of them
has it and the other power is not smaller. -/
theorem forall_div_two_pow_iff {j c : Nat} (hk : k ≤ w) (hx : x < 2 ^ w) :
    (∀ y < 2 ^ w, y / 2 ^ k = x / 2 ^ k → y / 2 ^ j = c) ↔ x / 2 ^ j = c ∧ k ≤ j := by
  constructor
  · intro h
    refine ⟨h x hx rfl, Nat.le_of_not_lt ?_⟩
    intro hlt
    -- the first number and the one `2 ^ j` further on have different quotients
    have hpos := Nat.two_pow_pos j
    have hroom : 2 ^ j < 2 ^ k := Nat.pow_lt_pow_right Nat.one_lt_two hlt
    have hend := div_mul_two_pow_le hk hx
    have hfirst := h (x / 2 ^ k * 2 ^ k) (by omega) (Nat.mul_div_cancel _ (Nat.two_pow_pos k))
    have hnext := h (x / 2 ^ k * 2 ^ k + 2 ^ j) (by omega)
      (by rw [div_two_pow_eq_iff]; omega)
    rw [Nat.add_div_right _ hpos, hfirst] at hnext
    exact Nat.succ_ne_self c hnext
  · rintro ⟨rfl, hle⟩ y - hy
    rw [← Nat.add_sub_cancel' hle, Nat.pow_add, ← Nat.div_div_eq_div_mul, hy,
      Nat.div_div_eq_div_mul]

end Quotients

/-! ## Masks as numbers -/

namespace Netmask

/-- The number of bits that a mask of a length leaves free. -/
def freeBits (n : UInt8) : Nat := 32 - n.toNat

theorem freeBits_le (n : UInt8) : freeBits n ≤ 32 := Nat.sub_le 32 n.toNat

theorem two_pow_freeBits_le (n : UInt8) : 2 ^ freeBits n ≤ 2 ^ 32 :=
  Nat.pow_le_pow_right Nat.two_pos (freeBits_le n)

section Length

variable {m n : UInt8} (hm : m.toNat ≤ 32) (hn : n.toNat ≤ 32)

include hn

theorem toNat_v4 : (v4 n).toNat = 2 ^ 32 - 2 ^ freeBits n := by
  rw [← UInt32.toNat_toBitVec, v4, toNat_bits hn, freeBits]

theorem toNat_not_v4 : (~~~v4 n).toNat = 2 ^ freeBits n - 1 := by
  have hpos := Nat.two_pow_pos (freeBits n)
  have hle := two_pow_freeBits_le n
  rw [UInt32.toNat_not, toNat_v4 hn]
  show 2 ^ 32 - 1 - (2 ^ 32 - 2 ^ freeBits n) = 2 ^ freeBits n - 1
  omega

include hm

/-- Of two masks the longer is the greater number. -/
theorem v4_le_v4_iff : v4 m ≤ v4 n ↔ freeBits n ≤ freeBits m := by
  have hlem := two_pow_freeBits_le m
  have hlen := two_pow_freeBits_le n
  have hpow : 2 ^ freeBits n ≤ 2 ^ freeBits m ↔ freeBits n ≤ freeBits m :=
    Nat.pow_le_pow_iff_right Nat.one_lt_two
  rw [UInt32.le_iff_toNat_le, toNat_v4 hm, toNat_v4 hn, ← hpow]
  omega

end Length

theorem HasLength.pack_eq {m : Octets} {n : UInt8} (h : HasLength (.v4 m) n) :
    n.toNat ≤ 32 ∧ m.pack = Netmask.v4 n := by
  obtain ⟨⟨-, hle⟩, hbits⟩ := hasLength_v4_iff.1 h
  exact ⟨hle, UInt32.toBitVec_inj.1 hbits⟩

end Netmask

/-! ## The first and the last address -/

namespace Octets

/-- The first address with the same bits before the last `k`. -/
def lowest (k : Nat) (o : Octets) : IpAddress :=
  ofNumber .v4 (o.value / 2 ^ k * 2 ^ k)

/-- The last address with the same bits before the last `k`. -/
def highest (k : Nat) (o : Octets) : IpAddress :=
  ofNumber .v4 (o.value / 2 ^ k * 2 ^ k + (2 ^ k - 1))

section Ends

variable {k : Nat} (hk : k ≤ 32) (o : Octets)

include hk

theorem value_lowest : (o.lowest k).value = o.value / 2 ^ k * 2 ^ k := by
  have hle := div_mul_two_pow_le hk o.value_lt
  have hpos := Nat.two_pow_pos k
  rw [lowest, value_ofNumber]
  exact Nat.mod_eq_of_lt (show _ < 2 ^ 32 by omega)

theorem value_highest : (o.highest k).value = o.value / 2 ^ k * 2 ^ k + (2 ^ k - 1) := by
  have hle := div_mul_two_pow_le hk o.value_lt
  have hpos := Nat.two_pow_pos k
  rw [highest, value_ofNumber]
  exact Nat.mod_eq_of_lt (show _ < 2 ^ 32 by omega)

/-- The addresses from the first to the last are those with the same quotient. -/
theorem between_iff (x : Octets) :
    (o.lowest k).AtMost (v4 x) ∧ AtMost (v4 x) (o.highest k) ↔
      x.value / 2 ^ k = o.value / 2 ^ k := by
  have hlow : SameFamily (o.lowest k) (v4 x) := sameFamily_iff.2 ⟨rfl, rfl⟩
  have hhigh : SameFamily (v4 x) (o.highest k) := sameFamily_iff.2 ⟨rfl, rfl⟩
  rw [atMost_iff hlow, atMost_iff hhigh, value_lowest hk, value_highest hk, div_two_pow_eq_iff]
  rfl

end Ends

end Octets

/-! ## Base and broadcast address -/

namespace Assignment

open Netmask

theorem packed_v4 (o m : Octets) (operation : AddressOperation) :
    packed ⟨.v4 o, .v4 m⟩ operation = (check (.v4 m)).map fun _ => (o.pack, m.pack) := by
  unfold packed
  dsimp only
  show _ = (checkV4 (.v4 m)).map fun _ => (o.pack, m.pack)
  cases checkV4 (.v4 m) with
  | ok _ => rfl
  | error e => rfl

/-- Beside an address of another family an IPv4 netmask is not checked. -/
theorem packed_of_family_ne {a : IpAddress} (h : a.family ≠ .v4) (m : Octets)
    (operation : AddressOperation) :
    packed ⟨a, .v4 m⟩ operation = .error (.mismatch operation) := by
  cases a with
  | none => rfl
  | v4 o => exact absurd rfl h
  | v6 g => rfl

theorem ofPackedV4_eq (w : UInt32) : ofPackedV4 w = ofNumber .v4 w.toNat := by
  rw [ofPackedV4, ofNumber, UInt32.ofNat_toNat]

section Masked

variable {m : Octets} {n : UInt8} (h : HasLength (.v4 m) n) (o : Octets)

include h

theorem value_and_mask : o.value &&& m.value = o.value / 2 ^ freeBits n * 2 ^ freeBits n := by
  obtain ⟨hle, hpack⟩ := h.pack_eq
  rw [← m.toNat_pack, hpack, toNat_v4 hle, and_leading_eq (freeBits_le n) o.value_lt]

theorem base_eq : base ⟨.v4 o, .v4 m⟩ = .ok (o.lowest (freeBits n)) := by
  rw [base, packed_v4, check_of_hasLength h]
  show Except.ok (ofPackedV4 (o.pack &&& m.pack)) = _
  rw [ofPackedV4_eq, UInt32.toNat_and, o.toNat_pack, m.toNat_pack, value_and_mask h, Octets.lowest]

theorem broadcast_eq : broadcast ⟨.v4 o, .v4 m⟩ = .ok (o.highest (freeBits n)) := by
  obtain ⟨hle, hpack⟩ := h.pack_eq
  rw [broadcast, packed_v4, check_of_hasLength h]
  show Except.ok (ofPackedV4 (o.pack ||| ~~~m.pack)) = _
  rw [ofPackedV4_eq, UInt32.toNat_or, hpack, toNat_not_v4 hle, o.toNat_pack, or_trailing_eq,
    Octets.highest]

/-- The mask takes an address to the first address of a network exactly from inside of it. -/
theorem bitAnd_eq_lowest_iff (x : Octets) :
    bitAnd (.v4 x) (.v4 m) = .ok (o.lowest (freeBits n)) ↔
      x.value / 2 ^ freeBits n = o.value / 2 ^ freeBits n := by
  rw [bitAnd, combine_eq_ok_iff .and (.v4 x m), Octets.value_lowest (freeBits_le n)]
  show AddressFamily.v4 = .v4 ∧ _ = x.value &&& m.value ↔ _
  rw [value_and_mask h, Nat.mul_left_inj (Nat.ne_of_gt (Nat.two_pow_pos _))]
  exact (and_iff_right rfl).trans eq_comm

end Masked

/-- With a valid netmask, the base and the broadcast address are the ends of an interval of as many
addresses as the bits behind the mask can tell apart, the given one among them. The addresses in it are
those that the mask takes to the base address, and each of them has the same base and broadcast
address. -/
theorem subnet_is_interval {o m : Octets} (hvalid : check (.v4 m) = .ok ()) :
    ∃ p first last,
      (maskLength ⟨.v4 o, .v4 m⟩ = .ok p ∧ 1 ≤ p ∧ p ≤ 32) ∧
      base ⟨.v4 o, .v4 m⟩ = .ok first ∧ broadcast ⟨.v4 o, .v4 m⟩ = .ok last ∧
      (∀ x : Octets, bitAnd (.v4 x) (.v4 m) = .ok first ↔
        first.AtMost (.v4 x) ∧ AtMost (.v4 x) last) ∧
      (first.AtMost (.v4 o) ∧ AtMost (.v4 o) last) ∧
      last.value = first.value + (2 ^ (32 - p) - 1) ∧
      (∀ x : Octets, first.AtMost (.v4 x) → AtMost (.v4 x) last →
        base ⟨.v4 x, .v4 m⟩ = .ok first ∧ broadcast ⟨.v4 x, .v4 m⟩ = .ok last) := by
  obtain ⟨n, h⟩ := (check_eq_ok_iff _).1 hvalid
  have hk := freeBits_le n
  refine ⟨n.toNat, o.lowest (freeBits n), o.highest (freeBits n),
    ⟨length_of_hasLength h, (hasLength_v4_iff.1 h).1⟩, base_eq h o, broadcast_eq h o, ?_,
    (Octets.between_iff hk o o).2 rfl, ?_, ?_⟩
  · intro x
    rw [bitAnd_eq_lowest_iff h, Octets.between_iff hk]
  · rw [Octets.value_highest hk, Octets.value_lowest hk, freeBits]
  · intro x hfirst hlast
    have hsame := (Octets.between_iff hk o x).1 ⟨hfirst, hlast⟩
    rw [base_eq h, broadcast_eq h, Octets.lowest, Octets.highest, hsame]
    exact ⟨rfl, rfl⟩

/-- A mask that ends inside an octet. -/
theorem subnet_is_interval_partial_octet :
    check (.v4 #v[255, 255, 240, 0]) = .ok () ∧
    ∃ first last,
      base ⟨.v4 #v[192, 168, 20, 1], .v4 #v[255, 255, 240, 0]⟩ = .ok first ∧
      broadcast ⟨.v4 #v[192, 168, 20, 1], .v4 #v[255, 255, 240, 0]⟩ = .ok last ∧
      last.value = first.value + 4095 ∧
      (bitAnd (.v4 #v[192, 168, 31, 255]) (.v4 #v[255, 255, 240, 0]) = .ok first ↔
        first.AtMost (.v4 #v[192, 168, 31, 255]) ∧ AtMost (.v4 #v[192, 168, 31, 255]) last) := by
  have htwenty : HasLength (.v4 #v[255, 255, 240, 0]) 20 := .v4 (by decide) (by decide) (by decide)
  have hvalid := check_of_hasLength htwenty
  obtain ⟨p, first, last, ⟨hp, -⟩, hfirst, hlast, hmask, -, hsize, -⟩ :=
    subnet_is_interval (o := #v[192, 168, 20, 1]) hvalid
  obtain rfl : 20 = p := Except.ok.inj ((length_of_hasLength htwenty).symm.trans hp)
  exact ⟨hvalid, first, last, hfirst, hlast, hsize, hmask _⟩

end Assignment

/-! ## Addresses inside a network -/

open Netmask

namespace Octets

/-- An address starts with the first bits of another, so many. -/
def InNetwork (x start : Octets) (length : UInt8) : Prop :=
  x.value / 2 ^ freeBits length = start.value / 2 ^ freeBits length

/-- The octets stand for all numbers below the power. -/
theorem forall_value_iff {P : Nat → Prop} : (∀ x : Octets, P x.value) ↔ ∀ y < 2 ^ 32, P y := by
  constructor
  · intro h y hy
    have hvalue := h (.unpack (UInt32.ofNat y))
    rwa [value_unpack, UInt32.toNat_ofNat_of_lt' hy] at hvalue
  · intro h x
    exact h x.value x.value_lt

/-- All addresses from a first to a last one are in a network exactly when one of them is, and no more
bits are free between them than in the network. -/
theorem forall_between_iff {k : Nat} (hk : k ≤ 32) (o start : Octets) (length : UInt8) :
    (∀ x : Octets, (o.lowest k).AtMost (v4 x) → AtMost (v4 x) (o.highest k) →
      x.InNetwork start length) ↔ o.InNetwork start length ∧ k ≤ freeBits length := by
  simp only [← and_imp, between_iff hk, InNetwork]
  rw [forall_value_iff (P := fun y =>
    y / 2 ^ k = o.value / 2 ^ k → y / 2 ^ freeBits length = start.value / 2 ^ freeBits length)]
  exact forall_div_two_pow_iff hk o.value_lt

end Octets

/-! ## Private networks -/

/-- The private networks, each by its first address and the length of its mask: 10.0.0.0/8,
172.16.0.0/12 and 192.168.0.0/16. -/
def privateNetworks : List (Octets × UInt8) :=
  [(#v[10, 0, 0, 0], 8), (#v[172, 16, 0, 0], 12), (#v[192, 168, 0, 0], 16)]

namespace PrivateBlock

/-- The block of a network, from its first to its last address. -/
def ofNetwork (network : Octets × UInt8) : PrivateBlock :=
  ⟨network.1.pack, network.1.pack ||| ~~~Netmask.v4 network.2, Netmask.v4 network.2⟩

/-- The blocks are those of the private networks. -/
theorem all_eq : all = privateNetworks.map ofNetwork := rfl

/-- Every private network starts where the bits behind its mask are zero. -/
theorem aligned_of_mem : ∀ network ∈ privateNetworks,
    network.2.toNat ≤ 32 ∧ network.1.value % 2 ^ freeBits network.2 = 0 := by
  decide

/-- A block lets an address with its mask pass exactly when the address is in the network and its mask
is at least as long. -/
theorem passes_iff {network : Octets × UInt8} (hnetwork : network ∈ privateNetworks) {m : Octets}
    {n : UInt8} (h : HasLength (.v4 m) n) (o : Octets) :
    ((ofNetwork network).first ≤ o.pack ∧ o.pack ≤ (ofNetwork network).last) ∧
        (ofNetwork network).mask ≤ m.pack ↔
      o.InNetwork network.1 network.2 ∧ freeBits n ≤ freeBits network.2 := by
  obtain ⟨start, length⟩ := network
  obtain ⟨hlength, haligned⟩ := aligned_of_mem _ hnetwork
  obtain ⟨hle, hpack⟩ := h.pack_eq
  have hstart : start.value / 2 ^ freeBits length * 2 ^ freeBits length = start.value :=
    Nat.div_mul_cancel (Nat.dvd_of_mod_eq_zero haligned)
  -- from the first to the last address of the block are those with the quotient of its network
  have hinside : start.pack ≤ o.pack ∧ o.pack ≤ start.pack ||| ~~~Netmask.v4 length ↔
      o.InNetwork start length := by
    rw [Octets.InNetwork, div_two_pow_eq_iff, hstart, UInt32.le_iff_toNat_le,
      UInt32.le_iff_toNat_le, UInt32.toNat_or, toNat_not_v4 hlength, o.toNat_pack, start.toNat_pack,
      or_trailing_eq, hstart]
  show (start.pack ≤ o.pack ∧ o.pack ≤ start.pack ||| ~~~Netmask.v4 length) ∧
    Netmask.v4 length ≤ m.pack ↔ _
  rw [hinside, hpack, v4_le_v4_iff hlength hle]

end PrivateBlock

namespace Assignment

theorem isPrivate_of_hasLength {m : Octets} {n : UInt8} (h : HasLength (.v4 m) n) (o : Octets) :
    ∃ answer, isPrivate ⟨.v4 o, .v4 m⟩ = .ok answer ∧
      (answer = true ↔
        ∃ network ∈ privateNetworks,
          o.InNetwork network.1 network.2 ∧ freeBits n ≤ freeBits network.2) := by
  rw [isPrivate, packed_v4, check_of_hasLength h]
  refine ⟨_, rfl, ?_⟩
  show (PrivateBlock.all.any fun b => b.first ≤ o.pack && o.pack ≤ b.last && b.mask ≤ m.pack) =
    true ↔ _
  rw [PrivateBlock.all_eq, List.any_map, List.any_eq_true]
  apply exists_congr
  intro network
  apply and_congr_right
  intro hnetwork
  rw [← PrivateBlock.passes_iff hnetwork h o]
  simp only [Function.comp_apply, Bool.and_eq_true, decide_eq_true_eq]

/-- With a valid netmask, an IPv4 address counts as private exactly when all addresses of its network
lie in one of the private networks. With a netmask that has no length there is no answer for any IPv4
address; with an address that is not IPv4 the netmask is not looked at. -/
theorem private_iff_whole_network (m : Octets) :
    (∀ o : Octets, check (.v4 m) = .ok () →
      ∃ first last answer,
        base ⟨.v4 o, .v4 m⟩ = .ok first ∧ broadcast ⟨.v4 o, .v4 m⟩ = .ok last ∧
        isPrivate ⟨.v4 o, .v4 m⟩ = .ok answer ∧
        (answer = true ↔
          ∃ network ∈ privateNetworks, ∀ x : Octets,
            first.AtMost (.v4 x) → AtMost (.v4 x) last → x.InNetwork network.1 network.2)) ∧
    (∀ o : Octets, (¬ ∃ n, HasLength (.v4 m) n) →
      isPrivate ⟨.v4 o, .v4 m⟩ = .error (refusal (.v4 m))) ∧
    (∀ a : IpAddress, a.family ≠ .v4 →
      isPrivate ⟨a, .v4 m⟩ = .error (.mismatch .privateCheck)) := by
  refine ⟨?_, ?_, ?_⟩
  · intro o hvalid
    obtain ⟨n, h⟩ := (check_eq_ok_iff _).1 hvalid
    obtain ⟨answer, hanswer, hprivate⟩ := isPrivate_of_hasLength h o
    refine ⟨_, _, answer, base_eq h o, broadcast_eq h o, hanswer, ?_⟩
    simp only [Octets.forall_between_iff (freeBits_le n), hprivate]
  · intro o h
    rw [isPrivate, packed_v4, check_of_no_length h]
    rfl
  · intro a ha
    rw [isPrivate, packed_of_family_ne ha]
    rfl

/-- A network of one private block, a mask with a hole, and no address at all. -/
theorem private_iff_whole_network_block :
    (check (.v4 #v[255, 240, 0, 0]) = .ok () ∧
      ∃ first last,
        base ⟨.v4 #v[172, 20, 1, 2], .v4 #v[255, 240, 0, 0]⟩ = .ok first ∧
        broadcast ⟨.v4 #v[172, 20, 1, 2], .v4 #v[255, 240, 0, 0]⟩ = .ok last ∧
        ∃ network ∈ privateNetworks, ∀ x : Octets,
          first.AtMost (.v4 x) → AtMost (.v4 x) last → x.InNetwork network.1 network.2) ∧
    ((¬ ∃ n, HasLength (.v4 #v[255, 255, 0, 255]) n) ∧
      isPrivate ⟨.v4 #v[192, 168, 0, 1], .v4 #v[255, 255, 0, 255]⟩ =
        .error (refusal (.v4 #v[255, 255, 0, 255]))) ∧
    (IpAddress.none.family ≠ .v4 ∧
      isPrivate ⟨.none, .v4 #v[255, 240, 0, 0]⟩ = .error (.mismatch .privateCheck)) := by
  have htwelve : HasLength (.v4 #v[255, 240, 0, 0]) 12 := .v4 (by decide) (by decide) (by decide)
  have hvalid := check_of_hasLength htwelve
  have hbroken : ¬ ∃ n, HasLength (.v4 #v[255, 255, 0, 255]) n := by
    rw [exists_hasLength_v4_iff]
    decide +kernel
  have hunset : IpAddress.none.family ≠ .v4 := by decide
  have htrue : isPrivate ⟨.v4 #v[172, 20, 1, 2], .v4 #v[255, 240, 0, 0]⟩ = .ok true := by
    decide +kernel
  obtain ⟨first, last, answer, hfirst, hlast, hanswer, hprivate⟩ :=
    (private_iff_whole_network #v[255, 240, 0, 0]).1 #v[172, 20, 1, 2] hvalid
  have hinside := hprivate.1 (Except.ok.inj (hanswer.symm.trans htrue))
  exact ⟨⟨hvalid, first, last, hfirst, hlast, hinside⟩,
    ⟨hbroken, (private_iff_whole_network #v[255, 255, 0, 255]).2.1 #v[192, 168, 0, 1] hbroken⟩,
    ⟨hunset, (private_iff_whole_network #v[255, 240, 0, 0]).2.2 _ hunset⟩⟩

/-- Beside an IPv6 address a netmask with a hole is not what is wrong. -/
theorem broken_mask_beside_v6 :
    check (.v4 #v[255, 0, 255, 0]) = .error (.malformed "255.0.255.0" .brokenNetmask) ∧
    isPrivate ⟨.v6 #v[0, 0, 0, 0, 0, 0, 0, 1], .v4 #v[255, 0, 255, 0]⟩ =
      .error (.mismatch .privateCheck) ∧
    ∀ input flaw, isPrivate ⟨.v6 #v[0, 0, 0, 0, 0, 0, 0, 1], .v4 #v[255, 0, 255, 0]⟩ ≠
      .error (.malformed input flaw) := by
  refine ⟨?_, rfl, nofun⟩
  decide +kernel

end Assignment

end LinkWatch
