import LinkWatch.Address.Order
import LinkWatch.Proofs.Address.Bitwise

/-!
# Order

Addresses stand in a row, first the unset one, then all of IPv4, then all of IPv6, and each has its place
(`position`). Two addresses compare as their places do, unless both are unset (`order_eq_ok_iff`).
Assignments compare as their addresses, and where these are equal as their netmasks. Both comparisons obey
the same laws (`OrderLaws`), though neither is total: on assignments the laws follow from those on
addresses alone, since an address that is equal to another compares with all others as this one does
(`orders_are_lawful`).
-/

namespace LinkWatch

/-- The laws of a comparison that fails on some pairs. -/
structure OrderLaws {α : Type} (order : α → α → Except AddressError Ordering)
    (unordered : α → α → Prop) : Prop where
  /-- It fails on these pairs and on no others. -/
  error_iff : ∀ {a b e}, order a b = .error e ↔ unordered a b ∧ e = .mismatch .comparison
  /-- Of the others, just those of one element with itself are equal. -/
  eq_iff : ∀ {a b r}, order a b = .ok r → (r = .eq ↔ a = b)
  swap : ∀ {a b r}, order a b = .ok r → order b a = .ok r.swap
  /-- What is between two elements makes them comparable. -/
  trans : ∀ {a b c}, order a b = .ok .lt → order b c = .ok .lt → order a c = .ok .lt

/-! ## Addresses -/

namespace IpAddress

/-- The place of an address among all addresses. -/
def position (a : IpAddress) : Nat := a.family.rank * 2 ^ 128 + a.value

/-- All values fit into 128 bits. -/
theorem value_lt_two_pow (a : IpAddress) : a.value < 2 ^ 128 := by
  have hwidth : a.family.width ≤ 128 := by
    cases a.family <;> decide
  exact Nat.lt_of_lt_of_le a.value_lt (Nat.pow_le_pow_right (by decide) hwidth)

/-- The families come one after another. -/
theorem compare_position (a b : IpAddress) :
    compare a.position b.position =
      (compare a.family.rank b.family.rank).then (compare a.value b.value) :=
  Text.Radix.compare_mul_add a.value_lt_two_pow b.value_lt_two_pow

/-- Different addresses have different places in the order. -/
theorem position_injective {a b : IpAddress} (h : a.position = b.position) : a = b := by
  have hcompare := compare_position a b
  rw [h, Nat.compare_eq_eq.2 rfl, eq_comm, Ordering.then_eq_eq] at hcompare
  have hrank : a.family.rank = b.family.rank := Nat.compare_eq_eq.1 hcompare.1
  have hfamily : a.family = b.family := by
    revert hrank
    cases a.family <;> cases b.family <;> decide
  exact eq_of_value_eq hfamily (Nat.compare_eq_eq.1 hcompare.2)

/-- The family decides first, as it does for the places. -/
theorem order_of_set {a b : IpAddress} (h : ¬ (a = none ∧ b = none)) :
    a.order b = .ok (compare a.position b.position) := by
  rw [compare_position]
  cases a with
  | none =>
    cases b with
    | none => exact absurd ⟨rfl, rfl⟩ h
    | v4 y => rfl
    | v6 y => rfl
  | v4 x =>
    cases b with
    | none => rfl
    | v4 y => exact order_of_sameFamily (.v4 x y)
    | v6 y => rfl
  | v6 x =>
    cases b with
    | none => rfl
    | v4 y => rfl
    | v6 y => exact order_of_sameFamily (.v6 x y)

theorem order_of_unset : none.order none = .error (.mismatch .comparison) := rfl

/-- Two unset addresses are all that cannot be compared. -/
theorem order_eq_error_iff {a b : IpAddress} {e : AddressError} :
    a.order b = .error e ↔ (a = none ∧ b = none) ∧ e = .mismatch .comparison := by
  by_cases h : a = none ∧ b = none
  · obtain ⟨rfl, rfl⟩ := h
    rw [order_of_unset, Except.error.injEq, eq_comm]
    exact (and_iff_right ⟨rfl, rfl⟩).symm
  · rw [order_of_set h]
    constructor
    · intro he
      cases he
    · rintro ⟨hunset, -⟩
      exact absurd hunset h

/-- All other addresses compare as their places do. -/
theorem order_eq_ok_iff {a b : IpAddress} {r : Ordering} :
    a.order b = .ok r ↔ ¬ (a = none ∧ b = none) ∧ compare a.position b.position = r := by
  by_cases h : a = none ∧ b = none
  · obtain ⟨rfl, rfl⟩ := h
    rw [order_of_unset]
    constructor
    · intro hr
      cases hr
    · rintro ⟨hset, -⟩
      exact absurd ⟨rfl, rfl⟩ hset
  · rw [order_of_set h, Except.ok.injEq]
    exact (and_iff_right h).symm

/-- The laws of the order of places, where two unset addresses are left out. -/
theorem order_lawful : OrderLaws order fun a b => a = none ∧ b = none where
  error_iff := order_eq_error_iff
  eq_iff := by
    intro a b r h
    obtain ⟨-, rfl⟩ := order_eq_ok_iff.1 h
    rw [Nat.compare_eq_eq]
    constructor
    · intro hplace
      exact position_injective hplace
    · rintro rfl
      rfl
  swap := by
    intro a b r h
    obtain ⟨hset, rfl⟩ := order_eq_ok_iff.1 h
    rw [Nat.compare_swap, order_eq_ok_iff]
    exact ⟨fun hunset => hset hunset.symm, rfl⟩
  trans := by
    intro a b c hab hbc
    have hlt : a.position < b.position := Nat.compare_eq_lt.1 (order_eq_ok_iff.1 hab).2
    have hlt' : b.position < c.position := Nat.compare_eq_lt.1 (order_eq_ok_iff.1 hbc).2
    rw [order_eq_ok_iff]
    constructor
    · -- the unset address has the first place, and `c` is behind another
      rintro ⟨-, rfl⟩
      exact Nat.not_lt_zero _ hlt'
    · exact Nat.compare_eq_lt.2 (Nat.lt_trans hlt hlt')

/-- Only the unset address has no place beside itself. -/
theorem order_self {a : IpAddress} (h : a ≠ none) : a.order a = .ok .eq := by
  rw [order_eq_ok_iff]
  exact ⟨fun hunset => h hunset.1, Nat.compare_eq_eq.2 rfl⟩

end IpAddress

/-! ## Assignments -/

namespace Assignment

/-- The masks are looked at only between equal addresses, and either comparison can fail. -/
theorem order_eq_error_iff {a b : Assignment} {e : AddressError} :
    a.order b = .error e ↔
      a.address.order b.address = .error e ∨
        (a.address.order b.address = .ok .eq ∧ a.netmask.order b.netmask = .error e) := by
  rw [order]
  constructor
  · intro h
    split at h
    · next htie => exact .inr ⟨htie, h⟩
    · exact .inl h
  · rintro (h | ⟨htie, h⟩)
    · rw [h]
    · rw [htie]
      exact h

/-- The addresses decide, or else the masks. -/
theorem order_eq_ok_iff {a b : Assignment} {r : Ordering} :
    a.order b = .ok r ↔
      (a.address.order b.address = .ok r ∧ r ≠ .eq) ∨
        (a.address.order b.address = .ok .eq ∧ a.netmask.order b.netmask = .ok r) := by
  rw [order]
  constructor
  · intro h
    split at h
    · next htie => exact .inr ⟨htie, h⟩
    · next hdecided =>
      refine .inl ⟨h, ?_⟩
      rintro rfl
      exact hdecided h
  · rintro (⟨h, hne⟩ | ⟨htie, h⟩)
    · rw [h]
      cases r with
      | eq => exact absurd rfl hne
      | lt => rfl
      | gt => rfl
    · rw [htie]
      exact h

/-- Two assignments that have no order. -/
def Unordered (a b : Assignment) : Prop :=
  (a.address = .none ∧ b.address = .none) ∨
    (a.address = b.address ∧ a.netmask = .none ∧ b.netmask = .none)

/-- The order of assignments is lawful where it is defined. -/
theorem order_lawful : OrderLaws order Unordered where
  error_iff := by
    intro a b e
    rw [order_eq_error_iff, IpAddress.order_eq_error_iff, IpAddress.order_eq_error_iff]
    constructor
    · rintro (⟨hunset, he⟩ | ⟨htie, hunset, he⟩)
      · exact ⟨.inl hunset, he⟩
      · exact ⟨.inr ⟨(IpAddress.order_lawful.eq_iff htie).1 rfl, hunset⟩, he⟩
    · rintro ⟨hunset | ⟨hsame, hunset⟩, he⟩
      · exact .inl ⟨hunset, he⟩
      · -- equal addresses tie, unless both are unset
        by_cases hset : b.address = .none
        · exact .inl ⟨⟨hsame.trans hset, hset⟩, he⟩
        · rw [hsame]
          exact .inr ⟨IpAddress.order_self hset, hunset, he⟩
  eq_iff := by
    intro a b r h
    rcases order_eq_ok_iff.1 h with ⟨haddress, hne⟩ | ⟨htie, hnetmask⟩
    · constructor
      · intro hr
        exact absurd hr hne
      · rintro rfl
        exact (IpAddress.order_lawful.eq_iff haddress).2 rfl
    · have hsame : a.address = b.address := (IpAddress.order_lawful.eq_iff htie).1 rfl
      obtain ⟨x, m⟩ := a
      obtain ⟨y, n⟩ := b
      rw [IpAddress.order_lawful.eq_iff hnetmask, mk.injEq]
      exact (and_iff_right hsame).symm
  swap := by
    intro a b r h
    rw [order_eq_ok_iff]
    rcases order_eq_ok_iff.1 h with ⟨haddress, hne⟩ | ⟨htie, hnetmask⟩
    · exact .inl ⟨IpAddress.order_lawful.swap haddress, fun heq => hne (Ordering.swap_eq_eq.1 heq)⟩
    · exact .inr ⟨IpAddress.order_lawful.swap htie, IpAddress.order_lawful.swap hnetmask⟩
  trans := by
    intro a b c hab hbc
    rw [order_eq_ok_iff]
    rcases order_eq_ok_iff.1 hab with ⟨hlt, -⟩ | ⟨htie, hmask⟩
    · rcases order_eq_ok_iff.1 hbc with ⟨hlt', -⟩ | ⟨htie', -⟩
      · exact .inl ⟨IpAddress.order_lawful.trans hlt hlt', nofun⟩
      · -- `c` has the address of `b`
        rw [← (IpAddress.order_lawful.eq_iff htie').1 rfl]
        exact .inl ⟨hlt, nofun⟩
    · -- `a` has the address of `b`
      rw [(IpAddress.order_lawful.eq_iff htie).1 rfl]
      rcases order_eq_ok_iff.1 hbc with ⟨hlt', -⟩ | ⟨htie', hmask'⟩
      · exact .inl ⟨hlt', nofun⟩
      · exact .inr ⟨htie', IpAddress.order_lawful.trans hmask hmask'⟩

end Assignment

/-- Addresses are ordered but for two unset ones, and assignments but for those with two unset addresses
and those with the same address and two unset netmasks. -/
theorem orders_are_lawful :
    OrderLaws IpAddress.order (fun a b => a = .none ∧ b = .none) ∧
      OrderLaws Assignment.order fun a b =>
        (a.address = .none ∧ b.address = .none) ∨
          (a.address = b.address ∧ a.netmask = .none ∧ b.netmask = .none) :=
  ⟨IpAddress.order_lawful, Assignment.order_lawful⟩

end LinkWatch
