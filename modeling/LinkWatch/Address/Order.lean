import LinkWatch.Address.Assignment

/-!
# Order of addresses

Addresses of one family compare as their octets or groups do, the first difference deciding;
addresses of different families compare as unset, IPv4, IPv6. Two unset addresses have no order.
Packed IPv6 addresses compare as numbers, and addresses with netmasks first by the address.
-/

namespace LinkWatch

/-- The place of a family in the order of addresses: unset, IPv4, IPv6. -/
def AddressFamily.rank : AddressFamily → Nat
  | none => 0
  | v4 => 1
  | v6 => 2

namespace PackedV6

/-- The order of packed addresses: the high words decide, then the low words. -/
def order (p q : PackedV6) : Ordering :=
  (compare p.high q.high).then (compare p.low q.low)

end PackedV6

namespace IpAddress

/-- Compares two addresses, or fails when both are unset. -/
def order (a b : IpAddress) : Except AddressError Ordering :=
  match a, b with
  | none, none => .error (.mismatch .comparison)
  | v4 x, v4 y => .ok (List.compareLex compare x.toList y.toList)
  | v6 x, v6 y => .ok (List.compareLex compare x.toList y.toList)
  | _, _ => .ok (compare a.family.rank b.family.rank)

end IpAddress

namespace Assignment

/-- Compares the addresses and, when they are equal, the netmasks. -/
def order (a b : Assignment) : Except AddressError Ordering :=
  match a.address.order b.address with
  | .ok .eq => a.netmask.order b.netmask
  | other => other

end Assignment
end LinkWatch
