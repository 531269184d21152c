import LinkWatch.Address.Reader

/-!
# IPv4 addresses inside IPv6

An IPv4 address embeds into IPv6 in two ways: after 96 zero bits (compatible), or after 80 zero
bits and 16 one bits (mapped). Extraction undoes an embedding and refuses any other address.
-/

namespace LinkWatch.IpAddress

/-- The IPv6 address of five zero groups, a given group and an IPv4 address. -/
def embed (group : UInt16) (o : Octets) : IpAddress :=
  .v6 #v[0, 0, 0, 0, 0, group, o.upper, o.lower]

/-- The address after 96 zero bits. -/
def compatible (a : IpAddress) : Except AddressError IpAddress := a.octets.map (embed 0)

/-- The address after 80 zero bits and 16 one bits. -/
def mapped (a : IpAddress) : Except AddressError IpAddress := a.octets.map (embed 0xffff)

/-- True for IPv6 addresses whose first 96 bits are zero. -/
def isCompatible : IpAddress → Bool
  | v6 g => g.isCompatible
  | _ => false

/-- True for IPv6 addresses of the mapped form. -/
def isMapped : IpAddress → Bool
  | v6 g => g.isMapped
  | _ => false

/-- The last 32 bits of an IPv6 address that passes a test. -/
def extract (test : Groups → Bool) (flaw : AddressFlaw) (a : IpAddress) :
    Except AddressError IpAddress :=
  match a.groups with
  | .error e => .error e
  | .ok g => if test g then .ok (.v4 g.embedded) else .error (.malformed a.text flaw)

/-- The IPv4 address in a compatible one. -/
def fromCompatible : IpAddress → Except AddressError IpAddress :=
  extract Groups.isCompatible .notCompatible

/-- The IPv4 address in a mapped one. -/
def fromMapped : IpAddress → Except AddressError IpAddress :=
  extract Groups.isMapped .notMapped

end LinkWatch.IpAddress
