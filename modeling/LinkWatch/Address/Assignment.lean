import LinkWatch.Address.Netmask

/-!
# Assigned addresses

An interface carries an address together with the netmask of its network. For IPv4 the two give
the first and the last address of the network and whether the network is private.
-/

namespace LinkWatch

/-- An address with its netmask. -/
structure Assignment where
  address : IpAddress
  netmask : IpAddress
deriving Repr, DecidableEq

/-- A block of private addresses, with the mask of the block. -/
structure PrivateBlock where
  first : UInt32
  last : UInt32
  mask : UInt32

/-- The private blocks: 10.0.0.0/8, 172.16.0.0/12 and 192.168.0.0/16. -/
def PrivateBlock.all : List PrivateBlock :=
  [⟨0x0A000000, 0x0AFFFFFF, 0xFF000000⟩,
   ⟨0xAC100000, 0xAC1FFFFF, 0xFFF00000⟩,
   ⟨0xC0A80000, 0xC0A8FFFF, 0xFFFF0000⟩]

namespace Assignment

/-- The packed address and mask, when both are IPv4 and the mask is valid. -/
def packed (a : Assignment) (operation : AddressOperation) :
    Except AddressError (UInt32 × UInt32) :=
  match a.address, a.netmask with
  | .v4 x, .v4 m =>
    match Netmask.checkV4 (.v4 m) with
    | .ok () => .ok (x.pack, m.pack)
    | .error e => .error e
  | .v6 _, .v6 _ => .error (.unsupported operation)
  | _, _ => .error (.mismatch operation)

/-- The first address of the network. -/
def base (a : Assignment) : Except AddressError IpAddress :=
  (a.packed .networkBase).map fun (x, m) => .ofPackedV4 (x &&& m)

/-- The last address of the network. -/
def broadcast (a : Assignment) : Except AddressError IpAddress :=
  (a.packed .broadcast).map fun (x, m) => .ofPackedV4 (x ||| ~~~m)

/-- True when the address lies in a private block and the mask is at least as long as the mask of
that block. -/
def isPrivate (a : Assignment) : Except AddressError Bool :=
  (a.packed .privateCheck).map fun (x, m) =>
    PrivateBlock.all.any fun b => b.first ≤ x && x ≤ b.last && b.mask ≤ m

/-- The length of the netmask. -/
def maskLength (a : Assignment) : Except AddressError Nat :=
  Netmask.length a.netmask

/-- The address and the length of its mask, or the mask itself when it is not valid. -/
def text (a : Assignment) : String :=
  match a.maskLength with
  | .ok n => a.address.text ++ "/" ++ String.ofList (Text.decimal n)
  | .error _ => a.address.text ++ " netmask " ++ a.netmask.text

instance : ToString Assignment := ⟨text⟩

end Assignment
end LinkWatch
