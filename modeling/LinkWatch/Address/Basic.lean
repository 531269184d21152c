import LinkWatch.Address.Error
import LinkWatch.Text.Numeral

/-!
# Addresses

An address is an IPv4 value of four octets, an IPv6 value of eight groups, or unset. This module
holds the type, the packed forms of both families, and access to the parts of an address.
-/

namespace LinkWatch

/-- The four octets of an IPv4 address, most significant first. -/
abbrev Octets := Vector UInt8 4

/-- The eight 16-bit groups of an IPv6 address, most significant first. -/
abbrev Groups := Vector UInt16 8

/-- The family of an address. -/
inductive AddressFamily where
  | none
  | v4
  | v6
deriving Repr, DecidableEq

/-- The name of a family. -/
def AddressFamily.label : AddressFamily → String
  | none => "None"
  | v4 => "IPv4"
  | v6 => "IPv6"

/-- An IPv4 or IPv6 address, or the absence of one. -/
inductive IpAddress where
  | none
  | v4 (octets : Octets)
  | v6 (groups : Groups)
deriving Repr, DecidableEq

instance : Inhabited IpAddress := ⟨.none⟩

/-! ## Packed forms -/

/-- An IPv6 address as two words: the first four groups in `high`, the last four in `low`. -/
structure PackedV6 where
  high : UInt64
  low : UInt64
deriving Repr, DecidableEq

namespace PackedV6

/-- Both words as one 128-bit value. -/
def toBits (p : PackedV6) : BitVec 128 :=
  p.high.toBitVec ++ p.low.toBitVec

/-- Splits a 128-bit value into its words. -/
def ofBits (b : BitVec 128) : PackedV6 :=
  ⟨⟨b.extractLsb' 64 64⟩, ⟨b.setWidth 64⟩⟩

/-- The number of one bits in both words. -/
def ones (p : PackedV6) : Nat :=
  p.high.toBitVec.cpop.toNat + p.low.toBitVec.cpop.toNat

end PackedV6

/-- The number that octets stand for, the first the most significant. -/
def Octets.value (o : Octets) : Nat :=
  Text.Radix.value 256 (o.toList.map (·.toNat))

/-- The octets as one word. -/
def Octets.pack (o : Octets) : UInt32 :=
  UInt32.ofNat o.value

/-- The octets of a word. -/
def Octets.unpack (w : UInt32) : Octets :=
  Vector.ofFn fun i => UInt8.ofNat (Text.Radix.digit 256 4 w.toNat i)

/-- The number that groups stand for, the first the most significant. -/
def Groups.value (g : Groups) : Nat :=
  Text.Radix.value 65536 (g.toList.map (·.toNat))

/-- The groups as two words, four groups each. -/
def Groups.pack (g : Groups) : PackedV6 :=
  let half (gs : List UInt16) : UInt64 := UInt64.ofNat (Text.Radix.value 65536 (gs.map (·.toNat)))
  ⟨half (g.toList.take 4), half (g.toList.drop 4)⟩

/-- The groups of two words. -/
def Groups.unpack (p : PackedV6) : Groups :=
  Vector.ofFn fun i =>
    if i.val < 4 then UInt16.ofNat (Text.Radix.digit 65536 4 p.high.toNat i)
    else UInt16.ofNat (Text.Radix.digit 65536 4 p.low.toNat (i - 4))

namespace IpAddress

/-- The IPv4 address of a packed word. -/
def ofPackedV4 (w : UInt32) : IpAddress := .v4 (Octets.unpack w)

/-- The IPv6 address of a packed value. -/
def ofPackedV6 (p : PackedV6) : IpAddress := .v6 (Groups.unpack p)

/-! ## Parts of an address -/

/-- The family of an address. -/
def family : IpAddress → AddressFamily
  | none => .none
  | v4 _ => .v4
  | v6 _ => .v6

/-- True unless the address is unset. -/
def isValid : IpAddress → Bool
  | none => false
  | _ => true

/-- The octets of an IPv4 address. -/
def octets : IpAddress → Except AddressError Octets
  | v4 o => .ok o
  | _ => .error (.mismatch .v4Access)

/-- The groups of an IPv6 address. -/
def groups : IpAddress → Except AddressError Groups
  | v6 g => .ok g
  | _ => .error (.mismatch .v6Access)

/-- The packed word of an IPv4 address. -/
def packedV4 (a : IpAddress) : Except AddressError UInt32 :=
  a.octets.map Octets.pack

/-- The packed value of an IPv6 address. -/
def packedV6 (a : IpAddress) : Except AddressError PackedV6 :=
  a.groups.map Groups.pack

/-- An address of either family as the value other network software exchanges. -/
def standard : IpAddress → Except AddressError (Octets ⊕ Groups)
  | none => .error (.mismatch .conversion)
  | v4 o => .ok (.inl o)
  | v6 g => .ok (.inr g)

/-- The address of an exchanged value. -/
def ofStandard : Octets ⊕ Groups → IpAddress
  | .inl o => .v4 o
  | .inr g => .v6 g

end IpAddress
end LinkWatch
