import LinkWatch.Address.Canonical

/-!
# Netmasks

A netmask is a run of one bits from the top followed by zeros, and is built from the length of that
run. An IPv4 word is a netmask when its leading ones and its trailing zeros fill it; an IPv6 value is
one when it equals the mask built from its number of one bits. The empty IPv4 mask is refused, the
empty IPv6 mask is not.
-/

namespace LinkWatch.Netmask

/-! ## Masks of a length -/

/-- The word with `count` one bits from the top; longer counts fill the word. No shift is as far as
the width. -/
def bits (width count : Nat) : BitVec width :=
  if count = 0 then 0
  else if count < width then BitVec.allOnes width <<< (width - count)
  else BitVec.allOnes width

/-- The packed IPv4 mask of a length. -/
def v4 (count : UInt8) : UInt32 := ⟨bits 32 count.toNat⟩

/-- The packed IPv6 mask of a length. -/
def v6 (count : UInt8) : PackedV6 := .ofBits (bits 128 count.toNat)

/-! ## Checks -/

/-- The number of one bits above the highest zero bit. -/
def leadingOnes {width : Nat} (b : BitVec width) : Nat := (~~~b).clz.toNat

/-- The number of zero bits below the lowest one bit. -/
def trailingZeros {width : Nat} (b : BitVec width) : Nat := b.ctz.toNat

/-- Accepts the non-empty IPv4 masks. -/
def checkV4 (mask : IpAddress) : Except AddressError Unit :=
  match mask.packedV4 with
  | .error e => .error e
  | .ok w =>
    if w = 0 then .error (.malformed mask.text .emptyNetmask)
    else if leadingOnes w.toBitVec + trailingZeros w.toBitVec = 32 then .ok ()
    else .error (.malformed mask.text .brokenNetmask)

/-- Accepts the IPv6 masks. -/
def checkV6 (mask : IpAddress) : Except AddressError Unit :=
  match mask.packedV6 with
  | .error e => .error e
  | .ok p =>
    if v6 (.ofNat p.ones) = p then .ok () else .error (.malformed mask.text .brokenNetmask)

/-- Accepts the masks of either family. -/
def check (mask : IpAddress) : Except AddressError Unit :=
  match mask.family with
  | .v4 => checkV4 mask
  | .v6 => checkV6 mask
  | .none => .error (.mismatch .netmaskValidation)

/-- The length of a mask. -/
def length (mask : IpAddress) : Except AddressError Nat :=
  match check mask with
  | .error e => .error e
  | .ok () =>
    match mask.family with
    | .v6 => mask.packedV6.map PackedV6.ones
    | _ => mask.packedV4.map fun w => w.toBitVec.cpop.toNat

end LinkWatch.Netmask
