import LinkWatch.Address.Basic

/-!
# Arithmetic on addresses

An IPv4 address counts as a 32-bit number and an IPv6 address as a 128-bit number; sums and
differences wrap at the width. A stored address is advanced and taken back in place. The bitwise
operations combine two addresses of one family.
-/

namespace LinkWatch

/-- A 128-bit number as an IPv6 address. -/
def Groups.ofBits (b : BitVec 128) : Groups :=
  .unpack (.ofBits b)

/-- Groups as a 128-bit number. -/
def Groups.toBits (g : Groups) : BitVec 128 :=
  g.pack.toBits

namespace IpAddress

/-! ## Sums and differences -/

/-- The address `n` steps further on. -/
def add (a : IpAddress) (n : UInt32) : Except AddressError IpAddress :=
  match a with
  | none => .error (.mismatch .addition)
  | v4 o => .ok (.v4 (.unpack (o.pack + n)))
  | v6 g => .ok (.v6 (.ofBits (g.toBits + BitVec.ofNat 128 n.toNat)))

/-- The address `n` steps back. -/
def sub (a : IpAddress) (n : UInt32) : Except AddressError IpAddress :=
  match a with
  | none => .error (.mismatch .subtraction)
  | v4 o => .ok (.v4 (.unpack (o.pack - n)))
  | v6 g => .ok (.v6 (.ofBits (g.toBits - BitVec.ofNat 128 n.toNat)))

/-- The next address. -/
def next (a : IpAddress) : Except AddressError IpAddress := a.add 1

/-- The address before this one. -/
def previous (a : IpAddress) : Except AddressError IpAddress := a.sub 1

/-! ## In place -/

/-- An operation on a stored address. Where it fails, the address stays as it is. -/
def inPlace (operation : IpAddress → Except AddressError IpAddress) :
    EStateM AddressError IpAddress Unit := do
  match operation (← get) with
  | .ok b => set b
  | .error e => throw e

/-- Advances a stored address by one. -/
def increment : EStateM AddressError IpAddress Unit := inPlace next

/-- Takes a stored address back by one. -/
def decrement : EStateM AddressError IpAddress Unit := inPlace previous

/-! ## Bitwise operations -/

/-- The two ways to combine addresses bit by bit. -/
inductive BitOperation where
  | and
  | or
deriving Repr, DecidableEq

/-- The operation on words of any width. -/
def BitOperation.onBits {w : Nat} : BitOperation → BitVec w → BitVec w → BitVec w
  | .and, x, y => x &&& y
  | .or, x, y => x ||| y

/-- The name of the operation in errors. -/
def BitOperation.operation : BitOperation → AddressOperation
  | .and => .bitwiseAnd
  | .or => .bitwiseOr

/-- Combines two addresses of one family. -/
def combine (op : BitOperation) (a b : IpAddress) : Except AddressError IpAddress :=
  match a, b with
  | v4 x, v4 y => .ok (.v4 (.unpack ⟨op.onBits x.pack.toBitVec y.pack.toBitVec⟩))
  | v6 x, v6 y => .ok (.v6 (.ofBits (op.onBits x.toBits y.toBits)))
  | _, _ => .error (.mismatch op.operation)

/-- The bits that two addresses of one family share. -/
def bitAnd (a b : IpAddress) : Except AddressError IpAddress := combine .and a b

/-- The bits of either of two addresses of one family. -/
def bitOr (a b : IpAddress) : Except AddressError IpAddress := combine .or a b

end IpAddress
end LinkWatch
