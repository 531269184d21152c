import LinkWatch.Address.Basic
import LinkWatch.Text.Numeral

/-!
# Canonical text of an address

IPv4 is dotted decimal. IPv6 is lower-case hexadecimal groups without leading zeros, with the
leftmost of the longest runs of two or more zero groups written as `::`, and dotted decimal for
the last 32 bits where the address embeds an IPv4 address. The text is the pieces of the address
written one after another into a buffer of fixed capacity. Such a buffer holds the UTF-8 bytes of
what was written to it; a write that does not fit fails and leaves no trace.
-/

namespace LinkWatch

/-! ## Buffers of fixed capacity -/

namespace Text

/-- Bytes written so far, never more than the capacity. -/
structure Buffer (capacity : Nat) where
  bytes : ByteArray
  size_le : bytes.size ≤ capacity

namespace Buffer

variable {capacity : Nat}

/-- Nothing written yet. -/
def empty : Buffer capacity := ⟨.empty, Nat.zero_le _⟩

/-- Appends a text, or fails when it does not fit. -/
def write (b : Buffer capacity) (s : String) : Option (Buffer capacity) :=
  if h : (b.bytes ++ s.toByteArray).size ≤ capacity then some ⟨b.bytes ++ s.toByteArray, h⟩ else none

/-- Appends texts one after another. -/
def writeAll (b : Buffer capacity) : List String → Option (Buffer capacity)
  | [] => some b
  | s :: r => (b.write s).bind (·.writeAll r)

/-- The text held, or nothing when the bytes are not UTF-8. -/
def contents (b : Buffer capacity) : String :=
  (String.fromUTF8? b.bytes).getD ""

end Buffer
end Text

/-! ## Runs of zero groups -/

/-- The number of zero groups from position `i` on, without a gap. -/
def zerosFrom (gs : List UInt16) (i : Nat) : Nat :=
  ((gs.drop i).takeWhile (· == 0)).length

/-- The leftmost of the longest runs of two or more zero groups, as its start and its length. -/
def longestZeroRun (gs : List UInt16) : Option (Nat × Nat) :=
  (List.range gs.length).foldl
    (fun best i =>
      let n := zerosFrom gs i
      if 2 ≤ n && best.all (·.2 < n) then some (i, n) else best)
    none

/-! ## Pieces -/

/-- Octets in decimal with dots between them. -/
def Octets.pieces (o : Octets) : List String :=
  (o.toList.map fun b => String.ofList (Text.decimal b.toNat)).intersperse "."

/-- Groups in hexadecimal with colons between them. -/
def groupPieces (gs : List UInt16) : List String :=
  (gs.map fun g => String.ofList (Text.hexadecimal g.toNat)).intersperse ":"

namespace Groups

/-- The last 32 bits of the groups as octets. -/
def embedded (g : Groups) : Octets :=
  #v[UInt8.ofNat (g[6].toNat / 256), UInt8.ofNat g[6].toNat,
     UInt8.ofNat (g[7].toNat / 256), UInt8.ofNat g[7].toNat]

/-- True when the first 96 bits are zero. -/
def isCompatible (g : Groups) : Bool :=
  (g.toList.take 6).all (· == 0)

/-- True when the first 80 bits are zero and the next 16 are ones. -/
def isMapped (g : Groups) : Bool :=
  (g.toList.take 5).all (· == 0) && g[5] == 0xffff

/-- The texts written for an IPv6 address. -/
def pieces (g : Groups) : List String :=
  if g.toList.all (· == 0) then ["::"]
  else if g = #v[0, 0, 0, 0, 0, 0, 0, 1] then ["::1"]
  else if g.isCompatible then "::" :: g.embedded.pieces
  else if g.isMapped then "::ffff:" :: g.embedded.pieces
  else match longestZeroRun g.toList with
    | some (start, length) =>
      groupPieces (g.toList.take start) ++ "::" :: groupPieces (g.toList.drop (start + length))
    | none => groupPieces g.toList

end Groups

namespace IpAddress

/-- The texts written for an address. -/
def pieces : IpAddress → List String
  | none => ["Invalid IP"]
  | v4 o => o.pieces
  | v6 g => g.pieces

/-- The capacity of the buffer that holds the text of an address. -/
def textCapacity : Nat := 40

/-- The buffer after all pieces of an address have been written to it. -/
def rendered (a : IpAddress) : Option (Text.Buffer textCapacity) :=
  Text.Buffer.empty.writeAll a.pieces

/-- The canonical text of an address. -/
def text (a : IpAddress) : String :=
  (a.rendered.map (·.contents)).getD ""

instance : ToString IpAddress := ⟨text⟩

/-- The text of an address as shown to a developer. -/
def debugText (a : IpAddress) : String :=
  "IpAddress(\"" ++ a.text ++ "\")"

end IpAddress
end LinkWatch
