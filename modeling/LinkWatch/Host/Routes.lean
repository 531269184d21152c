import LinkWatch.Interface
import LinkWatch.Text.Blank

/-!
# Routing table

The text of the kernel's IPv4 routing table: a header line, then one route per line with the
interface, the destination and the gateway as its first three columns. Addresses are the
hexadecimal form of the word that holds the octets in little-endian order. The default gateways
of an interface are the gateways of its routes to destination zero.
-/

namespace LinkWatch.Host

/-- One route: interface, destination and gateway. -/
structure Route where
  interface : String
  destination : UInt32
  gateway : UInt32
deriving Repr, DecidableEq

namespace Route

/-- Reads a column that holds a hexadecimal word. -/
def readWord (column : List Char) : Option UInt32 :=
  (Text.readUnsigned 16 0xFFFFFFFF column).map UInt32.ofNat

/-- Reads one line of the table. Lines that are no routes give nothing. -/
def ofLine (line : List Char) : Option Route :=
  match Text.words line with
  | name :: destination :: gateway :: _ =>
    match readWord destination, readWord gateway with
    | some d, some g => some ⟨String.ofList name, d, g⟩
    | _, _ => none
  | _ => none

/-- The octets of a word whose first octet is the least significant. -/
def littleEndian (w : UInt32) : Octets :=
  #v[UInt8.ofNat w.toNat, UInt8.ofNat (w.toNat / 0x100), UInt8.ofNat (w.toNat / 0x10000),
     UInt8.ofNat (w.toNat / 0x1000000)]

/-- The default gateway of a route, if the route is a default route and has one. -/
def defaultGateway (r : Route) : Option IpAddress :=
  if r.destination = 0 ∧ r.gateway ≠ 0 then some (.v4 (littleEndian r.gateway)) else none

end Route

/-- The routes of a table, in order. -/
def routes (table : String) : List Route :=
  ((Text.lines table.toList).drop 1).filterMap Route.ofLine

/-- Appends an address unless the list has it already. -/
def addOnce (a : IpAddress) (l : List IpAddress) : List IpAddress :=
  if l.contains a then l else l ++ [a]

/-- Default gateways by interface, each list in the order of first appearance. -/
def defaultGateways (table : String) : Keyed (List IpAddress) :=
  (routes table).foldl
    (fun m r =>
      match r.defaultGateway with
      | some a => m.update r.interface [] (addOnce a)
      | none => m)
    .empty

end LinkWatch.Host
