import LinkWatch.HardwareAddress
import LinkWatch.Host.Enumeration
import Std.Net.Addr

/-!
# What the system shows

The entries of the interfaces from what the system shows: the table of devices names the
interfaces, files of their own hold the flags, the state and the hardware address, and the
addresses come from a list.
-/

namespace LinkWatch.Host

/-- The names in the table of devices, which follow two lines of headings and end at a colon. -/
def deviceNames (table : String) : List String :=
  ((Text.lines table.toList).drop 2).map fun line =>
    String.ofList ((Text.trim line).takeWhile (· != ':'))

/-- The names in the table of wireless devices, which has the same form. -/
def wirelessNames (table : String) : List String := deviceNames table

/-- The flags of an interface, a hexadecimal number after its mark. -/
def readFlags (text : String) : UInt32 :=
  (Route.readWord ((Text.trim text.toList).drop 2)).getD 0

/-- True for the states in which an interface carries data. -/
def isOperational (state : String) : Bool :=
  ["up", "unknown"].contains (String.ofList (Text.trim state.toList))

/-- The entry for the flags and the hardware address of an interface. Whether it is running is
told by its state and not by the file of its flags. -/
def linkEntry (name flags state hardware : String) : Entry where
  name := some name.toUTF8
  flags := readFlags flags ||| (if isOperational state then flagRunning else 0)
  address :=
    match HardwareAddress.ofChars (some ':') (Text.trim hardware.toList) with
    | .ok m => some (.link m.bytes.toList)
    | .error _ => none
  netmask := none

/-- An address of either family. -/
def SocketAddress.ofIp : Std.Net.IPAddr → SocketAddress
  | .v4 a => .v4 a.octets
  | .v6 a => .v6 a.segments

/-- The entry for an address of an interface. -/
def addressEntry (a : Std.Net.InterfaceAddress) : Entry where
  name := some a.name.toUTF8
  flags := 0
  address := some (.ofIp a.address)
  netmask := some (.ofIp a.netMask)

end LinkWatch.Host
