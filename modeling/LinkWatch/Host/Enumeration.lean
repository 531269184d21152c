import LinkWatch.Host.Routes

/-!
# Enumerating the interfaces of a host

The host reports a list of entries, one for each address of each interface. The first entry of a
name makes the record; later ones add addresses to it. Marks in the device tree tell wireless and
virtual interfaces, and the routing table tells the gateways.
-/

namespace LinkWatch.Host

/-- An address as the host reports it. -/
inductive SocketAddress where
  | v4 (octets : Octets)
  | v6 (groups : Groups)
  /-- A link-layer address of any length. -/
  | link (bytes : List UInt8)
  /-- An address of a family that is not looked at. -/
  | other
deriving Repr, DecidableEq

/-- One entry of the list that the host reports. -/
structure Entry where
  /-- The bytes of the name; entries without a name are skipped. -/
  name : Option ByteArray
  flags : UInt32
  address : Option SocketAddress
  netmask : Option SocketAddress

/-- What the host shows besides the entries. -/
structure Environment where
  /-- True for the names that the device tree marks as wireless. -/
  isWireless : String → Bool
  /-- True for the names that the device tree lists as virtual. -/
  isVirtual : String → Bool
  /-- The routing table, if it can be read. -/
  routingTable : Option String

/-! ## Flags -/

/-- The interface is administratively up. -/
def flagUp : UInt32 := 0x1

/-- The interface is a loopback. -/
def flagLoopback : UInt32 := 0x8

/-- The interface has a carrier. -/
def flagRunning : UInt32 := 0x40

/-- True when all wanted flags are set. -/
def hasFlags (flags wanted : UInt32) : Bool :=
  flags &&& wanted == wanted

/-! ## Names -/

/-- Where one character ends in bytes that may not be UTF-8: the character, if the bytes at the
front are one, and the number of bytes that stand for it or for the broken start of one. -/
def decodeFront (bs : List UInt8) : Option Char × Nat :=
  let isTail (b : UInt8) (low high : UInt8) : Bool := low ≤ b && b ≤ high
  let tail (b : UInt8) : Nat := b.toNat % 0x40
  match bs with
  | [] => (none, 0)
  | a :: r =>
    if a < 0x80 then (some (Char.ofNat a.toNat), 1)
    else if 0xC2 ≤ a && a ≤ 0xDF then
      match r with
      | b :: _ =>
        if isTail b 0x80 0xBF then (some (Char.ofNat (a.toNat % 0x20 * 0x40 + tail b)), 2) else (none, 1)
      | [] => (none, 1)
    else if 0xE0 ≤ a && a ≤ 0xEF then
      let low : UInt8 := if a = 0xE0 then 0xA0 else 0x80
      let high : UInt8 := if a = 0xED then 0x9F else 0xBF
      match r with
      | b :: r' =>
        if isTail b low high then
          match r' with
          | c :: _ =>
            if isTail c 0x80 0xBF then
              (some (Char.ofNat (a.toNat % 0x10 * 0x1000 + tail b * 0x40 + tail c)), 3)
            else (none, 2)
          | [] => (none, 2)
        else (none, 1)
      | [] => (none, 1)
    else if 0xF0 ≤ a && a ≤ 0xF4 then
      let low : UInt8 := if a = 0xF0 then 0x90 else 0x80
      let high : UInt8 := if a = 0xF4 then 0x8F else 0xBF
      match r with
      | b :: r' =>
        if isTail b low high then
          match r' with
          | c :: r'' =>
            if isTail c 0x80 0xBF then
              match r'' with
              | d :: _ =>
                if isTail d 0x80 0xBF then
                  (some (Char.ofNat
                    (a.toNat % 8 * 0x40000 + tail b * 0x1000 + tail c * 0x40 + tail d)), 4)
                else (none, 3)
              | [] => (none, 3)
            else (none, 2)
          | [] => (none, 2)
        else (none, 1)
      | [] => (none, 1)
    else (none, 1)

/-- Decodes with a bound on the number of characters. -/
def decodeLossyUpTo : Nat → List UInt8 → List Char
  | 0, _ => []
  | _, [] => []
  | n + 1, bs =>
    let (c, used) := decodeFront bs
    c.getD '\uFFFD' :: decodeLossyUpTo n (bs.drop used)

/-- The text of bytes. Each longest broken piece becomes one replacement character. -/
def decodeLossy (bytes : List UInt8) : String :=
  String.ofList (decodeLossyUpTo bytes.length bytes)

/-- The text of an entry's name, which ends before the first zero byte. -/
def Entry.label (e : Entry) : Option String :=
  e.name.map fun bytes => decodeLossy (bytes.toList.takeWhile (· != 0))

/-! ## Records -/

/-- The record that the first entry of a name makes. -/
def newRecord (env : Environment) (name : String) (flags : UInt32) : Interface :=
  let kind : InterfaceKind :=
    if hasFlags flags flagLoopback then .loopback
    else if env.isWireless name then .wifi
    else .ethernet
  { Interface.new name kind with
    isEnabled := hasFlags flags flagUp
    isConnected := hasFlags flags (flagUp ||| flagRunning)
    isVirtual := kind.isLoopback || env.isVirtual name }

/-- The IP address that a reported address holds, if it is of either family. -/
def SocketAddress.ip? : SocketAddress → Option IpAddress
  | v4 o => some (.v4 o)
  | v6 g => some (.v6 g)
  | _ => none

/-- Takes the address of one entry into the record: an IP address joins the list with its
netmask, a link-layer address of six bytes becomes the hardware address. -/
def addAddress (address : Option SocketAddress) (netmask : Option SocketAddress) (i : Interface) :
    Interface :=
  match address with
  | some (.link bytes) =>
    match bytes with
    | [a, b, c, d, e, f] => { i with hardware := .ofSix a b c d e f }
    | _ => i
  | some a =>
    match a.ip? with
    | some ip =>
      { i with addresses := i.addresses ++ [⟨ip, (netmask.bind (·.ip?)).getD .none⟩] }
    | none => i
  | none => i

/-- Takes one entry into the records so far. -/
def takeEntry (env : Environment) (records : Snapshot) (e : Entry) : Snapshot :=
  match e.label with
  | none => records
  | some name =>
    records.update name (newRecord env name e.flags) (addAddress e.address e.netmask)

/-- Gives the interfaces their default gateways. -/
def attachGateways (env : Environment) (records : Snapshot) : Snapshot :=
  match env.routingTable with
  | none => records
  | some table =>
    let gateways := defaultGateways table
    records.mapValues fun name i =>
      match gateways.get? name with
      | some l => { i with gateways := l }
      | none => i

/-- The snapshot of a host. -/
def snapshot (env : Environment) (entries : List Entry) : Snapshot :=
  attachGateways env (entries.foldl (takeEntry env) .empty)

end LinkWatch.Host
