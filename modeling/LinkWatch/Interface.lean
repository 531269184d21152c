import LinkWatch.Address.Assignment
import LinkWatch.HardwareAddress
import LinkWatch.Keyed
import LinkWatch.Text.Json

/-!
# Interfaces and snapshots

The record of one network interface at a point in time, and the snapshot of all interfaces of a
host, ordered by interface id.
-/

namespace LinkWatch

/-- What an interface is. -/
inductive InterfaceKind where
  | none
  | loopback
  | ethernet
  | wifi
  | awdl
deriving Repr, DecidableEq

namespace InterfaceKind

/-- The kind as shown to a reader. -/
def label : InterfaceKind → String
  | none => "None"
  | loopback => "Loopback"
  | ethernet => "Ethernet"
  | wifi => "WiFi"
  | awdl => "AWDL"

/-- The kind in a JSON document. -/
def tag : InterfaceKind → String
  | awdl => "Awdl"
  | k => k.label

/-- True for the loopback kind. -/
def isLoopback (k : InterfaceKind) : Bool := k == loopback

end InterfaceKind

/-- The state of one interface. -/
structure Interface where
  /-- Unique and stable name. -/
  id : String
  description : String
  /-- Name for the user, which may change. -/
  aliasName : String
  hardware : HardwareAddress
  addresses : List Assignment
  gateways : List IpAddress
  kind : InterfaceKind
  isEnabled : Bool
  isConnected : Bool
  isVirtual : Bool
deriving Repr, DecidableEq

namespace Interface

/-- An interface of which only the name and the kind are known. -/
def new (id : String) (kind : InterfaceKind) : Interface where
  id := id
  description := id
  aliasName := id
  hardware := .zero
  addresses := []
  gateways := []
  kind := kind
  isEnabled := false
  isConnected := false
  isVirtual := kind.isLoopback

instance : Inhabited Interface := ⟨new "" .none⟩

/-- True when any address is assigned. -/
def hasAddresses (i : Interface) : Bool := !i.addresses.isEmpty

end Interface

/-! ## Documents -/

/-- An address as a document: its canonical text. -/
def IpAddress.toJson (a : IpAddress) : Text.Json := .string a.text

/-- An assigned address as a document. -/
def Assignment.toJson (a : Assignment) : Text.Json :=
  .object [("address", a.address.toJson), ("netmask", a.netmask.toJson)]

/-- A hardware address as a document: its usual text. -/
def HardwareAddress.toJson (m : HardwareAddress) : Text.Json := .string m.text

/-- The record as a document. -/
def Interface.toJson (i : Interface) : Text.Json :=
  .object
    [("id", .string i.id),
     ("description", .string i.description),
     ("alias", .string i.aliasName),
     ("mac_address", i.hardware.toJson),
     ("ip_address_infos", .array (i.addresses.map (·.toJson))),
     ("gateways", .array (i.gateways.map (·.toJson))),
     ("kind", .string i.kind.tag),
     ("is_enabled", .bool i.isEnabled),
     ("is_connected", .bool i.isConnected),
     ("is_virtual", .bool i.isVirtual)]

/-! ## Snapshots -/

/-- All interfaces of a host at a point in time, by id. -/
abbrev Snapshot := Keyed Interface

/-- Why a snapshot could not be taken. -/
inductive FetchError where
  | io (message : String)
  | permissionDenied (context : String)
  | platform (message : String)
deriving Repr, DecidableEq

/-- The text of a failed fetch. -/
def FetchError.message : FetchError → String
  | io m => "I/O error: " ++ m
  | permissionDenied c => "Permission denied: " ++ c
  | platform m => "Platform error: " ++ m

end LinkWatch
