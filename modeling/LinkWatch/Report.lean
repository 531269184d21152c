import LinkWatch.Event
import LinkWatch.Settings.Basic

/-!
# Reports

How interfaces and events are shown to a reader: a block of lines for an interface, a document of
all interfaces, and a line for an event.
-/

namespace LinkWatch.Report

/-- Items in brackets. -/
def bracketed (items : List String) : String := "[" ++ ", ".intercalate items ++ "]"

/-- Addresses with their netmasks in brackets. -/
def assignments (l : List Assignment) : String := bracketed (l.map (·.text))

/-- Addresses in brackets. -/
def addresses (l : List IpAddress) : String := bracketed (l.map (·.text))

/-- Up or down, and what else is true of an interface. -/
def flags (i : Interface) : String :=
  " " ++ ",".intercalate
    ([if i.isEnabled then "up" else "down"]
      ++ (if i.isConnected then ["connected"] else [])
      ++ (if i.isVirtual then ["virtual"] else []))

/-- The id, the alias, the kind and the flags of an interface. -/
def heading (i : Interface) : String :=
  i.id ++ " (" ++ i.aliasName ++ ") [" ++ i.kind.label ++ "]" ++ flags i

/-! ## Interfaces -/

/-- The lines of an interface. What is not known has no line. -/
def interfaceLines (f : HardwareFormat) (i : Interface) : List String :=
  [heading i]
    ++ (if i.description = i.id then [] else ["    description: " ++ i.description])
    ++ (if i.hardware.isValid then ["    mac: " ++ f.text i.hardware] else [])
    ++ i.addresses.map (fun a => "    inet: " ++ a.text)
    ++ i.gateways.map (fun a => "    gateway: " ++ a.text)

/-- Lines as one text. -/
def unlines (lines : List String) : String := String.join (lines.map (· ++ "\n"))

/-- An interface as text. -/
def interface (f : HardwareFormat) (i : Interface) : String := unlines (interfaceLines f i)

/-- All interfaces as a document. -/
def document (s : Snapshot) : String := (Text.Json.array (s.values.map (·.toJson))).pretty

/-! ## Events -/

/-- What is told of an interface that came. -/
def arrival (f : HardwareFormat) (i : Interface) : String :=
  heading i
    ++ (if i.hardware.isValid then " mac=" ++ f.text i.hardware else "")
    ++ (if i.addresses.isEmpty then "" else " addresses=" ++ assignments i.addresses)
    ++ (if i.gateways.isEmpty then "" else " gateways=" ++ addresses i.gateways)

/-- A field and its new value. -/
def change : FieldChange → String
  | .enabled v => "enabled=" ++ toString v
  | .connected v => "connected=" ++ toString v
  | .aliasName v => "alias=" ++ v
  | .addresses v => "addresses=" ++ assignments v
  | .gateways v => "gateways=" ++ addresses v

/-- The line of an event. -/
def event (f : HardwareFormat) : Event → String
  | .added i => "+ " ++ arrival f i
  | .removed i => "- " ++ i.id
  | .changed i c => "~ " ++ i.id ++ " " ++ change c

end LinkWatch.Report
