import LinkWatch.Address.Error
import LinkWatch.Text.Numeral

/-!
# Hardware addresses

A hardware address is six bytes. Its text is six pairs of hexadecimal digits, with a separator
between them or without one.
-/

namespace LinkWatch

/-- The six bytes of a hardware address. -/
structure HardwareAddress where
  bytes : Vector UInt8 6
deriving Repr, DecidableEq

namespace HardwareAddress

/-- The address of six bytes. -/
def ofSix (a b c d e f : UInt8) : HardwareAddress := ⟨#v[a, b, c, d, e, f]⟩

/-- The address of an interface that has none. -/
def zero : HardwareAddress := ⟨.replicate 6 0⟩

instance : Inhabited HardwareAddress := ⟨zero⟩

/-- True when any byte is not zero. -/
def isValid (m : HardwareAddress) : Bool :=
  m.bytes.toList.any (· != 0)

/-- The order of addresses: the first difference decides. -/
def order (a b : HardwareAddress) : Ordering :=
  List.compareLex compare a.bytes.toList b.bytes.toList

/-! ## Text -/

/-- The pairs of an address with the separator between them. -/
def format (m : HardwareAddress) (upper : Bool) (separator : Option Char) : String :=
  String.ofList <| (separator.toList).intercalate (m.bytes.toList.map (Text.hexPair upper))

/-- The usual text: upper case with colons. -/
def text (m : HardwareAddress) : String := m.format true (some ':')

instance : ToString HardwareAddress := ⟨text⟩

/-! ## Reading -/

/-- Cuts twelve characters into pairs. -/
def cutPairs : List Char → List (List Char)
  | a :: b :: r => [a, b] :: cutPairs r
  | [a] => [[a]]
  | [] => []

/-- Reads two hexadecimal digits. -/
def readPair (pair : List Char) : Option UInt8 :=
  if pair.length = 2 then (Text.readNumeral 16 pair).map UInt8.ofNat else none

/-- Reads six pairs that are already apart. -/
def ofPairs (pairs : List (List Char)) : Except AddressFlaw HardwareAddress :=
  match pairs with
  | [a, b, c, d, e, f] =>
    match readPair a, readPair b, readPair c, readPair d, readPair e, readPair f with
    | some a, some b, some c, some d, some e, some f => .ok (ofSix a b c d e f)
    | _, _, _, _, _, _ => .error .badPair
  | _ => .error .pairCount

/-- Reads pairs with a separator between them, or twelve digits when there is none. -/
def ofChars (separator : Option Char) (cs : List Char) : Except AddressFlaw HardwareAddress :=
  match separator with
  | some s => ofPairs (cs.splitOn s)
  | none =>
    if cs.length = 12 && cs.all (·.toNat < 128) then ofPairs (cutPairs cs) else .error .compactLength

/-- Reads an address. The error carries the whole text. -/
def parse (s : String) (separator : Option Char) : Except AddressError HardwareAddress :=
  (ofChars separator s.toList).mapError (.malformed s)

end HardwareAddress
end LinkWatch
