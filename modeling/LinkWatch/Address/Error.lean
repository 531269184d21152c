/-!
# What can go wrong with an address

Every failure of the address operations is a value of `AddressError`; `message` is its text.
-/

namespace LinkWatch

/-- The operations that not every address supports. -/
inductive AddressOperation where
  | v4Access
  | v6Access
  | comparison
  | conversion
  | addition
  | subtraction
  | bitwiseAnd
  | bitwiseOr
  | netmaskValidation
  | networkBase
  | broadcast
  | privateCheck
deriving Repr, DecidableEq

/-- The name of an operation in messages. -/
def AddressOperation.label : AddressOperation → String
  | v4Access => "IPv4 access"
  | v6Access => "IPv6 access"
  | comparison => "comparison"
  | conversion => "conversion"
  | addition => "addition"
  | subtraction => "subtraction"
  | bitwiseAnd => "bitwise and"
  | bitwiseOr => "bitwise or"
  | netmaskValidation => "netmask validation"
  | networkBase => "network base address"
  | broadcast => "broadcast address"
  | privateCheck => "private network check"

/-- The rules that a text or a value can break. -/
inductive AddressFlaw where
  | tokenCount
  | badToken
  | tooFewGroups
  | leadingColon
  | trailingColon
  | repeatedElision
  | embeddedNotLast
  | badEmbedded
  | badGroup
  | tooManyGroups
  | groupCount
  | emptyElision
  | notCompatible
  | notMapped
  | emptyNetmask
  | brokenNetmask
  | pairCount
  | badPair
  | compactLength
deriving Repr, DecidableEq

/-- The wording of a broken rule. -/
def AddressFlaw.reason : AddressFlaw → String
  | tokenCount => "expected 4 dot-separated tokens"
  | badToken => "invalid IPv4 token"
  | tooFewGroups => "too few groups"
  | leadingColon => "address starts with a single ':'"
  | trailingColon => "address ends with a single ':'"
  | repeatedElision => "'::' elision is not contiguous"
  | embeddedNotLast => "embedded IPv4 must be the last token"
  | badEmbedded => "invalid embedded IPv4"
  | badGroup => "invalid hex group"
  | tooManyGroups => "too many groups"
  | groupCount => "expected 8 groups"
  | emptyElision => "'::' must stand for at least one group"
  | notCompatible => "not an IPv4-compatible address"
  | notMapped => "not an IPv4-mapped address"
  | emptyNetmask => "netmask is empty"
  | brokenNetmask => "netmask is not contiguous"
  | pairCount => "expected 6 hex pairs"
  | badPair => "invalid hex pair"
  | compactLength => "expected 12 hex digits"

/-- A failed address operation. -/
inductive AddressError where
  /-- The input, as text, breaks a rule. -/
  | malformed (input : String) (flaw : AddressFlaw)
  /-- The operation is not defined for the families of its operands. -/
  | mismatch (operation : AddressOperation)
  /-- The operation exists for IPv4 only. -/
  | unsupported (operation : AddressOperation)
deriving Repr, DecidableEq

/-- The text of an error. -/
def AddressError.message : AddressError → String
  | malformed input flaw => "Invalid address '" ++ input ++ "': " ++ flaw.reason
  | mismatch operation => "Type mismatch in " ++ operation.label
  | unsupported operation => operation.label ++ " is not supported for IPv6 addresses"

end LinkWatch
