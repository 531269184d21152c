import LinkWatch.Address.Canonical
import LinkWatch.Text.Blank

/-!
# Reading addresses

A text with a colon is read as IPv6, any other as IPv4. IPv4 text is four tokens with dots
between them; a token is a decimal, `0x` hexadecimal or `0b` binary number up to 255 and may have
blanks around it. IPv6 text is groups with colons between them, at most one `::` that stands for
one zero group or more, and possibly an IPv4 address in place of the last two groups.
-/

namespace LinkWatch

/-! ## IPv4 -/

/-- The base and the digits of a token without blanks around it. -/
def splitBase : List Char → Nat × List Char
  | '0' :: 'x' :: r => (16, r)
  | '0' :: 'X' :: r => (16, r)
  | '0' :: 'b' :: r => (2, r)
  | cs => (10, cs)

/-- Reads one token of an IPv4 text. -/
def readOctet (token : List Char) : Option UInt8 :=
  let (base, digits) := splitBase (Text.trim token)
  ((Text.readNumeral base digits).filter (· ≤ 255)).map UInt8.ofNat

/-- Reads exactly `count` tokens. The count is checked where the missing or the superfluous token
stands, so a bad token before that place is found first. -/
def readOctetTokens : Nat → List (List Char) → Except AddressFlaw (List UInt8)
  | 0, [] => .ok []
  | 0, _ :: _ => .error .tokenCount
  | _ + 1, [] => .error .tokenCount
  | n + 1, t :: ts =>
    match readOctet t with
    | none => .error .badToken
    | some b => (readOctetTokens n ts).map (b :: ·)

/-- Reads IPv4 text. -/
def readOctets (cs : List Char) : Except AddressFlaw Octets :=
  match readOctetTokens 4 (cs.splitOn '.') with
  | .ok [a, b, c, d] => .ok #v[a, b, c, d]
  | .ok _ => .error .tokenCount
  | .error e => .error e

/-! ## IPv6 -/

/-- Reads one to four hexadecimal digits. -/
def readGroup (token : List Char) : Option UInt16 :=
  if token.length ≤ 4 then (Text.readNumeral 16 token).map UInt16.ofNat else none

/-- Two octets as one group. -/
def joinOctets (a b : UInt8) : UInt16 :=
  UInt16.ofNat (a.toNat * 256 + b.toNat)

/-- The first two octets as one group. -/
def Octets.upper (o : Octets) : UInt16 := joinOctets o[0] o[1]

/-- The last two octets as one group. -/
def Octets.lower (o : Octets) : UInt16 := joinOctets o[2] o[3]

/-- An IPv4 address as two groups. -/
def Octets.asGroups (o : Octets) : List UInt16 := [o.upper, o.lower]

/-- What the tokens of an IPv6 text have given so far: the groups written out, and how many of
them stand before the elision, if there was one. -/
structure ReadGroups where
  groups : List UInt16
  elision : Option Nat
deriving Repr, DecidableEq

namespace ReadGroups

/-- Takes in one token. An empty token is the elision, one with a dot is an embedded IPv4 address
and must be the last. -/
def take (p : ReadGroups) (isLast : Bool) (token : List Char) : Except AddressFlaw ReadGroups :=
  let next : Except AddressFlaw ReadGroups :=
    if token.isEmpty then
      match p.elision with
      | some _ => .error .repeatedElision
      | none => .ok { p with elision := some p.groups.length }
    else if token.contains '.' then
      if isLast then
        match readOctets token with
        | .ok o => .ok { p with groups := p.groups ++ o.asGroups }
        | .error _ => .error .badEmbedded
      else .error .embeddedNotLast
    else
      match readGroup token with
      | some g => .ok { p with groups := p.groups ++ [g] }
      | none => .error .badGroup
  match next with
  | .ok q => if q.groups.length ≤ 8 then .ok q else .error .tooManyGroups
  | .error e => .error e

/-- Takes in tokens in order. -/
def takeAll (p : ReadGroups) : List (List Char) → Except AddressFlaw ReadGroups
  | [] => .ok p
  | t :: ts =>
    match p.take ts.isEmpty t with
    | .ok q => q.takeAll ts
    | .error e => .error e

/-- The eight groups: as written, or with zeros where the elision stands. -/
def expand (p : ReadGroups) : Except AddressFlaw Groups :=
  match p.elision with
  | none => if h : p.groups.length = 8 then .ok ⟨p.groups.toArray, by simp [h]⟩ else .error .groupCount
  | some k =>
    let filled := p.groups.take k ++ List.replicate (8 - p.groups.length) 0 ++ p.groups.drop k
    if p.groups.length = 8 then .error .emptyElision
    else if h : filled.length = 8 then .ok ⟨filled.toArray, by simp [h]⟩
    else .error .tooManyGroups

end ReadGroups

/-- Of the two empty tokens that a `::` at the edge of a text leaves, drops one. A single empty
token at the edge is the given flaw. -/
def mergeEdge (flaw : AddressFlaw) : List (List Char) → Except AddressFlaw (List (List Char))
  | [] :: [] :: ts => .ok ([] :: ts)
  | [] :: _ :: _ => .error flaw
  | ts => .ok ts

/-- The tokens of an IPv6 text, with a `::` at either edge as one empty token. -/
def groupTokens (cs : List Char) : Except AddressFlaw (List (List Char)) :=
  let tokens := cs.splitOn ':'
  if tokens.length < 3 then .error .tooFewGroups
  else match mergeEdge .leadingColon tokens with
    | .error e => .error e
    | .ok ts => (mergeEdge .trailingColon ts.reverse).map List.reverse

/-- Reads IPv6 text. -/
def readGroups (cs : List Char) : Except AddressFlaw Groups :=
  match groupTokens cs with
  | .error e => .error e
  | .ok ts =>
    match (ReadGroups.mk [] none).takeAll ts with
    | .error e => .error e
    | .ok p => p.expand

namespace IpAddress

/-- Reads an address of either family from characters. -/
def ofChars (cs : List Char) : Except AddressFlaw IpAddress :=
  if cs.contains ':' then (readGroups cs).map .v6 else (readOctets cs).map .v4

/-- Reads an address of either family. The error carries the whole text. -/
def parse (s : String) : Except AddressError IpAddress :=
  (ofChars s.toList).mapError (.malformed s)

end IpAddress
end LinkWatch
