/-!
# Numerals

Reading and writing natural numbers in a base up to 36. A digit is one of `0`-`9`, `a`-`z` and
`A`-`Z`; both cases of a letter have the same value. Digits that are numbers, and not characters,
stand for a number in any base, most significant first.
-/

namespace LinkWatch.Text

/-- The value of a digit or letter, whatever the base. -/
def digitValue (c : Char) : Option Nat :=
  if '0' ≤ c && c ≤ '9' then some (c.toNat - '0'.toNat)
  else if 'a' ≤ c && c ≤ 'z' then some (c.toNat - 'a'.toNat + 10)
  else if 'A' ≤ c && c ≤ 'Z' then some (c.toNat - 'A'.toNat + 10)
  else none

/-- The characters that are digits of a base. -/
def isDigit (base : Nat) (c : Char) : Bool :=
  match digitValue c with
  | some d => d < base
  | none => false

/-- The number that a list of digits denotes, most significant digit first. -/
def numeralValue (base : Nat) (cs : List Char) : Nat :=
  cs.foldl (fun n c => n * base + (digitValue c).getD 0) 0

/-- Reads a numeral: one digit of the base or more, and nothing else. -/
def readNumeral (base : Nat) (cs : List Char) : Option Nat :=
  if !cs.isEmpty && cs.all (isDigit base) then some (numeralValue base cs) else none

/-- Reads a numeral that may carry a plus sign, at most `limit`. -/
def readUnsigned (base limit : Nat) (cs : List Char) : Option Nat :=
  let digits := match cs with
    | '+' :: r => r
    | _ => cs
  (readNumeral base digits).filter (· ≤ limit)

/-- Decimal text without leading zeros. -/
def decimal (n : Nat) : List Char :=
  Nat.toDigits 10 n

/-- Lower-case hexadecimal text without leading zeros. -/
def hexadecimal (n : Nat) : List Char :=
  Nat.toDigits 16 n

/-- The two hexadecimal digits of a byte. -/
def hexPair (upper : Bool) (b : UInt8) : List Char :=
  let digit (n : Nat) : Char :=
    if n < 10 then Char.ofNat ('0'.toNat + n)
    else Char.ofNat ((if upper then 'A' else 'a').toNat + (n - 10))
  [digit (b.toNat / 16), digit (b.toNat % 16)]

/-! ## Positional values -/

namespace Radix

/-- The number with the given digits, most significant first. -/
def value (base : Nat) (digits : List Nat) : Nat :=
  digits.foldl (fun n d => n * base + d) 0

/-- Digit `i` of `count` digits of a number, most significant first. -/
def digit (base count n i : Nat) : Nat :=
  n / Nat.pow base (count - 1 - i) % base

end Radix
end LinkWatch.Text
