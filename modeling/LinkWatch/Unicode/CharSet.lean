/-!
# Sets of characters

A set of characters as ranges of code points in increasing order that neither overlap nor touch.
Surrogates are no characters: the steps from one character to the next skip them, and a range may
run across them.
-/

namespace LinkWatch.Unicode

/-- Ranges of code points, first and last included. -/
abbrev CharSet := List (Nat × Nat)

namespace CharSet

/-- The largest code point. -/
def last : Nat := 0x10FFFF

/-- All code points. -/
def full : CharSet := [(0, last)]

/-- The character after one. -/
def next (n : Nat) : Nat := if n = 0xD7FF then 0xE000 else n + 1

/-- The character before one. -/
def previous (n : Nat) : Nat := if n = 0xE000 then 0xD7FF else n - 1

/-- The range between two bounds, given in either order. -/
def range (a b : Nat) : Nat × Nat := (min a b, max a b)

/-- Puts a range in front of sorted ranges that start no earlier, joining those that touch. -/
def joinFront (r : Nat × Nat) : CharSet → CharSet
  | [] => [r]
  | s :: rest => if s.1 ≤ r.2 + 1 then joinFront (r.1, max r.2 s.2) rest else r :: s :: rest

/-- The set of ranges given in any order. -/
def normalize (ranges : List (Nat × Nat)) : CharSet :=
  (ranges.mergeSort fun a b => a.1 ≤ b.1).foldr joinFront []

/-- True for the members of a set. -/
def contains (s : CharSet) (n : Nat) : Bool :=
  s.any fun r => r.1 ≤ n && n ≤ r.2

/-- The members of either set. -/
def union (s t : CharSet) : CharSet := normalize (s ++ t)

/-- The ranges between those that follow a range that ends at `n`, and the one after the last. Two
ranges that meet at the surrogates leave the characters on both sides of these as their gap. -/
def gaps (n : Nat) : CharSet → CharSet
  | [] => if n < last then [range (next n) last] else []
  | r :: rest => range (next n) (previous r.1) :: gaps r.2 rest

/-- The characters outside a set. -/
def complement : CharSet → CharSet
  | [] => full
  | r :: rest => (if 0 < r.1 then [range 0 (previous r.1)] else []) ++ gaps r.2 rest

/-- The members of both sets. -/
def inter (s t : CharSet) : CharSet :=
  s.flatMap fun r => t.filterMap fun q =>
    if max r.1 q.1 ≤ min r.2 q.2 then some (max r.1 q.1, min r.2 q.2) else none

/-- What a set leaves of the range from `a` to `b`. -/
def rest (a b : Nat) : CharSet → CharSet
  | [] => [(a, b)]
  | r :: s =>
    if r.2 < a then rest a b s
    else if b < r.1 then [(a, b)]
    else (if a < r.1 then [(a, previous r.1)] else [])
      ++ (if r.2 < b then rest (next r.2) b s else [])

/-- The members of the first set that are not in the second. -/
def difference (s t : CharSet) : CharSet := s.flatMap fun r => rest r.1 r.2 t

/-- The members of exactly one of the sets. -/
def symmetricDifference (s t : CharSet) : CharSet := difference (union s t) (inter s t)

end CharSet

/-! ## Tables

Tables are written as texts. A set is a list of decimal numbers, in turn how many code points to
skip and how many to take. A division of all code points is a list of runs, each a name without
digits and the length of the run. -/

/-- Reads decimal numbers with blanks between them. -/
def readNumbers (s : String) : List Nat :=
  ((s.toList.splitOn ' ').filter (!·.isEmpty)).map (Nat.ofDigitChars 10 · 0)

/-- Reads ranges written as numbers to skip and to take. -/
def readRanges (start : Nat) : List Nat → CharSet
  | skip :: take :: r =>
    let first := start + skip
    (first, first + take - 1) :: readRanges (first + take) r
  | _ => []

/-- Reads runs: a name without digits, then the length. -/
def readRuns (start : Nat) (name : List Char) (length : Nat) :
    List Char → List (String × Nat × Nat)
  | [] => if length = 0 then [] else [(String.ofList name.reverse, start, start + length - 1)]
  | c :: r =>
    if c.isDigit then readRuns start name (length * 10 + (c.toNat - '0'.toNat)) r
    else if length = 0 then readRuns start (c :: name) 0 r
    else (String.ofList name.reverse, start, start + length - 1)
      :: readRuns (start + length) [c] 0 r

end LinkWatch.Unicode
