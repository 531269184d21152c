import LinkWatch.Unicode.Property

/-!
# Patterns and what they match

A pattern whose flags and named classes are resolved, and the search for it in a text. The places
of a text of `n` characters are the numbers 0 to `n`; a set of places is a number whose bit `i`
tells whether place `i` is in it. Matching takes the set of places where a match may start to the
set of places where it may end, by recursion on the pattern.
-/

namespace LinkWatch

namespace Pattern

/-- The characters that a class or a condition is about: all of Unicode, or ASCII alone. -/
inductive Repertoire where
  | unicode
  | ascii
deriving Repr, DecidableEq

/-- A condition on a place, with every flag resolved. -/
inductive Place where
  | textStart
  | textEnd
  | lineStart
  | lineEnd
  /-- Line edges where a carriage return and line feed together end one line. -/
  | lineStartCrlf
  | lineEndCrlf
  | wordBoundary (k : Repertoire)
  | notWordBoundary (k : Repertoire)
  | wordStart (k : Repertoire)
  | wordEnd (k : Repertoire)
  | wordStartHalf (k : Repertoire)
  | wordEndHalf (k : Repertoire)
deriving Repr, DecidableEq

end Pattern

/-- A pattern. -/
inductive Pattern where
  | empty
  /-- Characters one after another. -/
  | text (cs : List Char)
  /-- One character of a set. -/
  | one (k : Pattern.Repertoire) (set : Unicode.CharSet)
  | place (p : Pattern.Place)
  | seq (p q : Pattern)
  | either (p q : Pattern)
  /-- At least `min` and at most `max` times, with a mark if more often is tried first. -/
  | repetition (p : Pattern) (min : Nat) (max : Option Nat) (greedy : Bool)
  /-- A group that captures what it matches, with its number. -/
  | group (number : Nat) (p : Pattern)
deriving Repr, DecidableEq

namespace Pattern

/-! ## Sets of places -/

/-- The places in front of the characters that pass a test. -/
def placesBefore (test : Char → Bool) (text : List Char) : Nat :=
  text.foldr (fun c m => 2 * m + (test c).toNat) 0

/-- The places with the given neighbours before and after. -/
def placesBetween (test : Option Char → Option Char → Bool) (before : Option Char) :
    List Char → Nat
  | [] => (test before none).toNat
  | c :: r => 2 * placesBetween test (some c) r + (test before (some c)).toNat

/-- All places of a text of `n` characters. -/
def allPlaces (n : Nat) : Nat := Nat.pow 2 (n + 1) - 1

/-! ## Conditions -/

/-- True for the word characters of a kind. -/
def Repertoire.contains (k : Repertoire) (c : Char) : Bool :=
  match k with
  | .unicode => Unicode.wordSet.contains c.toNat
  | .ascii => c.isAlphanum || c == '_'

/-- True when the condition holds between two neighbours, if the text has them. -/
def Place.holds (p : Place) (before after : Option Char) : Bool :=
  match p with
  | textStart => before.isNone
  | textEnd => after.isNone
  | lineStart => before.all (· == '\n')
  | lineEnd => after.all (· == '\n')
  | lineStartCrlf => before.all fun c => c == '\n' || (c == '\r' && after != some '\n')
  | lineEndCrlf => after.all fun c => c == '\r' || (c == '\n' && before != some '\r')
  | wordBoundary k => before.any k.contains != after.any k.contains
  | notWordBoundary k => before.any k.contains == after.any k.contains
  | wordStart k => !before.any k.contains && after.any k.contains
  | wordEnd k => before.any k.contains && !after.any k.contains
  | wordStartHalf k => !before.any k.contains
  | wordEndHalf k => !after.any k.contains

/-! ## Matching -/

/-- Applies a step a number of times. -/
def iterateStep (step : Nat → Nat) : Nat → Nat → Nat
  | 0, places => places
  | n + 1, places => if places = 0 then 0 else iterateStep step n (step places)

/-- The places reached by applying a step up to a number of times. -/
def reachStep (step : Nat → Nat) : Nat → Nat → Nat
  | 0, places => places
  | n + 1, places =>
    let more := places ||| step places
    if more = places then places else reachStep step n more

/-- The places where a match that starts at one of the given places can end. A repetition that
goes on for longer than the text reaches nothing new, so counts are cut to the text's length. -/
def ends (input : List Char) : Pattern → Nat → Nat
  | empty, places => places
  | text cs, places =>
    cs.foldl (fun places c => (places &&& placesBefore (· == c) input) <<< 1) places
  | one _ set, places => (places &&& placesBefore (fun c => set.contains c.toNat) input) <<< 1
  | place p, places => places &&& placesBetween p.holds none input
  | seq p q, places => q.ends input (p.ends input places)
  | either p q, places => p.ends input places ||| q.ends input places
  | repetition p min max _, places =>
    let bound := input.length + 1
    let least := iterateStep (p.ends input) (Nat.min min bound) places
    match max with
    | none => reachStep (p.ends input) bound least
    | some max => reachStep (p.ends input) (Nat.min (max - min) bound) least
  | group _ p, places => p.ends input places

/-- True when the pattern matches somewhere in the text. -/
def isMatch (p : Pattern) (text : String) : Bool :=
  p.ends text.toList (allPlaces text.toList.length) != 0

/-! ## Length -/

/-- The length of the shortest text that the pattern can match, if it can match any. -/
def minLength : Pattern → Option Nat
  | empty => some 0
  | text cs => some cs.length
  | one _ set => if set.isEmpty then none else some 1
  | place _ => some 0
  | seq p q =>
    match p.minLength, q.minLength with
    | some m, some n => some (m + n)
    | _, _ => none
  | either p q =>
    match p.minLength, q.minLength with
    | some m, some n => some (Nat.min m n)
    | _, _ => none
  | repetition p min _ _ => p.minLength.map (· * min)
  | group _ p => p.minLength

/-- The length of the longest text that the pattern can match, if there is one. -/
def maxLength : Pattern → Option Nat
  | empty => some 0
  | text cs => some cs.length
  | one _ set => if set.isEmpty then none else some 1
  | place _ => some 0
  | seq p q =>
    match p.maxLength, q.maxLength with
    | some m, some n => some (m + n)
    | _, _ => none
  | either p q =>
    match p.maxLength, q.maxLength with
    | some m, some n => some (Nat.max m n)
    | _, _ => none
  | repetition p _ max _ => max.bind fun max => p.maxLength.map (· * max)
  | group _ p => p.maxLength

end Pattern
end LinkWatch
