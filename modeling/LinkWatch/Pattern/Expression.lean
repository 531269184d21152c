/-!
# Pattern expressions

A pattern as it is written: literals, classes, anchors, repetitions, groups and alternatives, with
the flags that groups switch on and off. What an expression matches is settled later, when flags
and named classes are resolved.
-/

namespace LinkWatch.Pattern

/-- Switches that change how the rest of a group is read. -/
inductive Flag where
  | ignoreCase
  | multiLine
  | dotAll
  | swapGreed
  | unicode
  | crlf
  | ignoreBlanks
deriving Repr, DecidableEq

/-- Flags that a group switches on or off. -/
abbrev FlagChanges := List (Flag × Bool)

/-- The setting that changes give a flag, if they name it. -/
def FlagChanges.setting? (f : Flag) (changes : FlagChanges) : Option Bool :=
  List.lookup f changes

/-- A character, with a mark if it was written as a byte of two hexadecimal digits. -/
structure Literal where
  char : Char
  isByte : Bool
deriving Repr, DecidableEq

/-- Conditions on a place between two characters. -/
inductive Anchor where
  | lineStart
  | lineEnd
  | textStart
  | textEnd
  | wordBoundary
  | notWordBoundary
  | wordStart
  | wordEnd
  | wordStartHalf
  | wordEndHalf
deriving Repr, DecidableEq

/-- Classes with a letter of their own. -/
inductive ShortClass where
  | digit
  | space
  | word
deriving Repr, DecidableEq

/-- Classes with a name in brackets and colons. -/
inductive AsciiClass where
  | alnum
  | alpha
  | ascii
  | blank
  | cntrl
  | digit
  | graph
  | lower
  | print
  | punct
  | space
  | upper
  | word
  | xdigit
deriving Repr, DecidableEq

/-- A class asked for by the name of a property. -/
inductive PropertyQuery where
  | single (letter : Char)
  | named (name : String)
  | valued (property value : String)
deriving Repr, DecidableEq

/-- The operations on classes. -/
inductive ClassOperation where
  | intersection
  | difference
  | symmetricDifference
deriving Repr, DecidableEq

mutual

/-- A part of a class in brackets. -/
inductive ClassItem where
  | literal (l : Literal)
  | range (first last : Literal)
  | ascii (c : AsciiClass) (negated : Bool)
  | property (q : PropertyQuery) (negated : Bool)
  | short (c : ShortClass) (negated : Bool)
  | bracketed (negated : Bool) (set : ClassSet)

/-- The inside of a class in brackets. -/
inductive ClassSet where
  | union (items : List ClassItem)
  | binary (op : ClassOperation) (left right : ClassSet)

end

deriving instance Repr for ClassItem
deriving instance Repr for ClassSet

/-- A pattern as written. -/
inductive Expression where
  | empty
  | flags (changes : FlagChanges)
  | literal (l : Literal)
  | dot
  | anchor (a : Anchor)
  /-- A class: an item of its own, or brackets. -/
  | charClass (item : ClassItem)
  /-- A repetition, with a mark if it is written without the sign of a reluctant one. -/
  | repetition (e : Expression) (min : Nat) (max : Option Nat) (greedy : Bool)
  /-- A group, with its number if what it matches is captured. -/
  | group (number : Option Nat) (changes : FlagChanges) (e : Expression)
  | alternation (es : List Expression)
  | concat (es : List Expression)
deriving Repr

/-- Expressions one after another; one alone stands for itself. -/
def Expression.sequence : List Expression → Expression
  | [] => .empty
  | [e] => e
  | es => .concat es

/-! ## Depth -/

mutual

/-- How deep an item of a class nests. -/
def ClassItem.depth : ClassItem → Nat
  | .bracketed _ set => set.depth + 1
  | _ => 0

/-- How deep the inside of a class nests. -/
def ClassSet.depth : ClassSet → Nat
  | .union [item] => item.depth
  | .union items => if items.isEmpty then 0 else ClassItem.maxDepth items + 1
  | .binary _ l r => max l.depth r.depth + 1

/-- How deep the deepest of some items nests. -/
def ClassItem.maxDepth : List ClassItem → Nat
  | [] => 0
  | i :: r => max i.depth (ClassItem.maxDepth r)

end

mutual

/-- How deep an expression nests. -/
def Expression.depth : Expression → Nat
  | .charClass item => item.depth
  | .repetition e _ _ _ => e.depth + 1
  | .group _ _ e => e.depth + 1
  | .alternation es => Expression.maxDepth es + 1
  | .concat es => Expression.maxDepth es + 1
  | _ => 0

/-- How deep the deepest of some expressions nests. -/
def Expression.maxDepth : List Expression → Nat
  | [] => 0
  | e :: r => max e.depth (Expression.maxDepth r)

end

end LinkWatch.Pattern
