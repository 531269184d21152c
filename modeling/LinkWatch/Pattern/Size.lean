import Std.Data.HashMap
import LinkWatch.Pattern.Basic
import LinkWatch.Unicode.Utf8

/-!
# The size of a pattern

A pattern stands for an automaton that reads the bytes of a text, and for a second one that reads
them backwards. Each state takes a fixed amount of memory, and a state with a list of steps takes
more for each of them. A pattern is accepted when neither automaton exceeds a limit.

Nothing is built here but the count of the states and of the bytes of their lists. States are
numbered in the order in which they are added. The numbers matter in one place only: states of a
set are shared when they have the same steps, and which of them are remembered depends on a table
with one place for each remainder of a mixture of those numbers.
-/

namespace LinkWatch.Pattern

open Unicode (CharSet)

/-- What an automaton takes: its states, and the bytes of the lists of steps that they hold. -/
structure Extent where
  states : Nat
  listed : Nat
deriving Repr, DecidableEq

namespace Extent

/-- The bytes of a state without its steps. -/
def stateBytes : Nat := 32

/-- The bytes of a step on a range of bytes. -/
def stepBytes : Nat := 8

/-- The bytes of a step that reads nothing. -/
def branchBytes : Nat := 4

/-- The largest automaton that is accepted, in bytes. -/
def limit : Nat := 10 * 0x100000

/-- All bytes of an automaton. -/
def bytes (e : Extent) : Nat := stateBytes * e.states + e.listed

/-- An automaton with more states and lists. -/
def plus (e : Extent) (states listed : Nat) : Extent := ⟨e.states + states, e.listed + listed⟩

/-- An automaton with more states and lists, unless it is then too large. -/
def grow (e : Extent) (states listed : Nat) : Option Extent :=
  let e := e.plus states listed
  if e.bytes ≤ limit then some e else none

/-- Grows a number of times. -/
def times (step : Extent → Option Extent) : Nat → Extent → Option Extent
  | 0, e => some e
  | n + 1, e =>
    match step e with
    | some e => times step n e
    | none => none

end Extent

/-! ## Sets -/

/-- The place of a list of numbers in a table of a given size: they are mixed one after another by
an exclusive or and a multiplication, and the remainder by the size is taken. -/
def tablePlace (size : Nat) (ns : List Nat) : Nat :=
  let mix (h : UInt64) (n : Nat) : UInt64 := (h ^^^ n.toUInt64) * 1099511628211
  (ns.foldl mix 14695981039346656037).toNat % size

/-- An automaton while a set is added to it. A state is known by the numbers of its steps. Each place
of the table holds the state that was added last among those with this place. -/
structure Sharing where
  extent : Extent
  known : Std.HashMap Nat (List Nat × Nat)

namespace Sharing

/-- The places of the table for states that read forwards. -/
def forwardPlaces : Nat := 10000

/-- The places of the table for states that read backwards. -/
def backwardPlaces : Nat := 1000

/-- The number of a state with the given numbers: of one that is known, or of a new one whose list
takes the given bytes. -/
def state (b : Sharing) (places listed : Nat) (numbers : List Nat) : Nat × Sharing :=
  let place := tablePlace places numbers
  let new := b.extent.states
  let added : Sharing := ⟨b.extent.plus 1 listed, b.known.insert place (numbers, new)⟩
  match b.known[place]? with
  | some (others, old) => if others = numbers then (old, b) else (new, added)
  | none => (new, added)

/-- Adds the states that read one of some sequences of byte ranges, up to a final state, and gives
the number of the first of them. Sequences that start alike share that start. The states after a
step are added before the state that takes it. -/
def addForwards (final : Nat) : Nat → List (List (Nat × Nat)) → Sharing → Nat × Sharing
  | 0, _, b => (final, b)
  | depth + 1, sequences, b =>
    let sameStart (s t : List (Nat × Nat)) : Bool := s.head? == t.head?
    let groups := sequences.splitBy sameStart
    let (numbers, b) := groups.foldl
      (fun (numbers, b) group =>
        match group with
        | ((first, last) :: rest) :: _ =>
          let (next, b) :=
            if rest.isEmpty then (final, b) else addForwards final depth (group.map List.tail) b
          (numbers ++ [first, last, next], b)
        | _ => (numbers, b))
      ([], b)
    b.state forwardPlaces (Extent.stepBytes * groups.length) numbers

/-- Adds the states that read a sequence of byte ranges backwards, up to a final state, and a step
to the first of them. -/
def addBackwards (final : Nat) (b : Sharing) (sequence : List (Nat × Nat)) : Sharing :=
  let (_, b) := sequence.foldl
    (fun (next, b) (first, last) => state b backwardPlaces 0 [next, first, last]) (final, b)
  { b with extent := b.extent.plus 0 Extent.branchBytes }

end Sharing

/-- Adds the states that read the bytes of one character of a set: an end, and the states in front
of it, equal ones shared. -/
def growSet (set : CharSet) (e : Extent) : Extent :=
  let start : Sharing := ⟨e.plus 1 0, ∅⟩
  (start.addForwards e.states 4 (Unicode.Utf8.setSequences set)).2.extent

/-- Adds the states that read the bytes of one character of a set backwards: a start with a step to
each sequence, an end, and states of one byte range each, equal ones shared. -/
def growSetBackwards (set : CharSet) (e : Extent) : Extent :=
  let start : Sharing := ⟨e.plus 2 0, ∅⟩
  ((Unicode.Utf8.setSequences set).foldl (Sharing.addBackwards (e.states + 1)) start).extent

/-! ## Alternatives of texts -/

/-- What the states take that read one of several texts, without the end that all of them lead to;
the first number bounds the lengths. A text that ends here divides the others into those before and
after it. Each group of texts has a state with a step for each first byte, and one more state leads
to the groups and, after each but the last, to the end. -/
def trieExtent : Nat → List (List Nat) → Extent
  | 0, _ => ⟨0, 0⟩
  | depth + 1, texts =>
    let tail := texts.dropWhile (·.isEmpty)
    let texts := if tail.length < texts.length then [] :: tail else tail
    let groups := texts.splitOnP (·.isEmpty)
    let addGroup (total : Extent) (group : List (List Nat)) : Extent :=
      let firsts := (group.filterMap List.head?).eraseDups
      let addRests (total : Extent) (first : Nat) : Extent :=
        let rests := (group.filter (·.head? == some first)).map List.tail
        if rests.all (·.isEmpty) then total
        else
          let inner := trieExtent depth rests
          total.plus inner.states inner.listed
      let total := firsts.foldl addRests total
      match firsts.length with
      | 0 => total
      | 1 => total.plus 1 Extent.branchBytes
      | n => total.plus 1 (Extent.branchBytes + Extent.stepBytes * n)
    let total := groups.foldl addGroup ⟨0, 0⟩
    total.plus 1 (Extent.branchBytes * (groups.length - 1))

/-- The bytes of texts to choose from, if all alternatives are texts. -/
def alternativeTexts? : Pattern → Option (List (List Nat))
  | text cs => some [Unicode.Utf8.encodeText cs]
  | either p q =>
    match p.alternativeTexts?, q.alternativeTexts? with
    | some ps, some qs => some (ps ++ qs)
    | _, _ => none
  | _ => none

/-- Adds the states for a choice of texts. -/
def growTexts (backwards : Bool) (texts : List (List Nat)) (e : Extent) : Option Extent :=
  let texts := if backwards then texts.map List.reverse else texts
  let longest := texts.foldl (fun n t => Nat.max n t.length) 0
  let inner := trieExtent longest texts
  e.grow (inner.states + 1) inner.listed

/-! ## Patterns -/

/-- Where a pattern stands: by itself, or among alternatives. -/
inductive Standing where
  | alone
  | second
  | later
deriving Repr, DecidableEq

/-- What an alternative adds besides its own states: the second one adds the state that leads to
each of them and the one that they lead to. -/
def Standing.join (s : Standing) (e : Extent) : Option Extent :=
  match s with
  | alone => some e
  | second => e.grow 2 (2 * Extent.branchBytes)
  | later => e.grow 0 Extent.branchBytes

/-- Adds a state with two steps that read nothing. -/
def growFork (e : Extent) : Option Extent := e.grow 1 (2 * Extent.branchBytes)

/-- Adds a repetition of what a step adds. -/
def growRepetition (step : Extent → Option Extent) (canBeEmpty : Bool) (min : Nat)
    (max : Option Nat) (e : Extent) : Option Extent :=
  match min, max with
  | 0, some 1 => do (← step (← growFork e)).grow 1 0
  | 0, none =>
    if canBeEmpty then do (← growFork (← growFork (← step e))).grow 1 0
    else do step (← growFork e)
  | min, none => do growFork (← Extent.times step min e)
  | min, some max =>
    if min = max then Extent.times step min e
    else do
      let least ← if min = 0 then e.grow 1 0 else Extent.times step min e
      Extent.times (fun e => do step (← growFork e)) (max - min) (← least.grow 1 0)

/-- Adds the states of a pattern. -/
def growBy (backwards : Bool) (standing : Standing) : Pattern → Extent → Option Extent
  | empty, e => do standing.join (← e.grow 1 0)
  | text cs, e => do standing.join (← e.grow (Unicode.Utf8.encodeText cs).length 0)
  | one _ set, e => do
    let e ←
      if set.all (·.2 < 0x80) then e.grow 2 (Extent.stepBytes * set.length)
      else if backwards then (growSetBackwards set e).grow 0 0
      else (growSet set e).grow 0 0
    standing.join e
  | place _, e => do standing.join (← e.grow 1 0)
  | seq p q, e => do
    let e ←
      if backwards then do growBy backwards .alone p (← growBy backwards .alone q e)
      else do growBy backwards .alone q (← growBy backwards .alone p e)
    standing.join e
  | either p q, e =>
    match standing with
    | .alone =>
      match (either p q).alternativeTexts? with
      | some texts => growTexts backwards texts e
      | none => do growBy backwards .second q (← growBy backwards .alone p e)
    | standing => do growBy backwards .later q (← standing.join (← growBy backwards .alone p e))
  | repetition p min max _, e => do
    let canBeEmpty := p.minLength.all (· = 0)
    standing.join (← growRepetition (growBy backwards .alone p) canBeEmpty min max e)
  | group _ p, e => do
    let inner ← if backwards then some e else e.grow 1 0
    let inner ← growBy backwards .alone p inner
    standing.join (← if backwards then some inner else inner.grow 1 0)

/-- True when a condition in front of everything else makes every match start at the start of the
text. -/
def startsText : Pattern → Bool
  | place p => p = .textStart
  | seq p q => p.startsText || (p.maxLength = some 0 && q.startsText)
  | either p q => p.startsText && q.startsText
  | repetition p min _ _ => 0 < min && p.startsText
  | group _ p => p.startsText
  | _ => false

/-- True when a condition behind everything else makes every match end at the end of the text. -/
def endsText : Pattern → Bool
  | place p => p = .textEnd
  | seq p q => q.endsText || (q.maxLength = some 0 && p.endsText)
  | either p q => p.endsText && q.endsText
  | repetition p min _ _ => 0 < min && p.endsText
  | group _ p => p.endsText
  | _ => false

/-- What the automaton of a whole pattern takes in one direction, unless it is too large. In front
of the pattern stands one state, or where a match may start later, a loop over all bytes. -/
def extent? (p : Pattern) (backwards : Bool) : Option Extent := do
  let anchored := if backwards then p.endsText else p.startsText
  let front ← (⟨0, 0⟩ : Extent).grow 1 0
  let front ←
    if anchored then some front
    else front.grow 2 (2 * Extent.branchBytes + Extent.stepBytes)
  if backwards then (← growBy backwards .alone p front).grow 1 0
  else (← growBy backwards .alone p (← front.grow 1 0)).grow 2 0

/-- True when the automata of a pattern are not too large. -/
def isCompilable (p : Pattern) : Bool := (p.extent? false).isSome && (p.extent? true).isSome

end LinkWatch.Pattern
