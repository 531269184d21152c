import LinkWatch.Pattern.Basic

/-!
# Building patterns

Ways to put patterns together that keep them small: texts that follow one another become one text,
alternatives of one character each become a set, what all alternatives start with is taken out of
them, and repetitions that cannot matter are dropped. The result matches what its parts would
match. Sequences and alternatives nest to the right.
-/

namespace LinkWatch.Pattern

open Unicode (CharSet)

/-- One character of a set; a set of a single character is a text. -/
def ofSet (k : Repertoire) : CharSet → Pattern
  | [] => one .ascii []
  | [(a, b)] => if a = b then text [Char.ofNat a] else one k [(a, b)]
  | set => one k set

/-! ## Sequences -/

/-- The parts of a sequence. -/
def parts : Pattern → List Pattern
  | empty => []
  | seq p q => p.parts ++ q.parts
  | p => [p]

/-- Joins texts that follow one another. -/
def joinTexts : List Pattern → List Pattern
  | [] => []
  | text cs :: r =>
    match joinTexts r with
    | text ds :: s => text (cs ++ ds) :: s
    | s => text cs :: s
  | p :: r => p :: joinTexts r

/-- Parts one after another. -/
def chain : List Pattern → Pattern
  | [] => empty
  | [p] => p
  | p :: r => seq p (chain r)

/-- Patterns one after another. -/
def sequence (ps : List Pattern) : Pattern := chain (joinTexts (ps.flatMap parts))

/-! ## Alternatives -/

/-- The patterns that a pattern chooses from. -/
def alternatives : Pattern → List Pattern
  | either p q => p.alternatives ++ q.alternatives
  | p => [p]

/-- Patterns to choose from. -/
def fork : List Pattern → Pattern
  | [] => one .ascii []
  | [p] => p
  | p :: r => either p (fork r)

/-- The range of a text of one character. -/
def characterRange? : Pattern → Option CharSet
  | text [c] => some [(c.toNat, c.toNat)]
  | _ => none

/-- The set of a pattern that matches one character of a set. -/
def set? : Pattern → Option CharSet
  | one _ set => some set
  | _ => none

/-- The set that stands for alternatives which are all single characters, or all sets. -/
def mergedSet? (ps : List Pattern) : Option CharSet :=
  ((ps.mapM characterRange?).orElse fun _ => ps.mapM set?).map fun sets =>
    CharSet.normalize sets.flatten

/-- A choice of alternatives that start differently. -/
def choice (ps : List Pattern) : Pattern :=
  let ps := ps.flatMap alternatives
  match ps with
  | [p] => p
  | _ =>
    match mergedSet? ps with
    | some set => ofSet .unicode set
    | none => fork ps

/-- The parts of a sequence of several parts; another pattern has none to give away. -/
def sequenceParts : Pattern → List Pattern
  | seq p q => (seq p q).parts
  | _ => []

/-- The longest common start of two lists. -/
def commonStart : List Pattern → List Pattern → List Pattern
  | p :: r, q :: s => if p = q then p :: commonStart r s else []
  | _, _ => []

/-- The parts that all alternatives start with. -/
def sharedStart : List Pattern → List Pattern
  | [] => []
  | p :: r => r.foldl (fun shared q => commonStart shared q.sequenceParts) p.sequenceParts

/-- A choice of alternatives, with the parts that all of them start with in front. -/
def alternation (ps : List Pattern) : Pattern :=
  let ps := ps.flatMap alternatives
  match ps, sharedStart ps with
  | [p], _ => p
  | _, [] => choice ps
  | _, shared =>
    let rests := ps.map fun p => sequence (p.sequenceParts.drop shared.length)
    sequence (shared ++ [choice rests])

/-! ## Repetitions -/

/-- A repetition. What can only match the empty text need not be repeated more than once. -/
def repeated (p : Pattern) (min : Nat) (max : Option Nat) (greedy : Bool) : Pattern :=
  let once := p.maxLength = some 0
  let min := if once then Nat.min min 1 else min
  let max := if once then some (Nat.min (max.getD 1) 1) else max
  if min = 0 ∧ max = some 0 then empty
  else if min = 1 ∧ max = some 1 then p
  else repetition p min max greedy

end LinkWatch.Pattern
