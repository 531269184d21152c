import LinkWatch.Pattern.Reader
import LinkWatch.Pattern.Simplify
import LinkWatch.Pattern.Size
import LinkWatch.Unicode.Folding
import LinkWatch.Unicode.Query

/-!
# Name patterns

How a text becomes a test of names. The flags and the named classes of an expression are resolved:
a flag holds from where it is set to the end of the group around it; outside Unicode mode classes
are sets of ASCII characters, and what could match a part of a character is refused. A text that
is no pattern is named in the error.
-/

namespace LinkWatch.Pattern

/-- The flags in force. -/
structure Mode where
  ignoreCase : Bool
  multiLine : Bool
  dotAll : Bool
  swapGreed : Bool
  unicode : Bool
  crlf : Bool
deriving Repr, DecidableEq

/-- The flags at the start of a pattern. -/
def Mode.initial : Mode := ⟨false, false, false, false, true, false⟩

/-- The flags after changes. -/
def Mode.apply (m : Mode) (changes : FlagChanges) : Mode where
  ignoreCase := (changes.setting? .ignoreCase).getD m.ignoreCase
  multiLine := (changes.setting? .multiLine).getD m.multiLine
  dotAll := (changes.setting? .dotAll).getD m.dotAll
  swapGreed := (changes.setting? .swapGreed).getD m.swapGreed
  unicode := (changes.setting? .unicode).getD m.unicode
  crlf := (changes.setting? .crlf).getD m.crlf

/-- The characters that the classes and conditions are about. -/
def Mode.repertoire (m : Mode) : Repertoire := if m.unicode then .unicode else .ascii

/-! ## Sets -/

open Unicode (CharSet)

/-- The ASCII characters. -/
def asciiSet : CharSet := [(0, 0x7F)]

/-- The ranges of a class with a name. -/
def AsciiClass.set : AsciiClass → CharSet
  | alnum => [(0x30, 0x39), (0x41, 0x5A), (0x61, 0x7A)]
  | alpha => [(0x41, 0x5A), (0x61, 0x7A)]
  | ascii => [(0, 0x7F)]
  | blank => [(0x09, 0x09), (0x20, 0x20)]
  | cntrl => [(0, 0x1F), (0x7F, 0x7F)]
  | digit => [(0x30, 0x39)]
  | graph => [(0x21, 0x7E)]
  | lower => [(0x61, 0x7A)]
  | print => [(0x20, 0x7E)]
  | punct => [(0x21, 0x2F), (0x3A, 0x40), (0x5B, 0x60), (0x7B, 0x7E)]
  | space => [(0x09, 0x0D), (0x20, 0x20)]
  | upper => [(0x41, 0x5A)]
  | word => [(0x30, 0x39), (0x41, 0x5A), (0x5F, 0x5F), (0x61, 0x7A)]
  | xdigit => [(0x30, 0x39), (0x41, 0x46), (0x61, 0x66)]

/-- The set of a class with a letter. -/
def ShortClass.set (m : Mode) : ShortClass → CharSet
  | digit => if m.unicode then Unicode.digitSet else AsciiClass.digit.set
  | space => if m.unicode then Unicode.spaceSet else AsciiClass.space.set
  | word => if m.unicode then Unicode.wordSet else AsciiClass.word.set

/-- The set of a query. -/
def PropertyQuery.set? : PropertyQuery → Option CharSet
  | single c => Unicode.namedSet? c.toString
  | named n => Unicode.namedSet? n
  | valued p v => Unicode.valuedSet? p v

/-- A set with the other cases of its letters, where case is ignored. -/
def foldSet (m : Mode) (s : CharSet) : CharSet :=
  if m.ignoreCase then
    if m.unicode then s.foldCase else CharSet.inter asciiSet (CharSet.foldCase s)
  else s

/-- Folds a set and takes its complement if asked to. Outside Unicode mode the result must be
ASCII. -/
def finishSet (m : Mode) (negated : Bool) (s : CharSet) : Except PatternError CharSet :=
  let s := foldSet m s
  let s := if negated then s.complement else s
  if m.unicode || s.all (·.2 < 0x80) then .ok s else .error .notText

/-- The code point of a literal of a class. -/
def Literal.inClass (m : Mode) (l : Literal) : Except PatternError Nat :=
  if m.unicode || l.char.toNat < 0x80 then .ok l.char.toNat
  else if l.isByte && l.char.toNat < 0x100 then .error .notText
  else .error .notInUnicode

mutual

/-- The set of an item of a class. -/
def ClassItem.resolve (m : Mode) : ClassItem → Except PatternError CharSet
  | .literal l => (l.inClass m).map fun n => [(n, n)]
  | .range a b =>
    match a.inClass m, b.inClass m with
    | .ok x, .ok y => .ok [(x, y)]
    | .error e, _ => .error e
    | _, .error e => .error e
  | .ascii c negated => finishSet m negated c.set
  | .property q negated =>
    if m.unicode then
      match q.set? with
      | some s => finishSet m negated s
      | none => .error .unknownProperty
    else .error .notInUnicode
  | .short c negated => finishSet { m with ignoreCase := false } negated (c.set m)
  | .bracketed negated set =>
    match set.resolve m with
    | .ok s => finishSet m negated s
    | .error e => .error e

/-- The set of the inside of a class. -/
def ClassSet.resolve (m : Mode) : ClassSet → Except PatternError CharSet
  | .union items => (ClassItem.resolveAll m items).map CharSet.normalize
  | .binary op l r =>
    match l.resolve m, r.resolve m with
    | .ok x, .ok y =>
      let x := foldSet m x
      let y := foldSet m y
      .ok <| match op with
        | .intersection => x.inter y
        | .difference => x.difference y
        | .symmetricDifference => x.symmetricDifference y
    | .error e, _ => .error e
    | _, .error e => .error e

/-- The ranges of some items. -/
def ClassItem.resolveAll (m : Mode) : List ClassItem → Except PatternError (List (Nat × Nat))
  | [] => .ok []
  | i :: r =>
    match i.resolve m, ClassItem.resolveAll m r with
    | .ok x, .ok y => .ok (x ++ y)
    | .error e, _ => .error e
    | _, .error e => .error e

end

/-! ## Parts -/

/-- A literal outside classes. -/
def Literal.resolve (m : Mode) (l : Literal) : Except PatternError Pattern :=
  if !m.unicode && l.isByte && 0x80 ≤ l.char.toNat && l.char.toNat < 0x100 then .error .notText
  else if m.unicode || l.char.toNat < 0x80 then
    .ok (ofSet m.repertoire (foldSet m [(l.char.toNat, l.char.toNat)]))
  else .ok (.text [l.char])

/-- The set that a dot matches. -/
def dotSet (m : Mode) : CharSet :=
  if m.dotAll then CharSet.full
  else if m.crlf then CharSet.complement [(0x0A, 0x0A), (0x0D, 0x0D)]
  else CharSet.complement [(0x0A, 0x0A)]

/-- An anchor under the flags in force. -/
def Anchor.resolve (m : Mode) : Anchor → Place :=
  let k := m.repertoire
  fun
  | lineStart => if m.multiLine then (if m.crlf then .lineStartCrlf else .lineStart) else .textStart
  | lineEnd => if m.multiLine then (if m.crlf then .lineEndCrlf else .lineEnd) else .textEnd
  | textStart => .textStart
  | textEnd => .textEnd
  | wordBoundary => .wordBoundary k
  | notWordBoundary => .notWordBoundary k
  | wordStart => .wordStart k
  | wordEnd => .wordEnd k
  | wordStartHalf => .wordStartHalf k
  | wordEndHalf => .wordEndHalf k

mutual

/-- The pattern of an expression, and the flags after it. -/
def Expression.resolve (m : Mode) : Expression → Except PatternError (Pattern × Mode)
  | .empty => .ok (.empty, m)
  | .flags changes => .ok (.empty, m.apply changes)
  | .literal l => (l.resolve m).map (·, m)
  | .dot => if m.unicode then .ok (ofSet .unicode (dotSet m), m) else .error .notText
  | .anchor a => .ok (.place (a.resolve m), m)
  | .charClass item => (item.resolve m).map fun s => (ofSet m.repertoire s, m)
  | .repetition e min max greedy =>
    match e.resolve m with
    | .ok (p, m) => .ok (p.repeated min max (greedy != m.swapGreed), m)
    | .error e => .error e
  | .group number changes e =>
    match e.resolve (m.apply changes) with
    | .ok (p, _) => .ok (number.elim p (Pattern.group · p), m)
    | .error e => .error e
  | .alternation es => (Expression.resolveAll m es).map fun (ps, m) => (Pattern.alternation ps, m)
  | .concat es => (Expression.resolveAll m es).map fun (ps, m) => (Pattern.sequence ps, m)

/-- The patterns of some expressions; flags set in one hold in the next. -/
def Expression.resolveAll (m : Mode) :
    List Expression → Except PatternError (List Pattern × Mode)
  | [] => .ok ([], m)
  | e :: r =>
    match e.resolve m with
    | .error e => .error e
    | .ok (p, m) => (Expression.resolveAll m r).map fun (ps, m) => (p :: ps, m)

end

/-- Reads a pattern. -/
def compile (text : String) : Except PatternError Pattern :=
  match Expression.parse text.toList with
  | .error e => .error e
  | .ok e =>
    match e.resolve .initial with
    | .error e => .error e
    | .ok (p, _) => if p.isCompilable then .ok p else .error .tooLarge

/-- The test of names that a pattern stands for, or the pattern itself when it cannot be read. -/
def nameTest (text : String) : Except String (String → Bool) :=
  match compile text with
  | .ok p => .ok p.isMatch
  | .error _ => .error text

end LinkWatch.Pattern
