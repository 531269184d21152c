import LinkWatch.Pattern.Expression
import LinkWatch.Text.Blank
import LinkWatch.Text.Numeral
import LinkWatch.Unicode.Property

/-!
# Reading patterns

Turns the characters of a pattern into an expression, or says why they are none. When blanks are
ignored, white space and comments from `#` to the end of the line may stand between the parts.
Nothing here gives a pattern a meaning; that is done on the expression.
-/

namespace LinkWatch.Pattern

/-- Why a text is no pattern. -/
inductive PatternError where
  | unexpectedEnd
  | badClass
  | classUnclosed
  | badRange
  | badEscape
  | badHex
  | badCount
  | countUnclosed
  | emptyCount
  | invertedCount
  | badFlag
  | repeatedFlag
  | danglingNegation
  | badGroupName
  | repeatedGroupName
  | groupUnclosed
  | groupUnopened
  | lookAround
  | nothingToRepeat
  | tooDeep
  | unknownProperty
  | notInUnicode
  | notText
  | tooLarge
deriving Repr, DecidableEq

/-- What was read, and the characters after it. -/
abbrev Read (α : Type) := Except PatternError (α × List Char)

/-! ## Blanks -/

/-- Drops blanks and comments. -/
def skipIgnored (inComment : Bool) : List Char → List Char
  | [] => []
  | c :: r =>
    if inComment then skipIgnored (c != '\n') r
    else if Text.isBlank c then skipIgnored false r
    else if c = '#' then skipIgnored true r
    else c :: r

/-- Drops blanks and comments where they are ignored. -/
def skip (ignoring : Bool) (cs : List Char) : List Char :=
  if ignoring then skipIgnored false cs else cs

/-- The first character after blanks and one sign of a comment, which may be in the comment. -/
def peekIgnored (inComment : Bool) : List Char → Option Char
  | [] => none
  | c :: r =>
    if Text.isBlank c then peekIgnored inComment r
    else if c = '#' && !inComment then peekIgnored true r
    else some c

/-- The character that tells what a hyphen in a class is: the next one, or where blanks are
ignored the first after them. The sign of a comment is passed over, but not its text. -/
def peek (ignoring : Bool) (cs : List Char) : Option Char :=
  if ignoring then (peekIgnored false cs).orElse fun _ => cs.head? else cs.head?

/-- Takes characters that pass a test, with ignored blanks between them. -/
def takeSkipping (ignoring : Bool) (test : Char → Bool) : Nat → List Char → List Char × List Char
  | 0, cs => ([], cs)
  | _, [] => ([], [])
  | n + 1, c :: r =>
    if test c then
      let (taken, rest) := takeSkipping ignoring test n (skip ignoring r)
      (c :: taken, rest)
    else ([], c :: r)

/-! ## Numbers -/

/-- Reads a decimal number up to 2^32 - 1, with blanks around it. -/
def readDecimal (ignoring : Bool) (cs : List Char) : Option (Option Nat) × List Char :=
  let start := cs.dropWhile Text.isBlank
  let (digits, rest) := takeSkipping ignoring (·.isDigit) start.length start
  let rest := rest.dropWhile Text.isBlank
  if digits.isEmpty then (none, rest)
  else (some ((Text.readNumeral 10 digits).filter (· ≤ 0xffffffff)), rest)

/-- The character with a code point in hexadecimal. -/
def charOfHex (digits : List Char) : Except PatternError Char :=
  match Text.readNumeral 16 digits with
  | some n => if h : n.isValidChar then .ok (Char.ofNatAux n h) else .error .badHex
  | none => .error .badHex

/-- Reads exactly `n` hexadecimal digits with ignored blanks between them. -/
def readHexDigits (ignoring : Bool) : Nat → List Char → Read (List Char)
  | 0, cs => .ok ([], cs)
  | _ + 1, [] => .error .unexpectedEnd
  | n + 1, c :: r =>
    if Text.isDigit 16 c then
      match readHexDigits ignoring n (skip ignoring r) with
      | .ok (ds, rest) => .ok (c :: ds, rest)
      | .error e => .error e
    else .error .badHex

/-- Reads a character given in hexadecimal: `width` digits, or any number of them in braces. -/
def readHex (ignoring : Bool) (width : Nat) (cs : List Char) : Read Literal :=
  match skip ignoring cs with
  | [] => .error .unexpectedEnd
  | '\x7b' :: r =>
    let inner := skip ignoring r
    let (digits, rest) := takeSkipping ignoring (· != '\x7d') inner.length inner
    if !digits.all (Text.isDigit 16) then .error .badHex
    else match rest with
      | '\x7d' :: rest =>
        (charOfHex digits).map fun c => (⟨c, false⟩, skip ignoring rest)
      | _ => .error .unexpectedEnd
  | r =>
    match readHexDigits ignoring width r with
    | .ok (digits, rest) => (charOfHex digits).map fun c => (⟨c, width == 2⟩, rest)
    | .error e => .error e

/-! ## Escapes -/

/-- Reads the property after the letter of a property class. -/
def readProperty (ignoring : Bool) (cs : List Char) : Read (PropertyQuery × Bool) :=
  match skip ignoring cs with
  | [] => .error .unexpectedEnd
  | '\x7b' :: r =>
    let inner := skip ignoring r
    let (name, rest) := takeSkipping ignoring (· != '\x7d') inner.length inner
    match rest with
    | [] => .error .unexpectedEnd
    | _ :: rest =>
      let rec split (before : List Char) : List Char → PropertyQuery × Bool
        | [] => (.named (String.ofList before.reverse), false)
        | '!' :: '=' :: r => (.valued (String.ofList before.reverse) (String.ofList r), true)
        | c :: r => split (c :: before) r
      let rec splitAt (mark : Char) (before : List Char) : List Char → Option PropertyQuery
        | [] => none
        | c :: r =>
          if c = mark then some (.valued (String.ofList before.reverse) (String.ofList r))
          else splitAt mark (c :: before) r
      match split [] name with
      | (q, true) => .ok ((q, true), rest)
      | (q, false) =>
        match splitAt ':' [] name with
        | some q => .ok ((q, false), rest)
        | none =>
          match splitAt '=' [] name with
          | some q => .ok ((q, false), rest)
          | none => .ok ((q, false), rest)
  | '\\' :: _ => .error .badEscape
  | c :: r => .ok ((.single c, false), skip ignoring r)

/-- The characters that mean something in a pattern. -/
def isMeta (c : Char) : Bool :=
  "\\.+*?()|[]\x7b\x7d^$#&-~".contains c

/-- The characters that a backslash makes literal. -/
def isEscapable (c : Char) : Bool :=
  isMeta c || (c.toNat < 128 && !c.isAlphanum && c != '<' && c != '>')

/-- A part of a pattern that stands for itself. -/
inductive Primitive where
  | literal (l : Literal)
  | dot
  | anchor (a : Anchor)
  | item (i : ClassItem)

/-- Reads the braces after a word boundary, if they name one of its kinds. Braces that do not
start with a letter are left for a repetition. -/
def readBoundaryKind (ignoring : Bool) (cs : List Char) : Read Anchor :=
  match cs with
  | '\x7b' :: r =>
    let isName (c : Char) : Bool := c.isAlpha || c == '-'
    match skip ignoring r with
    | [] => .error .unexpectedEnd
    | c :: r =>
      if !isName c then .ok (.wordBoundary, cs)
      else
        let (name, rest) := takeSkipping ignoring isName (r.length + 1) (c :: r)
        match rest with
        | '\x7d' :: rest =>
          match String.ofList name with
          | "start" => .ok (.wordStart, rest)
          | "end" => .ok (.wordEnd, rest)
          | "start-half" => .ok (.wordStartHalf, rest)
          | "end-half" => .ok (.wordEndHalf, rest)
          | _ => .error .badEscape
        | _ => .error .badEscape
  | _ => .ok (.wordBoundary, cs)

/-- Reads what follows a backslash. -/
def readEscape (ignoring : Bool) : List Char → Read Primitive
  | [] => .error .unexpectedEnd
  | c :: r =>
    let literal (c : Char) : Read Primitive := .ok (.literal ⟨c, false⟩, r)
    let anchor (a : Anchor) : Read Primitive := .ok (.anchor a, r)
    let short (k : ShortClass) (negated : Bool) : Read Primitive :=
      .ok (.item (.short k negated), r)
    let hex (width : Nat) : Read Primitive :=
      (readHex ignoring width r).map fun (l, rest) => (.literal l, rest)
    let property (negated : Bool) : Read Primitive :=
      (readProperty ignoring r).map fun ((q, n), rest) =>
        (.item (.property q (if n then !negated else negated)), rest)
    match c with
    | 'x' => hex 2
    | 'u' => hex 4
    | 'U' => hex 8
    | 'p' => property false
    | 'P' => property true
    | 'd' => short .digit false
    | 'D' => short .digit true
    | 's' => short .space false
    | 'S' => short .space true
    | 'w' => short .word false
    | 'W' => short .word true
    | 'a' => literal '\x07'
    | 'f' => literal '\x0c'
    | 't' => literal '\t'
    | 'n' => literal '\n'
    | 'r' => literal '\r'
    | 'v' => literal '\x0b'
    | 'A' => anchor .textStart
    | 'z' => anchor .textEnd
    | 'B' => anchor .notWordBoundary
    | '<' => anchor .wordStart
    | '>' => anchor .wordEnd
    | 'b' => (readBoundaryKind ignoring r).map fun (a, rest) => (.anchor a, rest)
    | _ => if isEscapable c then literal c else .error .badEscape

/-- Reads one part that stands for itself, outside brackets. -/
def readPrimitive (ignoring : Bool) : List Char → Read Primitive
  | [] => .error .unexpectedEnd
  | '\\' :: r => readEscape ignoring r
  | '.' :: r => .ok (.dot, r)
  | '^' :: r => .ok (.anchor .lineStart, r)
  | '$' :: r => .ok (.anchor .lineEnd, r)
  | c :: r => .ok (.literal ⟨c, false⟩, r)

/-! ## Classes in brackets -/

/-- The class with a name in colons. -/
def AsciiClass.ofName? : String → Option AsciiClass
  | "alnum" => some .alnum
  | "alpha" => some .alpha
  | "ascii" => some .ascii
  | "blank" => some .blank
  | "cntrl" => some .cntrl
  | "digit" => some .digit
  | "graph" => some .graph
  | "lower" => some .lower
  | "print" => some .print
  | "punct" => some .punct
  | "space" => some .space
  | "upper" => some .upper
  | "word" => some .word
  | "xdigit" => some .xdigit
  | _ => none

/-- Reads a class with a name in colons, after its opening bracket. -/
def readAsciiClass? (cs : List Char) : Option (ClassItem × List Char) :=
  match cs with
  | ':' :: r =>
    let (negated, r) := match r with
      | '^' :: r => (true, r)
      | _ => (false, r)
    let name := r.takeWhile (· != ':')
    match r.dropWhile (· != ':') with
    | ':' :: ']' :: rest =>
      (AsciiClass.ofName? (String.ofList name)).map fun k => (.ascii k negated, rest)
    | _ => none
  | _ => none

/-- Reads one end of a range, or an item that is no range. -/
def readClassPrimitive (ignoring : Bool) : List Char → Read Primitive
  | [] => .error .classUnclosed
  | '\\' :: r => readEscape ignoring r
  | c :: r => .ok (.literal ⟨c, false⟩, r)

/-- An item of a class that is no range. -/
def singleItem : Primitive → Except PatternError ClassItem
  | .literal l => .ok (.literal l)
  | .item i => .ok i
  | _ => .error .badClass

/-- The range between two ends. -/
def rangeItem : Primitive → Primitive → Except PatternError ClassItem
  | .literal a, .literal b => if a.char ≤ b.char then .ok (.range a b) else .error .badRange
  | _, _ => .error .badRange

/-- Reads a range or a single item of a class. A hyphen before the closing bracket or before
another hyphen makes no range. -/
def readClassRange (ignoring : Bool) (cs : List Char) : Read ClassItem :=
  match readClassPrimitive ignoring cs with
  | .error e => .error e
  | .ok (first, rest) =>
    let rest := skip ignoring rest
    let single : Read ClassItem := (singleItem first).map (·, rest)
    match rest with
    | [] => .error .classUnclosed
    | '-' :: r =>
      if peek ignoring r = some ']' || peek ignoring r = some '-' then single
      else match skip ignoring r with
        | [] => .error .classUnclosed
        | r =>
          match readClassPrimitive ignoring r with
          | .error e => .error e
          | .ok (last, rest) => (rangeItem first last).map (·, rest)
    | _ => single

/-- Reads the opening of a class after its bracket: a caret, hyphens, and a closing bracket that
stands first. The items come in reverse order. -/
def readClassOpening (ignoring : Bool) (cs : List Char) : Read (Bool × List ClassItem) :=
  let hyphen : ClassItem := .literal ⟨'-', false⟩
  let rec hyphens : Nat → List ClassItem → List Char → List ClassItem × List Char
    | n + 1, items, '-' :: r => hyphens n (hyphen :: items) (skip ignoring r)
    | _, items, cs => (items, cs)
  let cs := skip ignoring cs
  let (negated, cs) := match cs with
    | '^' :: r => (true, skip ignoring r)
    | _ => (false, cs)
  let (items, cs) := hyphens cs.length [] cs
  match items, cs with
  | [], ']' :: r =>
    let r := skip ignoring r
    if r.isEmpty then .error .classUnclosed
    else .ok ((negated, [.literal ⟨']', false⟩]), r)
  | _, [] => .error .classUnclosed
  | _, _ => .ok ((negated, items), cs)

/-- The set of items in reverse order, joined to what an operation before them left. -/
def closeUnion (pending : Option (ClassOperation × ClassSet)) (items : List ClassItem) : ClassSet :=
  match pending with
  | none => .union items.reverse
  | some (op, left) => .binary op left (.union items.reverse)

/-- Reads the inside of a class up to its closing bracket, given the items so far in reverse
order. -/
def readClassBody (ignoring : Bool) (negated : Bool) :
    Nat → Option (ClassOperation × ClassSet) → List ClassItem → List Char → Read ClassItem
  | 0, _, _, _ => .error .classUnclosed
  | n + 1, pending, items, cs =>
    match skip ignoring cs with
    | [] => .error .classUnclosed
    | ']' :: r => .ok (.bracketed negated (closeUnion pending items), r)
    | '[' :: r =>
      match readAsciiClass? r with
      | some (item, rest) => readClassBody ignoring negated n pending (item :: items) rest
      | none =>
        match readClassOpening ignoring r with
        | .error e => .error e
        | .ok ((innerNegated, first), rest) =>
          match readClassBody ignoring innerNegated n none first rest with
          | .error e => .error e
          | .ok (item, rest) => readClassBody ignoring negated n pending (item :: items) rest
    | '&' :: '&' :: r =>
      readClassBody ignoring negated n (some (.intersection, closeUnion pending items)) [] r
    | '-' :: '-' :: r =>
      readClassBody ignoring negated n (some (.difference, closeUnion pending items)) [] r
    | '~' :: '~' :: r =>
      readClassBody ignoring negated n (some (.symmetricDifference, closeUnion pending items)) [] r
    | cs =>
      match readClassRange ignoring cs with
      | .error e => .error e
      | .ok (item, rest) => readClassBody ignoring negated n pending (item :: items) rest

/-- Reads a class after its opening bracket. -/
def readClass (ignoring : Bool) (cs : List Char) : Read ClassItem :=
  match readClassOpening ignoring cs with
  | .error e => .error e
  | .ok ((negated, items), rest) => readClassBody ignoring negated (rest.length + 1) none items rest

/-! ## Repetition -/

/-- True when an expression can be repeated. -/
def isRepeatable : Expression → Bool
  | .empty => false
  | .flags _ => false
  | _ => true

/-- Reads the mark of a reluctant repetition; true if there is none. -/
def readGreed : List Char → Bool × List Char
  | '?' :: r => (false, r)
  | cs => (true, cs)

/-- A count that was read, if there was one and it fits. -/
def countOf : Option (Option Nat) → Except PatternError Nat
  | none => .error .emptyCount
  | some none => .error .badCount
  | some (some n) => .ok n

/-- Reads the counts of a repetition, after the opening brace and up to the closing one. -/
def readCounts (ignoring : Bool) (cs : List Char) : Read (Nat × Option Nat) :=
  let cs := skip ignoring cs
  let (low, rest) := readDecimal ignoring cs
  if cs.isEmpty || rest.isEmpty then .error .countUnclosed
  else match rest with
    | ',' :: r =>
      match skip ignoring r with
      | [] => .error .countUnclosed
      | '\x7d' :: rest => (countOf low).map fun low => ((low, none), rest)
      | r =>
        let (high, rest) := readDecimal ignoring r
        match countOf low, countOf high, rest with
        | .ok low, .ok high, '\x7d' :: rest =>
          if low ≤ high then .ok ((low, some high), rest) else .error .invertedCount
        | .error e, _, _ => .error e
        | _, .error e, _ => .error e
        | _, _, _ => .error .countUnclosed
    | '\x7d' :: rest => (countOf low).map fun low => ((low, some low), rest)
    | _ => .error .countUnclosed

/-! ## Groups -/

/-- The flag of a letter. -/
def Flag.ofLetter? : Char → Option Flag
  | 'i' => some .ignoreCase
  | 'm' => some .multiLine
  | 's' => some .dotAll
  | 'U' => some .swapGreed
  | 'u' => some .unicode
  | 'R' => some .crlf
  | 'x' => some .ignoreBlanks
  | _ => none

/-- Reads flags up to the colon or parenthesis after them, which stays. -/
def readFlags (changes : FlagChanges) (negated dangling : Bool) : List Char → Read FlagChanges
  | [] => .error .unexpectedEnd
  | c :: r =>
    if c = ':' || c = ')' then
      if dangling then .error .danglingNegation else .ok (changes, c :: r)
    else if c = '-' then
      if negated then .error .repeatedFlag else readFlags changes true true r
    else match Flag.ofLetter? c with
      | none => .error .badFlag
      | some f =>
        if (changes.setting? f).isSome then .error .repeatedFlag
        else readFlags (changes ++ [(f, !negated)]) negated false r

/-- Reads the name of a group up to its closing angle bracket. -/
def readGroupName (cs : List Char) : Read (List Char) :=
  let name := cs.takeWhile (· != '>')
  let first (c : Char) : Bool := c == '_' || Unicode.alphabeticSet.contains c.toNat
  let other (c : Char) : Bool :=
    c == '_' || c == '.' || c == '[' || c == ']' || Unicode.alphanumericSet.contains c.toNat
  match cs.dropWhile (· != '>'), name with
  | [], _ => .error .unexpectedEnd
  | _ :: _, [] => .error .badGroupName
  | _ :: rest, c :: r => if first c && r.all other then .ok (name, rest) else .error .badGroupName

/-- What the opening of a group is. -/
inductive Opening where
  /-- Flags for the rest of the group around it. -/
  | setFlags (changes : FlagChanges)
  /-- A group with flags of its own. -/
  | flagged (changes : FlagChanges)
  /-- A group that captures what it matches, perhaps under a name. -/
  | capture (name : Option (List Char))

/-- Reads the opening of a group after its parenthesis. -/
def readOpening (ignoring : Bool) (cs : List Char) : Read Opening :=
  let named (cs : List Char) : Read Opening :=
    (readGroupName cs).map fun (name, rest) => (.capture (some name), rest)
  match skip ignoring cs with
  | '?' :: '=' :: _ => .error .lookAround
  | '?' :: '!' :: _ => .error .lookAround
  | '?' :: '<' :: '=' :: _ => .error .lookAround
  | '?' :: '<' :: '!' :: _ => .error .lookAround
  | '?' :: 'P' :: '<' :: r => named r
  | '?' :: '<' :: r => named r
  | '?' :: r =>
    match readFlags [] false false r with
    | .error e => .error e
    | .ok (changes, ')' :: rest) =>
      if changes.isEmpty then .error .nothingToRepeat else .ok (.setFlags changes, rest)
    | .ok (changes, _ :: rest) => .ok (.flagged changes, rest)
    | .ok (_, []) => .error .unexpectedEnd
  | cs => .ok (.capture none, cs)

/-- An expression with the characters after it and the capturing groups opened so far, each with
its name if it has one. -/
abbrev ReadExpression := Except PatternError (Expression × List Char × List (Option (List Char)))

/-- Closes a group: the finished alternatives and the last one, both in reverse order. -/
def closeGroup (alternatives concat : List Expression) : Expression :=
  let final := Expression.sequence concat.reverse
  match alternatives with
  | [] => final
  | _ => .alternation (final :: alternatives).reverse

/-- Reads the inside of a group up to its closing parenthesis or the end, given the finished
alternatives and the parts of the current one, both in reverse order. -/
def readBody : Nat → Bool → List (Option (List Char)) → List Expression → List Expression →
    List Char → ReadExpression
  | 0, _, _, _, _, _ => .error .tooDeep
  | n + 1, ignoring, groups, alternatives, concat, cs =>
    let repeated (min : Nat) (max : Option Nat) (rest : List Char) : ReadExpression :=
      match concat with
      | e :: before =>
        if isRepeatable e then
          let (greedy, rest) := readGreed rest
          readBody n ignoring groups alternatives (.repetition e min max greedy :: before) rest
        else .error .nothingToRepeat
      | [] => .error .nothingToRepeat
    let grouped (number : Option Nat) (changes : FlagChanges)
        (inner : List (Option (List Char))) (rest : List Char) : ReadExpression :=
      let innerIgnoring := (changes.setting? .ignoreBlanks).getD ignoring
      match readBody n innerIgnoring inner [] [] rest with
      | .error e => .error e
      | .ok (e, ')' :: rest, groups) =>
        readBody n ignoring groups alternatives (.group number changes e :: concat) rest
      | .ok _ => .error .groupUnclosed
    match skip ignoring cs with
    | [] => .ok (closeGroup alternatives concat, [], groups)
    | ')' :: r => .ok (closeGroup alternatives concat, ')' :: r, groups)
    | '(' :: r =>
      match readOpening ignoring r with
      | .error e => .error e
      | .ok (.setFlags changes, rest) =>
        let ignoring := (changes.setting? .ignoreBlanks).getD ignoring
        readBody n ignoring groups alternatives (.flags changes :: concat) rest
      | .ok (.flagged changes, rest) => grouped none changes groups rest
      | .ok (.capture name, rest) =>
        if name.isSome && groups.contains name then .error .repeatedGroupName
        else grouped (some (groups.length + 1)) [] (name :: groups) rest
    | '|' :: r =>
      readBody n ignoring groups (Expression.sequence concat.reverse :: alternatives) [] r
    | '[' :: r =>
      match readClass ignoring r with
      | .error e => .error e
      | .ok (item, rest) => readBody n ignoring groups alternatives (.charClass item :: concat) rest
    | '?' :: r => repeated 0 (some 1) r
    | '*' :: r => repeated 0 none r
    | '+' :: r => repeated 1 none r
    | '\x7b' :: r =>
      match concat.head?.filter isRepeatable with
      | none => .error .nothingToRepeat
      | some _ =>
        match readCounts ignoring r with
        | .error e => .error e
        | .ok ((min, max), rest) => repeated min max (skip ignoring rest)
    | cs =>
      match readPrimitive ignoring cs with
      | .error e => .error e
      | .ok (p, rest) =>
        let e : Expression := match p with
          | .literal l => .literal l
          | .dot => .dot
          | .anchor a => .anchor a
          | .item i => .charClass i
        readBody n ignoring groups alternatives (e :: concat) rest

/-- The deepest nesting that is accepted. -/
def depthLimit : Nat := 250

/-- Reads a whole pattern. -/
def Expression.parse (cs : List Char) : Except PatternError Expression :=
  match readBody (cs.length + 1) false [] [] [] cs with
  | .error e => .error e
  | .ok (_, _ :: _, _) => .error .groupUnopened
  | .ok (e, [], _) => if e.depth ≤ depthLimit then .ok e else .error .tooDeep

end LinkWatch.Pattern
