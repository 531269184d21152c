import LinkWatch.Toml.Quoted
import LinkWatch.Toml.Value

/-!
# TOML scalars

Values that are one word: truth values, numbers and times. A word is recognised as a whole, by its
shape: the digits it starts with and what follows them tell an integer, a number with a fraction or
exponent, and a time apart. An integer whose digits are grouped by underscores may have any ending
that keeps the underscores between digits, hexadecimal ones included; it has no value then.
-/

namespace LinkWatch.Toml

/-- Cuts off a sign. True when it is a minus. -/
def cutSign : List Char → Bool × List Char
  | '+' :: r => (false, r)
  | '-' :: r => (true, r)
  | r => (false, r)

/-- True when every underscore stands between two digits of a base. -/
def underscoresBetween (base : Nat) (cs : List Char) : Bool :=
  let pieces := cs.splitOn '_'
  pieces.tail.all (fun p => p.head?.any (Text.isDigit base))
    && pieces.dropLast.all (fun p => p.getLast?.any (Text.isDigit base))

/-- A word without its underscores. -/
def ungrouped (cs : List Char) : List Char := cs.filter (· != '_')

/-! ## Numbers -/

/-- An integer after the mark of its base. It may lack digits, and then has no value. -/
def readRadix (base : Nat) (cs : List Char) : Option Value :=
  if cs.all (fun c => Text.isDigit base c || c == '_') && underscoresBetween 16 cs then
    some (.integer ((Text.readNumeral base (ungrouped cs)).map Int.ofNat))
  else none

/-- The number that a sign and decimal digits denote. -/
def signedNumber (cs : List Char) : Option Int :=
  let (negative, r) := cutSign cs
  (Text.readNumeral 10 r).map fun n => if negative then -Int.ofNat n else Int.ofNat n

/-- Cuts off digits and underscores, if there is a digit among them. -/
def cutDigits (cs : List Char) : Option (List Char) :=
  let isPart (c : Char) : Bool := Text.isDigit 10 c || c == '_'
  if (cs.takeWhile isPart).any (Text.isDigit 10) then some (cs.dropWhile isPart) else none

/-- True for a number without its sign: digits that do not start with a needless zero, perhaps a
fraction, and perhaps an exponent. -/
def isUnsignedFloat (cs : List Char) : Bool :=
  let isDigitOrMark (c : Char) : Bool := Text.isDigit 10 c || c == '_'
  let whole := ungrouped (cs.takeWhile isDigitOrMark)
  let fraction (cs : List Char) : Option (List Char) :=
    match cs with
    | '.' :: r => cutDigits r
    | _ => some cs
  let exponent (cs : List Char) : Option (List Char) :=
    match cs with
    | 'e' :: r => cutDigits (cutSign r).2
    | 'E' :: r => cutDigits (cutSign r).2
    | _ => some cs
  (whole.length ≤ 1 || cs.head? != some '0')
    && (((cutDigits cs).bind fraction).bind exponent) == some []

/-! ## Times -/

/-- The number that a given count of digits at the front stands for, and the rest. -/
def readField (count : Nat) (cs : List Char) : Option (Nat × List Char) :=
  let ds := cs.take count
  if ds.length = count && ds.all (Text.isDigit 10) then
    some (Text.numeralValue 10 ds, cs.drop count)
  else none

/-- The days of a month. -/
def daysIn (year month : Nat) : Nat :=
  if month = 2 then
    if year % 4 = 0 && (year % 100 != 0 || year % 400 = 0) then 29 else 28
  else if month = 4 || month = 6 || month = 9 || month = 11 then 30
  else 31

/-- The rest after a date. -/
def readDate (cs : List Char) : Option (List Char) := do
  let (year, cs) ← readField 4 cs
  let '-' :: cs := cs | none
  let (month, cs) ← readField 2 cs
  let '-' :: cs := cs | none
  let (day, cs) ← readField 2 cs
  if 1 ≤ month && month ≤ 12 && 1 ≤ day && day ≤ daysIn year month then some cs else none

/-- The rest after hours and minutes. -/
def readClock (cs : List Char) : Option (List Char) := do
  let (hour, cs) ← readField 2 cs
  let ':' :: cs := cs | none
  let (minute, cs) ← readField 2 cs
  if hour ≤ 23 && minute ≤ 59 then some cs else none

/-- The rest after a time of day, whose seconds and their fraction may be left out. -/
def readTimeOfDay (cs : List Char) : Option (List Char) := do
  let cs ← readClock cs
  match cs with
  | ':' :: r =>
    let (second, r) ← readField 2 r
    if second ≤ 60 then
      match r with
      | '.' :: c :: r => if Text.isDigit 10 c then some (r.dropWhile (Text.isDigit 10)) else none
      | r => some r
    else none
  | cs => some cs

/-- True for nothing or a distance from universal time. -/
def isOffset (cs : List Char) : Bool :=
  match cs with
  | [] => true
  | ['Z'] => true
  | ['z'] => true
  | '+' :: r => readClock r == some []
  | '-' :: r => readClock r == some []
  | _ => false

/-- True for a date, a time of day, or both with an optional offset. -/
def isTime (word : List Char) : Bool :=
  match readDate word with
  | some [] => true
  | some (c :: r) =>
    (c == 'T' || c == 't' || c == ' ') && (readTimeOfDay r).any isOffset
  | none => readTimeOfDay word == some []

/-! ## Words -/

/-- A word that starts with decimal digits after its sign. -/
def readNumberOrTime (word unsigned : List Char) : Option Value :=
  let isPoint (c : Char) : Bool := c == '.' || c == 'e' || c == 'E'
  let needlessZero := unsigned.head? == some '0' && 1 < unsigned.length
  let integer : Option Value :=
    if !needlessZero && underscoresBetween 16 word then
      some (.integer (signedNumber (ungrouped word)))
    else none
  match unsigned.dropWhile (Text.isDigit 10) with
  | [] => integer
  | c :: rest =>
    if c = '-' || c = ':' then
      if isTime word then some (.time (String.ofList word)) else none
    else if (c :: rest).contains ' ' then none
    else if (c :: rest).any isPoint then
      if isUnsignedFloat unsigned && underscoresBetween 10 word then
        some (.float (String.ofList word))
      else none
    else if c = '_' then integer
    else none

/-- The value of a word. -/
def readWord (word : List Char) : Option Value :=
  if word = ['t', 'r', 'u', 'e'] then some (.boolean true)
  else if word = ['f', 'a', 'l', 's', 'e'] then some (.boolean false)
  else
    match word, (cutSign word).2 with
    | '0' :: 'x' :: r, _ => readRadix 16 r
    | '0' :: 'o' :: r, _ => readRadix 8 r
    | '0' :: 'b' :: r, _ => readRadix 2 r
    | _, ['i', 'n', 'f'] => some (.float (String.ofList word))
    | _, ['n', 'a', 'n'] => some (.float (String.ofList word))
    | _, c :: r => if Text.isDigit 10 c then readNumberOrTime word (c :: r) else none
    | _, [] => none

/-- True for the characters that can stand in a piece of a word. -/
def isWordChar (c : Char) : Bool := !".=,[]\x7b\x7d \t#\r\n".contains c

/-- The piece of a word at the front of a text. A piece does not start with a quote. -/
def wordPiece (cs : List Char) : List Char :=
  match cs with
  | '"' :: _ => []
  | '\'' :: _ => []
  | _ => cs.takeWhile isWordChar

/-- Cuts off a word: pieces, the points between them, and the gaps in front of pieces. -/
def cutWordUpTo : Nat → List Char → List Char × List Char
  | 0, cs => ([], cs)
  | n + 1, cs =>
    match cs with
    | '.' :: r =>
      let (word, rest) := cutWordUpTo n r
      ('.' :: word, rest)
    | _ =>
      let piece := wordPiece (cs.dropWhile isGap)
      if piece.isEmpty then ([], cs)
      else
        let (word, rest) := cutWordUpTo n ((cs.dropWhile isGap).drop piece.length)
        (cs.takeWhile isGap ++ piece ++ word, rest)

/-- Cuts off a word, which may be of several pieces. -/
def cutWord (cs : List Char) : List Char × List Char := cutWordUpTo (cs.length + 1) cs

end LinkWatch.Toml
