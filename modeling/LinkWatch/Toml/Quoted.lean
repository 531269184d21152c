import LinkWatch.Text.Numeral

/-!
# TOML strings

The four kinds of quoted text: with escapes or without, on one line or over several. The readers
start after the opening quotes and give the text and what follows the closing quotes.
-/

namespace LinkWatch.Toml

/-- What a reader has read, and what follows. -/
abbrev Reading (α : Type) := Option (α × List Char)

/-- True for the characters that may stand in comments and, quotes and backslashes apart, in
strings of one line: all but control characters, of which the tab is allowed. -/
def isVisible (c : Char) : Bool :=
  c == '\t' || (0x20 ≤ c.toNat && c.toNat != 0x7F)

/-- True for a blank or a tab. -/
def isGap (c : Char) : Bool := c == ' ' || c == '\t'

/-- Cuts off one end of a line. -/
def cutNewline : List Char → Option (List Char)
  | '\n' :: r => some r
  | '\r' :: '\n' :: r => some r
  | _ => none

/-! ## Escapes -/

/-- The character whose number a given count of hexadecimal digits at the front gives. -/
def readCodePoint (count : Nat) (cs : List Char) : Reading Char :=
  let ds := cs.take count
  if ds.length = count then
    match Text.readNumeral 16 ds with
    | some n => if n.isValidChar then some (Char.ofNat n, cs.drop count) else none
    | none => none
  else none

/-- An escape, after its backslash. -/
def readEscape : List Char → Reading Char
  | 'b' :: r => some ('\x08', r)
  | 't' :: r => some ('\t', r)
  | 'n' :: r => some ('\n', r)
  | 'f' :: r => some ('\x0c', r)
  | 'r' :: r => some ('\r', r)
  | 'e' :: r => some ('\x1b', r)
  | '"' :: r => some ('"', r)
  | '\\' :: r => some ('\\', r)
  | 'x' :: r => readCodePoint 2 r
  | 'u' :: r => readCodePoint 4 r
  | 'U' :: r => readCodePoint 8 r
  | _ => none

/-! ## On one line -/

/-- A text without escapes. -/
def readLiteral : List Char → Reading (List Char)
  | [] => none
  | '\'' :: r => some ([], r)
  | c :: r => if isVisible c then (readLiteral r).map fun (s, rest) => (c :: s, rest) else none

/-- A text with escapes, of at most as many parts as a bound says. -/
def readBasic : Nat → List Char → Reading (List Char)
  | _, [] => none
  | 0, _ => none
  | _ + 1, '"' :: r => some ([], r)
  | n + 1, '\\' :: r =>
    match readEscape r with
    | some (c, r) => (readBasic n r).map fun (s, rest) => (c :: s, rest)
    | none => none
  | n + 1, c :: r =>
    if isVisible c then (readBasic n r).map fun (s, rest) => (c :: s, rest) else none

/-! ## Over several lines -/

/-- Closing quotes: up to two quotes of the text may stand before the three that close it. -/
def readClosing (quote : Char) (cs : List Char) : Reading (List Char) :=
  let run := (cs.takeWhile (· == quote)).length
  if 3 ≤ run && run ≤ 5 then some (List.replicate (run - 3) quote, cs.drop run) else none

/-- What follows a backslash that stands before the end of a line: everything blank is left
out. -/
def cutLineJoin (cs : List Char) : Option (List Char) :=
  match cutNewline (cs.dropWhile isGap) with
  | some r => some (skip r.length r)
  | none => none
where
  /-- Skips gaps and ends of lines. -/
  skip : Nat → List Char → List Char
    | 0, cs => cs
    | n + 1, cs =>
      match cutNewline cs with
      | some r => skip n r
      | none =>
        match cs with
        | c :: r => if isGap c then skip n r else c :: r
        | [] => []

/-- A text over several lines, of at most as many parts as a bound says. -/
def readLong (quote : Char) (escapes : Bool) : Nat → List Char → Reading (List Char)
  | _, [] => none
  | 0, _ => none
  | n + 1, c :: r =>
    let keep (part : List Char) (rest : List Char) : Reading (List Char) :=
      (readLong quote escapes n rest).map fun (s, rest) => (part ++ s, rest)
    if c = quote && (r.take 2) = [quote, quote] then readClosing quote (c :: r)
    else if c = '\\' && escapes then
      match cutLineJoin r with
      | some r => keep [] r
      | none =>
        match readEscape r with
        | some (c, r) => keep [c] r
        | none => none
    else
      match cutNewline (c :: r) with
      | some rest => keep (if c = '\r' then ['\r', '\n'] else ['\n']) rest
      | none => if isVisible c then keep [c] r else none

/-- Leaves out the end of a line that follows the opening quotes. -/
def cutFirstNewline (cs : List Char) : List Char := (cutNewline cs).getD cs

/-! ## Any kind -/

/-- A quoted text of one line, from its opening quote on. -/
def readShortQuoted : List Char → Reading String
  | '"' :: r => (readBasic r.length r).map fun (s, rest) => (String.ofList s, rest)
  | '\'' :: r => (readLiteral r).map fun (s, rest) => (String.ofList s, rest)
  | _ => none

/-- A quoted text of any kind, from its opening quotes on. -/
def readQuoted (cs : List Char) : Reading String :=
  let long (quote : Char) (escapes : Bool) (r : List Char) : Reading String :=
    (readLong quote escapes r.length (cutFirstNewline r)).map fun (s, rest) =>
      (String.ofList s, rest)
  match cs with
  | '"' :: '"' :: '"' :: r => long '"' true r
  | '\'' :: '\'' :: '\'' :: r => long '\'' false r
  | _ => readShortQuoted cs

end LinkWatch.Toml
