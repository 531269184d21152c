import LinkWatch.Toml.Quoted
import LinkWatch.Toml.Scalar

/-!
# Reading TOML documents

A document is a list of lines, each with a key and its value or with the header of a table.
`parse` gives the entries of its outermost table.
-/

namespace LinkWatch.Toml

/-! ## Gaps and comments -/

/-- Skips blanks and tabs. -/
def skipGap (cs : List Char) : List Char := cs.dropWhile isGap

/-- Skips a comment if there is one. A comment may hold only visible characters. -/
def skipComment (cs : List Char) : Option (List Char) :=
  match cs with
  | '#' :: r =>
    let rest := r.dropWhile isVisible
    if rest.isEmpty || (cutNewline rest).isSome then some rest else none
  | _ => some cs

/-- Skips the rest of a line that holds nothing but a comment. -/
def skipLineEnd (cs : List Char) : Option (List Char) :=
  match skipComment (skipGap cs) with
  | some [] => some []
  | some rest => cutNewline rest
  | none => none

/-- Skips gaps, comments and ends of lines, of at most as many lines as a bound says. -/
def skipLines : Nat → List Char → Option (List Char)
  | 0, cs => some cs
  | n + 1, cs =>
    match skipComment (skipGap cs) with
    | none => none
    | some rest =>
      match cutNewline rest with
      | some rest => skipLines n rest
      | none => some rest

/-- Skips everything between two parts of a value in brackets. -/
def skipBetween (cs : List Char) : Option (List Char) := skipLines (cs.length + 1) cs

/-! ## Keys -/

/-- True for the characters of keys without quotes. -/
def isBareKeyChar (c : Char) : Bool := c.isAlphanum || c == '_' || c == '-'

/-- One part of a key. -/
def readSimpleKey (cs : List Char) : Reading String :=
  match cs with
  | '"' :: _ => readShortQuoted cs
  | '\'' :: _ => readShortQuoted cs
  | _ =>
    let word := cs.takeWhile isBareKeyChar
    if word.isEmpty then none else some (String.ofList word, cs.dropWhile isBareKeyChar)

/-- A key: its parts before the last, and the last. The bound is on the number of parts. -/
def readKeyUpTo : Nat → List Char → Reading (List String × String)
  | 0, _ => none
  | n + 1, cs =>
    match readSimpleKey (skipGap cs) with
    | none => none
    | some (k, rest) =>
      match skipGap rest with
      | '.' :: rest =>
        (readKeyUpTo n rest).map fun ((path, last), rest) => ((k :: path, last), rest)
      | rest => some (([], k), rest)

/-- How deep values may nest in brackets and braces, and the number of parts that a key stays
below, the last one not counted. -/
def depthLimit : Nat := 80

/-- A key with gaps around its parts. -/
def readKey (cs : List Char) : Reading (List String × String) :=
  (readKeyUpTo (cs.length + 1) cs).filter fun ((path, _), _) => path.length < depthLimit

/-- A key and the sign after it. -/
def readKeySign (cs : List Char) : Reading (List String × String) :=
  match readKey cs with
  | some (key, '=' :: rest) => some (key, skipGap rest)
  | _ => none

/-- A key and the sign after it in braces, where the line may end around the sign. -/
def readMemberKeySign (cs : List Char) : Reading (List String × String) :=
  match readKey cs with
  | none => none
  | some (key, rest) =>
    match skipBetween rest with
    | some ('=' :: rest) => (skipBetween rest).map (key, ·)
    | _ => none

/-! ## Values -/

mutual

/-- A value, at most as long and nested at most as deep as two bounds say. -/
def readValue : Nat → Nat → List Char → Reading Value
  | 0, _, _ => none
  | n + 1, depth, cs =>
    match cs, depth with
    | '[' :: _, 0 => none
    | '[' :: r, depth + 1 =>
      match skipBetween r with
      | some rest => (readItems n depth rest).map fun (l, rest) => (.array l, rest)
      | none => none
    | '\x7b' :: _, 0 => none
    | '\x7b' :: r, depth + 1 =>
      match skipBetween r with
      | some rest => (readMembers n depth [] rest).map fun (l, rest) => (.table .inlined l, rest)
      | none => none
    | '"' :: _, _ => (readQuoted cs).map fun (s, rest) => (.string s, rest)
    | '\'' :: _, _ => (readQuoted cs).map fun (s, rest) => (.string s, rest)
    | _, _ =>
      let (word, rest) := cutWord cs
      (readWord word).map (·, rest)

/-- The items of an array, after its bracket or a comma. -/
def readItems : Nat → Nat → List Char → Reading (List Value)
  | 0, _, _ => none
  | _ + 1, _, ']' :: r => some ([], r)
  | n + 1, depth, cs =>
    match readValue n depth cs with
    | none => none
    | some (v, rest) =>
      match skipBetween rest with
      | some (']' :: rest) => some ([v], rest)
      | some (',' :: rest) =>
        match skipBetween rest with
        | some rest => (readItems n depth rest).map fun (l, rest) => (v :: l, rest)
        | none => none
      | _ => none

/-- The members of a table in braces, after its brace or a comma, added to the ones before. -/
def readMembers : Nat → Nat → Entries → List Char → Reading Entries
  | 0, _, _, _ => none
  | _ + 1, _, entries, '\x7d' :: r => some (entries, r)
  | n + 1, depth, entries, cs =>
    match readMemberKeySign cs with
    | none => none
    | some ((path, key), rest) =>
      match readValue n depth rest with
      | none => none
      | some (v, rest) =>
        match addKey path key v entries, skipBetween rest with
        | some entries, some ('\x7d' :: rest) => some (entries, rest)
        | some entries, some (',' :: rest) =>
          match skipBetween rest with
          | some rest => readMembers n depth entries rest
          | none => none
        | _, _ => none

end

/-! ## Documents -/

/-- A document so far: its entries, and the path of the table that lines belong to. -/
structure Document where
  entries : Entries
  path : List String

/-- A line, from its first visible character on. -/
def readLine (d : Document) (cs : List Char) : Reading Document :=
  match cs with
  | '[' :: '[' :: r =>
    match readKey r with
    | some ((path, key), ']' :: ']' :: rest) =>
      (modifyAt path (appendTable key) d.entries).map fun es => (⟨es, path ++ [key]⟩, rest)
    | _ => none
  | '[' :: r =>
    match readKey r with
    | some ((path, key), ']' :: rest) =>
      (modifyAt path (openTable key) d.entries).map fun es => (⟨es, path ++ [key]⟩, rest)
    | _ => none
  | _ =>
    match readKeySign cs with
    | none => none
    | some ((path, key), rest) =>
      match readValue (rest.length + 1) depthLimit rest with
      | none => none
      | some (v, rest) =>
        (modifyAt d.path (addKey path key v) d.entries).map fun es => (⟨es, d.path⟩, rest)

/-- The lines of a document, at most as many as a bound says. -/
def readDocument : Nat → Document → List Char → Option Entries
  | 0, _, _ => none
  | n + 1, d, cs =>
    match skipBetween cs with
    | none => none
    | some [] => some d.entries
    | some cs =>
      match readLine d cs with
      | none => none
      | some (d, rest) =>
        match skipLineEnd rest with
        | some rest => readDocument n d rest
        | none => none

/-- Reads a document, which may start with a byte order mark. -/
def parse (text : String) : Option Entries :=
  let cs := match text.toList with
    | '\uFEFF' :: r => r
    | cs => cs
  readDocument (cs.length + 1) ⟨[], []⟩ cs

end LinkWatch.Toml
