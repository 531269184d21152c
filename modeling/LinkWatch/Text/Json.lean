import LinkWatch.Text.Numeral

/-!
# JSON documents

Writing of JSON documents made of texts, truth values, lists and objects: on one line without
blanks, or over several lines with two blanks for each level.
-/

namespace LinkWatch.Text

/-- A JSON document. Objects keep the order of their members. -/
inductive Json where
  | string (s : String)
  | bool (b : Bool)
  | array (items : List Json)
  | object (members : List (String × Json))
deriving Repr

namespace Json

/-- A character inside quotes. Quotes, backslashes and control characters below U+0020 are
escaped, with the short escape where there is one. -/
def escapeChar (c : Char) : List Char :=
  if c = '"' then ['\\', '"']
  else if c = '\\' then ['\\', '\\']
  else if c = '\x08' then ['\\', 'b']
  else if c = '\x0c' then ['\\', 'f']
  else if c = '\n' then ['\\', 'n']
  else if c = '\r' then ['\\', 'r']
  else if c = '\t' then ['\\', 't']
  else if c.toNat < 0x20 then ['\\', 'u', '0', '0'] ++ hexPair false (UInt8.ofNat c.toNat)
  else [c]

/-- A text in quotes. -/
def quote (s : String) : String :=
  "\"" ++ String.ofList (s.toList.flatMap escapeChar) ++ "\""

/-! ## On one line -/

mutual

/-- The document without blanks. -/
def compact : Json → String
  | string s => quote s
  | bool b => toString b
  | array items => "[" ++ ",".intercalate (compactItems items) ++ "]"
  | object members => "\x7b" ++ ",".intercalate (compactMembers members) ++ "\x7d"

/-- The items of a list without blanks. -/
def compactItems : List Json → List String
  | [] => []
  | j :: r => compact j :: compactItems r

/-- The members of an object without blanks. -/
def compactMembers : List (String × Json) → List String
  | [] => []
  | (k, j) :: r => (quote k ++ ":" ++ compact j) :: compactMembers r

end

/-! ## Over several lines -/

/-- The start of a line at a level. -/
def indent (level : Nat) : String :=
  "\n" ++ String.ofList (List.replicate (2 * level) ' ')

/-- Encloses the items of a list or object, each on a line of its own. -/
def enclose (opening closing : String) (level : Nat) (items : List String) : String :=
  if items.isEmpty then opening ++ closing
  else opening ++ ",".intercalate (items.map (indent (level + 1) ++ ·)) ++ indent level ++ closing

mutual

/-- The document over several lines, starting at a level. -/
def prettyAt (level : Nat) : Json → String
  | string s => quote s
  | bool b => toString b
  | array items => enclose "[" "]" level (prettyItems (level + 1) items)
  | object members => enclose "\x7b" "\x7d" level (prettyMembers (level + 1) members)

/-- The items of a list at a level. -/
def prettyItems (level : Nat) : List Json → List String
  | [] => []
  | j :: r => prettyAt level j :: prettyItems level r

/-- The members of an object at a level. -/
def prettyMembers (level : Nat) : List (String × Json) → List String
  | [] => []
  | (k, j) :: r => (quote k ++ ": " ++ prettyAt level j) :: prettyMembers level r

end

/-- The document over several lines. -/
def pretty (j : Json) : String := prettyAt 0 j

end Json
end LinkWatch.Text
