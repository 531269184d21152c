/-!
# TOML values

The values of a TOML document, and the rules by which keys and table headers build its tables. A
table remembers how it came about, because only some tables may be added to later.
-/

namespace LinkWatch.Toml

/-- How a table came about. -/
inductive Origin where
  /-- On the way to the table of a header. -/
  | implied
  /-- By a header of its own. -/
  | header
  /-- By a dotted key. -/
  | dotted
  /-- In braces. -/
  | inlined
deriving Repr, DecidableEq

/-- A value of a document. Numbers that are no integers, and times, are kept as they are written.
What is written like an integer need not be one; it has no number then. -/
inductive Value where
  | string (s : String)
  | integer (n : Option Int)
  | boolean (b : Bool)
  | float (text : String)
  | time (text : String)
  | array (items : List Value)
  /-- The tables of headers in double brackets. -/
  | tables (items : List Value)
  | table (origin : Origin) (entries : List (String × Value))
deriving Repr

/-- The entries of a table, in the order in which they were written. -/
abbrev Entries := List (String × Value)

/-- Replaces the value under a key, or adds it at the end. -/
def setEntry (key : String) (v : Value) : Entries → Entries
  | [] => [(key, v)]
  | (k, w) :: r => if k = key then (k, v) :: r else (k, w) :: setEntry key v r

/-- Adds a value under a key of a table, with a dotted key before it. Tables on the way must come
from dotted keys. -/
def addKey : List String → String → Value → Entries → Option Entries
  | [], key, v, entries =>
    if (entries.lookup key).isSome then none else some (entries ++ [(key, v)])
  | p :: path, key, v, entries =>
    match entries.lookup p with
    | none => (addKey path key v []).map fun es => entries ++ [(p, .table .dotted es)]
    | some (.table .dotted es) =>
      (addKey path key v es).map fun es => setEntry p (.table .dotted es) entries
    | some _ => none

/-- Changes the entries of the table at a path of headers. Missing tables on the way are made; a
list of tables stands for its last one. -/
def modifyAt : List String → (Entries → Option Entries) → Entries → Option Entries
  | [], f, entries => f entries
  | p :: path, f, entries =>
    match entries.lookup p with
    | none => (modifyAt path f []).map fun es => entries ++ [(p, .table .implied es)]
    | some (.table .inlined _) => none
    | some (.table origin es) =>
      (modifyAt path f es).map fun es => setEntry p (.table origin es) entries
    | some (.tables items) =>
      match items.getLast? with
      | some (.table origin es) =>
        (modifyAt path f es).map fun es =>
          setEntry p (.tables (items.dropLast ++ [.table origin es])) entries
      | _ => none
    | some _ => none

/-- Opens the table of a header. A table has one header at most. -/
def openTable (key : String) (entries : Entries) : Option Entries :=
  match entries.lookup key with
  | none => some (entries ++ [(key, .table .header [])])
  | some (.table .implied es) => some (setEntry key (.table .header es) entries)
  | some _ => none

/-- Opens another table of a header in double brackets. -/
def appendTable (key : String) (entries : Entries) : Option Entries :=
  match entries.lookup key with
  | none => some (entries ++ [(key, .tables [.table .header []])])
  | some (.tables items) => some (setEntry key (.tables (items ++ [.table .header []])) entries)
  | some _ => none

end LinkWatch.Toml
