import LinkWatch.CommandLine.Basic
import LinkWatch.Text.Numeral

/-!
# Reading the command line

The words are read from left to right, first on the level of the program and, after a command
word, on the level of the command. An option that has its value in a word of its own is only taken
in when the next word is looked at, so a fault in that next word can come first. What a command's
level gives replaces what the program's level gave.
-/

namespace LinkWatch.CommandLine

/-- A thing that can be given. -/
inductive Item where
  | config
  | verbose
  | pollInterval
  | including
  | excluding
  | excludeVirtual
  | excludeLoopback
  | separator
  | lowerCase
  | json
  | output
  /-- The argument of a command. -/
  | name
  | help
  | version
deriving DecidableEq

/-- True when the item has a value. -/
def Item.hasValue : Item → Bool
  | config => true
  | pollInterval => true
  | including => true
  | excluding => true
  | separator => true
  | output => true
  | name => true
  | _ => false

/-- True when the item may be given several times on a level. -/
def Item.mayRepeat (i : Item) : Bool := i == .including || i == .excluding

/-- The value of an item is checked as soon as it is taken in. -/
def Item.check (i : Item) (value : String) : Except UsageError Unit :=
  match i with
  | .config => if value.isEmpty then .error .missingValue else .ok ()
  | .output => if value.isEmpty then .error .missingValue else .ok ()
  | .pollInterval =>
    if (Text.readUnsigned 10 0xffffffffffffffff value.toList).isSome then .ok () else .error .badValue
  | _ => .ok ()

/-! ## Levels -/

/-- The level of the program and those of its commands. -/
inductive Scope where
  | program
  | list
  | get
  | monitor
  | init
deriving DecidableEq

namespace Scope

/-- The command of a word. -/
def ofWord? : String → Option Scope
  | "list" => some list
  | "get" => some get
  | "monitor" => some monitor
  | "init" => some init
  | _ => none

/-- The item with a long name. -/
def long? (s : Scope) (name : String) : Option Item :=
  match name with
  | "config" => some .config
  | "verbose" => some .verbose
  | "poll-interval-ms" => some .pollInterval
  | "include-interface" => some .including
  | "exclude-interface" => some .excluding
  | "exclude-virtual" => some .excludeVirtual
  | "exclude-loopback" => some .excludeLoopback
  | "mac-separator" => some .separator
  | "mac-lowercase" => some .lowerCase
  | "help" => some .help
  | "version" => if s = program then some .version else none
  | "json" => if s = list then some .json else none
  | "output" => if s = init then some .output else none
  | _ => none

/-- The item with a name of one character. -/
def short? (s : Scope) (name : Char) : Option Item :=
  match name with
  | 'c' => some .config
  | 'v' => some .verbose
  | 'h' => some .help
  | 'V' => if s = program then some .version else none
  | 'o' => if s = init then some .output else none
  | _ => none

end Scope

/-- A level while it is read. -/
structure Level where
  scope : Scope
  /-- What was taken in, in order. Switches have an empty value. -/
  given : List (Item × String)
  /-- An item that was not taken in yet, with its value if that has come. -/
  pending : Option (Item × Option String)

namespace Level

/-- A level of which nothing was read. -/
def new (scope : Scope) : Level := ⟨scope, [], none⟩

/-- True when an item was taken in. -/
def has (l : Level) (i : Item) : Bool := l.given.any (·.1 == i)

/-- Takes in an item. -/
def accept (i : Item) (value : String) (l : Level) : Except UsageError Level :=
  if l.has i && !i.mayRepeat then .error .repeatedOption
  else (i.check value).map fun _ => { l with given := l.given ++ [(i, value)] }

/-- Takes in the item that is pending. -/
def resolve (l : Level) : Except UsageError Level :=
  match l.pending with
  | none => .ok l
  | some (_, none) => .error .missingValue
  | some (i, some value) => accept i value { l with pending := none }

/-- Takes in a switch. Help and version end the reading. -/
def raise (i : Item) (l : Level) : Except UsageError Level :=
  match l.resolve with
  | .error e => .error e
  | .ok l =>
    match i with
    | .help => .error .help
    | .version => .error .version
    | i => l.accept i ""

/-- Takes in an item with a value of its own word, or waits for the value. -/
def supply (i : Item) (value : Option String) (l : Level) : Except UsageError Level :=
  match l.resolve with
  | .error e => .error e
  | .ok l =>
    match value with
    | some v => l.accept i v
    | none => .ok { l with pending := some (i, none) }

/-- The item whose value the next word may be. -/
def awaited (l : Level) : Option Item :=
  match l.pending with
  | some (i, none) => some i
  | _ => none

/-! ## Words -/

/-- A word that starts with two dashes, without them. -/
def readLong (word : List Char) (l : Level) : Except UsageError Level :=
  let name := String.ofList (word.takeWhile (· != '='))
  let value := match word.dropWhile (· != '=') with
    | _ :: v => some (String.ofList v)
    | [] => none
  match l.scope.long? name with
  | none => .error .unknownArgument
  | some i =>
    if i.hasValue then l.supply i value
    else if value.isSome then .error .unexpectedValue
    else l.raise i

/-- A word that starts with one dash, without it: switches, up to an item with a value, which takes
the rest of the word. -/
def readShort : List Char → Level → Except UsageError Level
  | [], l => .ok l
  | c :: r, l =>
    match l.scope.short? c with
    | none => .error .unknownArgument
    | some i =>
      if i.hasValue then
        l.supply i (match r with
          | [] => none
          | '=' :: v => some (String.ofList v)
          | v => some (String.ofList v))
      else
        match l.raise i with
        | .error e => .error e
        | .ok l => readShort r l

/-- A word that is neither an option nor the value of one. -/
def readArgument (word : String) (afterDashes : Bool) (l : Level) : Except UsageError Level :=
  if l.scope = .get && !l.has .name && l.pending.all (·.1 != .name) then
    match l.resolve with
    | .error e => .error e
    | .ok l => .ok { l with pending := some (.name, some word) }
  else if l.scope = .program then
    if afterDashes && (word = "help" || (Scope.ofWord? word).isSome) then .error .unknownArgument
    else .error .unknownCommand
  else .error .unknownArgument

/-- The end of a level. -/
def close (l : Level) : Except UsageError Level :=
  match l.resolve with
  | .error e => .error e
  | .ok l => if l.scope = .get && !l.has .name then .error .missingArgument else .ok l

end Level

/-- What comes of asking for help on some words. -/
def helpOn (words : List String) : UsageError :=
  match words with
  | [] => .help
  | [w] => if w = "help" || (Scope.ofWord? w).isSome then .help else .unknownCommand
  | _ => .unknownCommand

/-- Reads words on a level, and gives the closed levels, the innermost first. -/
def readWords : List String → Bool → Level → Except UsageError (List Level)
  | [], _, l => l.close.map ([·])
  | w :: r, true, l =>
    match l.readArgument w true with
    | .error e => .error e
    | .ok l => readWords r true l
  | w :: r, false, l =>
    let command := if l.scope = .program && l.awaited.isNone then Scope.ofWord? w else none
    match command with
    | some scope =>
      match readWords r false (.new scope) with
      | .error e => .error e
      | .ok levels => l.close.map fun l => levels ++ [l]
    | none =>
      if w = "help" && l.scope = .program && l.awaited.isNone then .error (helpOn r)
      else
        let next : Except UsageError Level := match w.toList with
          | ['-', '-'] => .ok l
          | '-' :: '-' :: long => l.readLong long
          | '-' :: c :: short => l.readShort (c :: short)
          | _ =>
            match l.awaited with
            | some i => .ok { l with pending := some (i, some w) }
            | none => l.readArgument w false
        match next with
        | .error e => .error e
        | .ok l => readWords r (w = "--") l

/-! ## Results -/

/-- The values of an item on the innermost level that has it. -/
def valuesOf (levels : List Level) (i : Item) : List String :=
  match levels with
  | [] => []
  | l :: r =>
    match l.given.filter (·.1 == i) with
    | [] => valuesOf r i
    | found => found.map (·.2)

/-- The settings file that is written unless another is named. -/
def defaultOutput : String := "netif-watch.toml"

/-- The command of the innermost level. -/
def commandOf (levels : List Level) : Option Command :=
  let value (i : Item) : Option String := (valuesOf levels i).head?
  match levels.head?.map Level.scope with
  | some Scope.list => some (.list (value .json).isSome)
  | some .get => some (.get ((value .name).getD ""))
  | some .monitor => some .monitor
  | some .init => some (.init ((value .output).getD defaultOutput))
  | _ => none

/-- The command line that levels stand for. -/
def ofLevels (levels : List Level) : CommandLine where
  command := commandOf levels
  config := (valuesOf levels .config).head?
  verbose := !(valuesOf levels .verbose).isEmpty
  pollInterval := (valuesOf levels .pollInterval).head?.bind fun v =>
    (Text.readUnsigned 10 0xffffffffffffffff v.toList).map UInt64.ofNat
  includes := valuesOf levels .including
  excludes := valuesOf levels .excluding
  excludeVirtual := !(valuesOf levels .excludeVirtual).isEmpty
  excludeLoopback := !(valuesOf levels .excludeLoopback).isEmpty
  separator := (valuesOf levels .separator).head?
  lowerCase := !(valuesOf levels .lowerCase).isEmpty

/-- Reads the words of a command line, without the program's name. -/
def parse (words : List String) : Except UsageError CommandLine :=
  (readWords words false (.new .program)).map ofLevels

end LinkWatch.CommandLine
