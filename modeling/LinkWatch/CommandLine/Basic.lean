/-!
# The command line

What a command line can say: a command, and options that hold for every command. Options may stand
before the command word and after it.
-/

namespace LinkWatch

/-- What the program is asked to do. -/
inductive Command where
  /-- Print every interface, as text or as a document. -/
  | list (json : Bool)
  /-- Print one interface. -/
  | get (id : String)
  /-- Print changes as they happen. -/
  | monitor
  /-- Write a new settings file. -/
  | init (output : String)
deriving Repr, DecidableEq

/-- A command line that was understood. Without a command word the changes are printed. -/
structure CommandLine where
  command : Option Command
  /-- The settings file. -/
  config : Option String
  verbose : Bool
  /-- The time between two polls, in milliseconds. -/
  pollInterval : Option UInt64
  includes : List String
  excludes : List String
  excludeVirtual : Bool
  excludeLoopback : Bool
  separator : Option String
  lowerCase : Bool
deriving Repr, DecidableEq

namespace CommandLine

/-- True when a new settings file is asked for. -/
def isInit (c : CommandLine) : Bool :=
  match c.command with
  | some (.init _) => true
  | _ => false

/-- True when changes are to be printed. -/
def isMonitor (c : CommandLine) : Bool := c.command.all (· == .monitor)

end CommandLine

/-- Why a command line is not carried out. -/
inductive UsageError where
  /-- Help was asked for. -/
  | help
  /-- The version was asked for. -/
  | version
  | unknownArgument
  | unknownCommand
  /-- An option that may stand once stands twice. -/
  | repeatedOption
  /-- A value is missing or empty. -/
  | missingValue
  /-- A value is not of the right form. -/
  | badValue
  /-- A switch has a value. -/
  | unexpectedValue
  /-- A command lacks its argument. -/
  | missingArgument
deriving Repr, DecidableEq

end LinkWatch
