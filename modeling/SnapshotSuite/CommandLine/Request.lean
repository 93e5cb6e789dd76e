import SnapshotSuite.Tree.Path
/-!
# Requests of a command line

What a user can ask for: one of three commands, under switches that all of them share.
-/

namespace SnapshotSuite

/-- A command with its options. -/
inductive Action where
  /-- Runs the fixtures whose name has the filter in it. -/
  | run (fixtures : Option Path) (update : Bool) (filter : Option String)
  /-- Lists the fixtures. -/
  | list (fixtures : Option Path)
  /-- Prints the configuration of one fixture. -/
  | resolve (fixture : String) (fixtures : Option Path)
deriving DecidableEq, Repr

/-- What a user asks for. -/
structure Request where
  /-- Whether every event is logged. -/
  verbose : Bool
  /-- Whether the log is written without colors. -/
  noColor : Bool
  /-- The file of settings, if one is named. -/
  settingsFile : Option Path
  /-- The command. -/
  action : Action
deriving DecidableEq, Repr

/-- The variables of an environment that are set. -/
abbrev Environment := String → Option String

/-- Why words ask for nothing that can be carried out. -/
inductive Refusal where
  /-- The words are no command. -/
  | usage
  /-- Help was asked for instead. -/
  | help
  /-- The version was asked for instead, of the program by this name. -/
  | version (name : String)
deriving DecidableEq, Repr

end SnapshotSuite
