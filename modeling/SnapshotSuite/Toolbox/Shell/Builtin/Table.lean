import SnapshotSuite.Toolbox.Condition
import SnapshotSuite.Toolbox.Shell.Builtin.Directory
import SnapshotSuite.Toolbox.Shell.Builtin.Flow
import SnapshotSuite.Toolbox.Shell.Builtin.Naming
import SnapshotSuite.Toolbox.Shell.Builtin.Printing
import SnapshotSuite.Toolbox.Shell.Builtin.Reading
import SnapshotSuite.Toolbox.Shell.Builtin.Signals
import SnapshotSuite.Toolbox.Shell.Builtin.Variables
/-!
# The commands of the shell itself

The table of these commands, and how one is carried out: what it prints is written when it ends, and
a failure ends the shell only if the command is special.
-/

namespace SnapshotSuite

namespace Toolbox

namespace Shell

open ShellM

namespace Builtin

/-- Says whether words hold as a condition. Behind a bracket, the last word has to begin with the
other one. -/
def test : Behavior := fun _ _ name words => do
  if name = "[" ∧ (words.getLastD "").toList.head? ≠ some ']' then fail "missing ]"
  let words := if name = "[" then words.dropLast else words
  match Condition.holds (← workspace) words with
  | .ok holds => return if holds then 0 else 1
  | .error complaint => fail complaint

/-- The commands, with their names. -/
def table : List Builtin :=
  [special "." runFile, special ":" succeed, ordinary "[" test, ordinary "alias" setAliases,
    ordinary "bg" bring, special "break" (leaveLoops .breaking), ordinary "cd" cd,
    ordinary "chdir" cd, ordinary "command" showMeaning,
    special "continue" (leaveLoops .continuing), ordinary "echo" echo, special "eval" eval,
    special "exec" exec, special "exit" exit, assigning "export" markExported,
    ordinary "false" refuse, ordinary "fg" bring, ordinary "getopts" getopts,
    ordinary "hash" track, ordinary "jobs" jobs, ordinary "kill" kill,
    assigning "local" declareLocal, ordinary "printf" printf, ordinary "pwd" pwd,
    ordinary "read" readLine, assigning "readonly" markReadOnly, special "return" leave,
    special "set" configure, special "shift" shift, ordinary "test" test, special "times" times,
    special "trap" trap, ordinary "true" succeed, ordinary "type" showMeanings,
    ordinary "ulimit" ulimit, ordinary "umask" umask, ordinary "unalias" removeAliases,
    special "unset" unset, ordinary "wait" wait]

/-- The command of a name. -/
def named? (name : Octets) : Option Builtin :=
  table.find? (·.name = name)

/-- Carries out a command and sets the status. Complaints come from its name. -/
def call (runner : Runner) (mode : Mode) (builtin : Builtin) (words : List Octets) :
    ShellM Unit := do
  let caller := (← state).caller
  modifyState fun state => { state with caller := some builtin.name }
  ensuring (do
    let status ← builtin.run runner mode builtin.name words
    if ← flush then setStatus status
    else
      warn (builtin.name ++ ": I/O error")
      setStatus (status ||| 1))
    (modifyState fun state => { state with caller })

end Builtin

end Shell

end Toolbox

end SnapshotSuite
