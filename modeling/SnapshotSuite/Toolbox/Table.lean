import SnapshotSuite.Toolbox.Shell.Invocation
import SnapshotSuite.Toolbox.Tool.Cat
import SnapshotSuite.Toolbox.Tool.Columns
import SnapshotSuite.Toolbox.Tool.Count
import SnapshotSuite.Toolbox.Tool.Echo
import SnapshotSuite.Toolbox.Tool.Editing
import SnapshotSuite.Toolbox.Tool.Entries
import SnapshotSuite.Toolbox.Tool.Environment
import SnapshotSuite.Toolbox.Tool.Extent
import SnapshotSuite.Toolbox.Tool.Listing
import SnapshotSuite.Toolbox.Tool.Permissions
import SnapshotSuite.Toolbox.Tool.Plain
import SnapshotSuite.Toolbox.Tool.Printf
import SnapshotSuite.Toolbox.Tool.Replacement
import SnapshotSuite.Toolbox.Tool.Selection
import SnapshotSuite.Toolbox.Tool.Sorting
import SnapshotSuite.Toolbox.Tool.Streams
import SnapshotSuite.Toolbox.Tool.Transfer
/-!
# All tools

The table of the tools. Some run others, and a shell runs itself for each command inside a command,
so that all of them are bounded by one number.
-/

namespace SnapshotSuite

namespace Toolbox

/-- The tool of a name that runs no other. -/
def plainTool? : Tools
  | "[" => some testCondition
  | "basename" => some basename
  | "cat" => some cat
  | "chmod" => some chmod
  | "cp" => some cp
  | "cut" => some cut
  | "dirname" => some dirname
  | "echo" => some echo
  | "false" => some refuse
  | "grep" => some grep
  | "head" => some head
  | "ls" => some ls
  | "mkdir" => some mkdir
  | "mv" => some mv
  | "printf" => some printf
  | "pwd" => some pwd
  | "rev" => some rev
  | "rm" => some rm
  | "rmdir" => some rmdir
  | "sed" => some sed
  | "seq" => some seq
  | "sleep" => some sleep
  | "sort" => some sort
  | "tac" => some tac
  | "tail" => some tail
  | "tee" => some tee
  | "test" => some testCondition
  | "touch" => some touch
  | "tr" => some tr
  | "true" => some succeed
  | "uniq" => some uniq
  | "wc" => some wc
  | _ => none

/-- The tool of a name, where some tools and a shell can be run by others. -/
def toolNamed? (tools : Tools) (shell : Tool) (name : Octets) : Option Tool :=
  if name = "sh" ∨ name = "dash" then some shell
  else if name = "env" then some (checkingOutput (env tools))
  else (plainTool? name).map checkingOutput

mutual

/-- Carries out a command; `fuel` bounds how deep commands stand in one another. A process in which
they stand deeper is ended by the system. -/
def evaluate : (fuel : Nat) → Shell.Mode → Shell.Command → Shell.ShellM Unit
  | 0, _, _ => throw (.gone (.signal Signal.memorySignal false))
  | fuel + 1, mode, command => Shell.step ⟨evaluate fuel, toolsWithin fuel⟩ mode command

/-- The tools; `fuel` bounds how deep they run in one another. -/
def toolsWithin : (fuel : Nat) → Tools
  | 0, _ => none
  | fuel + 1, name =>
    toolNamed? (toolsWithin fuel) (shell ⟨evaluate fuel, toolsWithin fuel⟩) name

end

/-- How deep commands and tools may stand in one another. -/
def maxDepth : Nat := 40000

/-- The tools. -/
def tools : Tools :=
  toolsWithin maxDepth

end Toolbox

end SnapshotSuite
