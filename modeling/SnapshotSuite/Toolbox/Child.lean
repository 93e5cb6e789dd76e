import SnapshotSuite.Compiler.Command
import SnapshotSuite.Toolbox.Table
/-!
# Programs for suites

The tools as the programs that a suite can call. A program sees the workspace and, in it, the file
that holds the configuration and a few directories of a system; it has nothing to read. What it
changes in the workspace stays, those aside.
-/

namespace SnapshotSuite

namespace Toolbox

/-- The location of the file that holds the configuration. -/
def configPlace (call : Invocation) : Location :=
  (Path.components call.configPath).reverse

/-- The directories of a system that programs may look for. -/
def systemDirectories : List Location :=
  [["bin"], ["usr"], ["dev"], ["root"]]

/-- The directories of a system that a tree does not have. -/
def missingDirectories (tree : Tree) : List Location :=
  systemDirectories.filter fun place => (tree.at? place).isNone

/-- The tree that a program sees: with the configuration in its file, the directories of a system,
and the empty device. -/
def visible (tree : Tree) (call : Invocation) : Tree :=
  let file := configPlace call
  let tree := systemDirectories.foldl Tree.makeDirectories (tree.makeDirectories file.tail)
  ((tree.makeDirectories ["bin", "usr"]).put ["null", "dev"] (.file [])).put file
    (.file (Utf8.bytesOf call.configText))

/-- The tree that a program leaves: the one before the call if it changed nothing, and otherwise the
one that it has made, without what it saw only for the call. -/
def left (before after : Tree) (call : Invocation) : Tree :=
  if after = visible before call then before
  else
    let file := configPlace call
    let after := (missingDirectories before).foldl Tree.remove (after.remove file)
    match before.at? file with
    | some node => after.put file node
    | none => after

/-- The numbers of the process that calls programs, and of the program. -/
def processNumbers : Nat × Nat := (1000, 1001)

/-- The world in which a program begins: there is nothing to read, and two sinks. -/
def firstWorld (tree : Tree) : World where
  tree := tree
  files :=
    #[⟨.nothing, true, false, false⟩, ⟨.sink [] .endless, false, true, false⟩,
      ⟨.sink [] .endless, false, true, false⟩]
  lastProcess := processNumbers.2
  signals := []
  loss? := none

/-- The process of a program. -/
def firstProcess (environment : List (String × String)) (directory : Location) : Process where
  number := processNumbers.2
  parent := processNumbers.1
  directory := directory
  descriptors := [(0, 0), (1, 1), (2, 2)]
  environment := environment.map fun (name, value) => (Octets.ofText name, Octets.ofText value)
  ignored := []
  mask := 0o022
  limits := Limit.standard

/-- The tool that a program names: by its name alone, or by the path of a tool or of a runnable
file. -/
def program (process : Process) (world : World) (name : String) : Except AccessError Tool :=
  let octets := Octets.ofText name
  if name.toList.contains '/' then
    match tools.ofFile world process octets with
    | .ok tool => .ok tool
    | .error (.access error) => .error error
    | .error _ => .error .denied
  else
    match tools octets with
    | some tool => .ok tool
    | none =>
      if name = "." ∨ name = ".." then .error .denied
      else if 255 < Utf8.size name.toList then .error .nameTooLong
      else .error .notFound

/-- The tools as programs, with the variables that are set. A word with a NUL can be given to
none. -/
def child (environment : List (String × String)) : Child := fun call => do
  let w ← get
  if (call.program :: call.args).any fun word => word.toList.contains '\x00' then
    throw .nulInWord
  else
    let process := firstProcess environment w.cwd
    let world := firstWorld (visible w.tree call)
    let tool ← monadLift (program process world call.program)
    let job := tool (Octets.ofText call.program) (call.args.map Octets.ofText)
    let (status, world) := (job.run process).run world
    set { w with tree := left w.tree world.tree call }
    return ⟨status, world.written 1, world.written 2⟩

end Toolbox

end SnapshotSuite
