import SnapshotSuite.Toolbox.Entries
import SnapshotSuite.Toolbox.Options
import SnapshotSuite.Toolbox.Programs
/-!
# Running a program with other variables
-/

namespace SnapshotSuite

namespace Toolbox

namespace Environment

/-- The options. -/
def options : List ToolOption :=
  [⟨'i', "ignore-environment", false⟩, ⟨'u', "unset", true⟩, ⟨'0', "null", false⟩,
    ⟨'C', "chdir", true⟩]

/-- A variable that a word sets. -/
def assignment? (word : Octets) : Option (Octets × Octets) :=
  let name := word.toList.takeWhile (· ≠ '=')
  match word.toList.drop name.length with
  | [] => none
  | _ :: value => some (String.ofList name, String.ofList value)

/-- Variables with one more, which takes the place of another one of its name. -/
def withVariable (environment : List (Octets × Octets)) (new : Octets × Octets) :
    List (Octets × Octets) :=
  if environment.any (·.1 = new.1) then
    environment.map fun old => if old.1 = new.1 then new else old
  else environment ++ [new]

/-- Runs a program in the directory and with the variables of the process. -/
def call (tools : Tools) (name program : Octets) (words directories : List Octets) :
    Job ExitStatus := do
  let world ← get
  let process ← read
  let tool : Except SystemError Tool := do
    let path ←
      if program.toList.contains '/' then pure program
      else tools.search world process directories program
    tools.ofScript world process path
  match tool with
  | .ok tool => tool program words
  | .error error =>
    complaining (if error.isAbsence then 127 else 126)
      (name ++ ": " ++ shownWord program ++ ": " ++ error.words)

/-- Runs a program with some variables, or shows them. -/
def run (tools : Tools) (name : Octets) (arguments : Arguments) : Job ExitStatus := do
  let words :=
    if arguments.operands.head? = some "-" then arguments.operands.tail else arguments.operands
  let process ← read
  let isEmpty := arguments.has 'i' || arguments.operands.head? = some "-"
  let removed := (arguments.options.filter (·.letter = 'u')).map (·.value)
  let given := if isEmpty then [] else process.environment.filter fun entry =>
    !removed.contains entry.1
  let assignments := (words.takeWhile fun word => (assignment? word).isSome)
  let environment := (assignments.filterMap assignment?).foldl withVariable given
  match words.drop assignments.length with
  | [] =>
    environment.forM fun (name, value) =>
      Job.print (name ++ "=" ++ value ++ if arguments.has '0' then "\x00" else "\n")
    return .code 0
  | program :: words =>
    let directories := ((environment.lookup "PATH").map (splitAtChar ':')).getD Tools.directories
    let call := call tools name program words directories
    match arguments.value? 'C' with
    | none => withReader (fun process => { process with environment }) call
    | some path =>
      let complain (error : SystemError) : Job ExitStatus :=
        complaining 125 (name ++ ": cannot change directory to " ++ shellQuotedAlways path ++
          ": " ++ error.words)
      match (← get).locate process path with
      | .error error => complain error
      | .ok directory =>
        if (← get).tree.at? directory ≠ some .directory then complain (.access .notDirectory)
        else withReader (fun process => { process with environment, directory }) call

end Environment

/-- Runs a program with other variables, or shows all of them. -/
def env (tools : Tools) : Tool :=
  withArguments 125 true Environment.options (Environment.run tools)

end Toolbox

end SnapshotSuite
