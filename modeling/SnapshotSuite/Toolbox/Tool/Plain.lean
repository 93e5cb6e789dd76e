import SnapshotSuite.Toolbox.Condition
import SnapshotSuite.Toolbox.Options
import SnapshotSuite.Toolbox.Programs
/-!
# Plain tools

Tools that answer a simple question or do nothing at all.
-/

namespace SnapshotSuite

namespace Toolbox

/-- Succeeds. -/
def succeed : Tool := fun _ _ => return .code 0

/-- Fails. -/
def refuse : Tool := fun _ _ => return .code 1

/-- Prints the working directory. -/
def pwd : Tool := withOptions [⟨'L', "logical", false⟩, ⟨'P', "physical", false⟩] fun name
    arguments => do
  if arguments.operands ≠ [] then
    Job.complain (name ++ ": ignoring non-option arguments")
  Job.printLine (← read).directoryPath
  return .code 0

/-- Waits, for no time at all. -/
def sleep : Tool := withOptions [] fun name arguments => do
  let isTime (word : Octets) : Bool :=
    let cs := word.toList
    let cs := if (cs.getLast?).any "smhd".toList.contains then cs.dropLast else cs
    cs ≠ [] && cs.all (fun c => c.isDigit || c = '.') && cs.any Char.isDigit
  match arguments.operands.filter (!isTime ·) with
  | [] =>
    if arguments.operands = [] then misused 1 name "missing operand" else return .code 0
  | wrong =>
    wrong.forM fun word =>
      Job.complain (name ++ ": invalid time interval " ++ shownWord word)
    complaining 1 ("Try \x27" ++ name ++ " --help\x27 for more information.")

/-- Says whether words hold as a condition. Between brackets, the last word closes them. -/
def testCondition : Tool := fun name words => do
  let hasBrackets := Tools.lastName name = "["
  if hasBrackets ∧ words.getLast? ≠ some "]" then
    complaining 2 (name ++ ": missing " ++ shownWord "]")
  else
    let words := if hasBrackets then words.dropLast else words
    match Condition.holds (← Job.workspace) words with
    | .ok holds => return endingWith holds
    | .error complaint => complaining 2 (name ++ ": " ++ complaint)

/-! ### Names in paths -/

/-- The characters of a path without the slashes at its end. -/
def withoutSlashes (cs : List Char) : List Char :=
  (cs.reverse.dropWhile (· = '/')).reverse

/-- The last name of a path. -/
def baseName (path : Octets) : List Char :=
  let cs := withoutSlashes path.toList
  if cs = [] then path.toList.take 1
  else (cs.reverse.takeWhile (· ≠ '/')).reverse

/-- A name without an ending, unless it is nothing else. -/
def withoutSuffix (ending : Octets) (name : List Char) : List Char :=
  if name ≠ ending.toList ∧ ending.toList.isSuffixOf name then
    name.take (name.length - ending.length)
  else name

/-- Prints the last name of paths, on request without an ending. -/
def basename : Tool := withLeadingOptions
    [⟨'a', "multiple", false⟩, ⟨'s', "suffix", true⟩, ⟨'z', "zero", false⟩] fun name
    arguments => do
  let ending := if arguments.has 'z' then "\x00" else "\n"
  let show_ (suffix path : Octets) : Job Unit :=
    Job.print (String.ofList (withoutSuffix suffix (baseName path)) ++ ending)
  match arguments.operands with
  | [] => misused 1 name "missing operand"
  | path :: rest =>
    if arguments.has 'a' ∨ arguments.has 's' then
      (path :: rest).forM (show_ ((arguments.value? 's').getD ""))
      return .code 0
    else
      match rest with
      | [] =>
        show_ "" path
        return .code 0
      | [suffix] =>
        show_ suffix path
        return .code 0
      | _ :: extra :: _ => misused 1 name ("extra operand " ++ shownWord extra)

/-- The path of the directory in which a path ends. -/
def directoryName (path : Octets) : List Char :=
  let cs := withoutSlashes path.toList
  let front := (cs.reverse.dropWhile (· ≠ '/')).reverse
  if cs = [] then if path = "" then ['.'] else ['/']
  else if front = [] then ['.']
  else if withoutSlashes front = [] then ['/']
  else withoutSlashes front

/-- Prints the directories of paths. -/
def dirname : Tool := withLeadingOptions [⟨'z', "zero", false⟩] fun name arguments => do
  let ending := if arguments.has 'z' then "\x00" else "\n"
  if arguments.operands = [] then misused 1 name "missing operand"
  else
    arguments.operands.forM fun path =>
      Job.print (String.ofList (directoryName path) ++ ending)
    return .code 0

end Toolbox

end SnapshotSuite
