import SnapshotSuite.Toolbox.Job
/-!
# Programs in files

Tools stand in the directories of programs. A file of the tree is a program only if it was made
runnable and its first line names the tool that carries it out. Those who start programs may take
any other file for a script of the shell.
-/

namespace SnapshotSuite

namespace Toolbox

/-- The tools, by their names. -/
abbrev Tools := (name : Octets) → Option Tool

namespace Tools

/-- The directories in which tools stand. -/
def directories : List Octets :=
  ["/usr/bin", "/bin"]

/-- The tool at a location. -/
def at? (tools : Tools) : Location → Option Tool
  | [name, "bin", "usr"] | [name, "bin"] => tools (Octets.ofText name)
  | _ => none

/-- A tool that is called by a name and given some words more in front. -/
def calledBy (tool : Tool) (name : Octets) (words : List Octets) : Tool :=
  fun _ rest => tool name (words ++ rest)

/-- The name of a path without its directories. -/
def lastName (path : Octets) : Octets :=
  String.ofList (path.toList.reverse.takeWhile (· ≠ '/')).reverse

/-- The words of the line that names the tool of a file: the path of the tool, and the rest as one
word. -/
def interpreter? (content : Bytes) : Option (Octets × List Octets) :=
  match Octets.charsOf (content.takeWhile (· ≠ 10)) with
  | '#' :: '!' :: line =>
    let isBlank (c : Char) : Bool := c = ' ' || c = '\t'
    let line := line.dropWhile isBlank
    let path := line.takeWhile (!isBlank ·)
    let rest := ((line.drop path.length).dropWhile isBlank).reverse.dropWhile isBlank
    if path = [] then none
    else some (String.ofList path, if rest = [] then [] else [String.ofList rest.reverse])
  | _ => none

/-- How often the tool of a file may be a file itself. -/
def maxInterpreters : Nat := 5

/-- The tool that the file at a path is, seen from a process; `fuel` bounds how many files lead to
it. -/
def ofFileWithin (tools : Tools) (world : World) (process : Process) :
    (fuel : Nat) → (path : Octets) → Except SystemError Tool
  | 0, _ => .error (.access .denied)
  | fuel + 1, path => do
    let w := process.workspace world
    let name := Octets.text path
    match tools.at? (w.place name) with
    | some tool => return tool
    | none =>
      let place ← (w.locate name).mapError .access
      match w.tree.at? place, w.tree.isRunnable place with
      | some (.file content), true =>
        match interpreter? content with
        | some (interpreter, words) =>
          let tool ← ofFileWithin tools world process fuel interpreter
          return calledBy tool interpreter (words ++ [path])
        | none => throw (.access .notProgram)
      | _, _ => throw (.access .denied)

/-- The tool that the file at a path is, seen from a process. -/
def ofFile (tools : Tools) (world : World) (process : Process) (path : Octets) :
    Except SystemError Tool :=
  ofFileWithin tools world process maxInterpreters path

/-- The tool that the file at a path is, or the shell that takes the file for a script. -/
def ofScript (tools : Tools) (world : World) (process : Process) (path : Octets) :
    Except SystemError Tool :=
  match tools.ofFile world process path, tools "sh" with
  | .error (.access .notProgram), some shell => .ok (calledBy shell path [path])
  | found, _ => found

/-- The path of the program of a name, looked for in some directories. -/
def search (tools : Tools) (world : World) (process : Process) (directories : List Octets)
    (name : Octets) : Except SystemError Octets :=
  let w := process.workspace world
  go w directories (.access .notFound)
where
  /-- Looks through the directories that are left; an error is known from those before. -/
  go (w : Workspace) : List Octets → SystemError → Except SystemError Octets
    | [], error => .error error
    | directory :: directories, error =>
      let path := if directory = "" then name else directory ++ "/" ++ name
      match tools.at? (w.place (Octets.text path)), w.locate (Octets.text path) with
      | some _, _ => .ok path
      | none, .ok place =>
        if world.tree.isRunnable place then .ok path else go w directories (.access .denied)
      | none, .error .notFound | none, .error .notDirectory => go w directories error
      | none, .error cause => go w directories (.access cause)

end Tools

end Toolbox

end SnapshotSuite
