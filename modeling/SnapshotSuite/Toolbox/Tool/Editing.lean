import SnapshotSuite.Toolbox.Editor.Execution
import SnapshotSuite.Toolbox.Editor.Reader
import SnapshotSuite.Toolbox.Entries
import SnapshotSuite.Toolbox.Options
/-!
# Editing streams

Carries out a script on the lines of files, all together or each file by itself. What is printed can
take the place of the file.
-/

namespace SnapshotSuite

namespace Toolbox

namespace Editor

/-- The options. -/
def options : List ToolOption :=
  [⟨'n', "quiet", false⟩, ⟨'n', "silent", false⟩, ⟨'e', "expression", true⟩, ⟨'f', "file", true⟩,
    ⟨'E', "regexp-extended", false⟩, ⟨'r', "", false⟩, ⟨'s', "separate", false⟩,
    ⟨'u', "unbuffered", false⟩, ⟨'i', "in-place", false⟩, ⟨'\x00', "backup", true⟩]

/-- The words with what stands behind the option for editing files as an option of its own: the
ending of backups. -/
def withBackup (words : List Octets) : List Octets :=
  words.flatMap fun word =>
    match word.toList with
    | '-' :: 'i' :: c :: cs => ["-i", "--backup=" ++ String.ofList (c :: cs)]
    | _ =>
      if "--in-place=".toList.isPrefixOf word.toList then
        ["-i", "--backup=" ++ String.ofList (word.toList.drop "--in-place=".length)]
      else [word]

/-- A piece of a script. -/
structure Piece where
  /-- The file that it comes from, if it comes from one. -/
  file : Option Octets
  /-- The text. -/
  text : List Char

/-- The pieces of a script that options give, or the complaint about a file that cannot be read. -/
def piecesOf : List GivenOption → Job (Except Octets (List Piece))
  | [] => return .ok []
  | option :: options => do
    if option.letter = 'e' then
      return (← piecesOf options).map (⟨none, option.value.toList⟩ :: ·)
    else if option.letter = 'f' then
      match ← Job.load option.value with
      | .error error =>
        return .error ("couldn\x27t open file " ++ option.value ++ ": " ++ error.words)
      | .ok bs =>
        let text := Octets.charsOf bs
        let text := if text.getLast? = some '\n' then text.dropLast else text
        return (← piecesOf options).map (⟨some option.value, text⟩ :: ·)
    else piecesOf options

/-- Where in some pieces, which are parted by line ends, so many characters have been read. The number
of pieces without a file before them is known. -/
def placeIn (expressions : Nat) (read : Nat) : List Piece → Octets
  | [] => ""
  | piece :: pieces =>
    let expressions := if piece.file.isSome then expressions else expressions + 1
    if piece.text.length < read ∧ pieces ≠ [] then
      placeIn expressions (read - piece.text.length - 1) pieces
    else
      match piece.file with
      | some file =>
        let line := ((piece.text.take (read - 1)).count '\n') + 1
        "file " ++ file ++ " line " ++ toString line
      | none => "-e expression #" ++ toString expressions ++ ", char " ++ toString read

/-- The first mark that is not in a script. -/
def missingLabel? (script : List Command) : Option Octets :=
  script.findSome? fun command =>
    match command.act with
    | .branch name | .branchIf name | .branchUnless name =>
      if name = "" ∨ (placeOf? script name).isSome then none else some name
    | _ => none

/-- The files to which a script writes. -/
def writtenFiles (script : List Command) : List Octets :=
  script.filterMap fun command =>
    match command.act with
    | .write _ path => some path
    | .substitute substitution => substitution.file
    | _ => none

/-- Empties the files to which a script writes, up to the first where that is not possible. -/
def emptyFiles : List Octets → Job (Option Octets)
  | [] => return none
  | path :: paths => do
    if path = "/dev/stdout" ∨ path = "/dev/stderr" then emptyFiles paths
    else
      match ← Job.store path .writing [] with
      | .ok () => emptyFiles paths
      | .error error => return some ("couldn\x27t open file " ++ path ++ ": " ++ error.words)

/-- The lines of files, and the code with which the tool ends because of those that it cannot
read. -/
def inputOf (name : Octets) : List Octets → Job (List (List InputLine) × Nat)
  | [] => return ([], 0)
  | file :: files => do
    match ← Job.load file with
    | .ok bs =>
      let (inputs, code) ← inputOf name files
      return (inputLines file (Octets.charsOf bs) :: inputs, code)
    | .error error =>
      if error = .access .isDirectory then
        Job.complain (name ++ ": read error on " ++ file ++ ": " ++ error.words)
        return ([], 4)
      else
        Job.complain (name ++ ": can\x27t read " ++ file ++ ": " ++ error.words)
        let (inputs, code) ← inputOf name files
        return (inputs, max code 2)

/-- Edits files in their places. Gives the code with which the tool ends. -/
def editFiles (name : Octets) (isQuiet : Bool) (backup : Option Octets) (script : List Command) :
    List Octets → Job Nat
  | [] => return 0
  | file :: files => do
    match ← Job.load file with
    | .error error =>
      if error = .access .isDirectory then
        Job.complain (name ++ ": couldn\x27t edit " ++ file ++ ": not a regular file")
        return max (← editFiles name isQuiet backup script files) 4
      else
        Job.complain (name ++ ": can\x27t read " ++ file ++ ": " ++ error.words)
        return max (← editFiles name isQuiet backup script files) 2
    | .ok bs =>
      let (result, printed) ← runScript isQuiet script (inputLines file (Octets.charsOf bs))
      match result with
      | .error words =>
        Job.complain (name ++ ": -e expression #1, char 0: " ++ words)
        return 1
      | .ok code? =>
        if let some ending := backup then
          let _ ← Job.store (file ++ ending) .writing bs
        let _ ← Job.store file .writing (Octets.bytesOfChars printed)
        match code? with
        | some code => return code
        | none => editFiles name isQuiet backup script files

/-- Prints what a script makes of inputs, each by itself. -/
def printInputs (name : Octets) (isQuiet : Bool) (script : List Command) :
    List (List InputLine) → Job Nat
  | [] => return 0
  | input :: inputs => do
    let (result, printed) ← runScript isQuiet script input
    Job.print (String.ofList printed)
    match result with
    | .error words =>
      Job.complain (name ++ ": -e expression #1, char 0: " ++ words)
      return 1
    | .ok none => printInputs name isQuiet script inputs
    | .ok (some code) => return code

/-- Carries out a script on files. -/
def run (name : Octets) (arguments : Arguments) (script : List Command) (isQuiet : Bool)
    (files : List Octets) : Job ExitStatus := do
  match missingLabel? script, ← emptyFiles (writtenFiles script) with
  | some label, _ =>
    complaining 4 (name ++ ": can\x27t find label for jump to \x60" ++ label ++ "\x27")
  | none, some complaint => complaining 4 (name ++ ": " ++ complaint)
  | none, none =>
    let files := if files = [] then ["-"] else files
    if arguments.has 'i' then
      return .code (← editFiles name isQuiet (arguments.value? '\x00') script files)
    else
      let (inputs, code) ← inputOf name files
      let inputs := if arguments.has 's' then inputs else [inputs.flatten]
      return .code (max (← printInputs name isQuiet script inputs) code)

end Editor

open Editor in
/-- Edits lines by a script. -/
def sed : Tool := fun name words =>
  withOptions options (fun name arguments => do
    match ← piecesOf arguments.options, arguments.operands with
    | .error complaint, _ => complaining 4 (name ++ ": " ++ complaint)
    | .ok [], [] =>
      complaining 1 ("Usage: " ++ name ++
        " [OPTION]... \x7bscript-only-if-no-other-script\x7d [input-file]...")
    | .ok pieces, operands =>
      let (pieces, files) : List Piece × List Octets :=
        match pieces, operands with
        | [], script :: files => ([⟨none, script.toList⟩], files)
        | pieces, files => (pieces, files)
      let script := ['\n'].intercalate (pieces.map (·.text))
      match Editor.read (arguments.has 'E' || arguments.has 'r') script with
      | .error fault =>
        let place :=
          match fault.left with
          | some left => placeIn 0 (script.length - left) pieces
          | none => placeIn 0 0 pieces
        complaining 1 (name ++ ": " ++ place ++ ": " ++ fault.words)
      | .ok commands =>
        let isQuiet := arguments.has 'n' || "#n\n".toList.isPrefixOf script || script = "#n".toList
        Editor.run name arguments commands isQuiet files) name (withBackup words)

end Toolbox

end SnapshotSuite
