import SnapshotSuite.Toolbox.Entries
import SnapshotSuite.Toolbox.Options
import SnapshotSuite.Toolbox.Permissions
/-!
# Changing permissions

Of the permissions of a file only one is kept: that to run it. The others are what a new file has.
-/

namespace SnapshotSuite

namespace Toolbox

/-- The permissions of what stands at a location. -/
def permissionsAt (tree : Tree) (place : Location) : Nat :=
  if tree.isRunnable place ∨ tree.at? place = some .directory then 0o755 else 0o644

/-- Whether a word with a dash writes permissions, perhaps behind options. -/
def writesPermissions (word : Octets) : Bool :=
  match word.toList with
  | '-' :: letters =>
    (letters.dropWhile "Rcfv".toList.contains).head?.any "rwxXstugoa,+=01234567".toList.contains
  | _ => false

/-- The words of a call in which permissions take the place of an operand: the permissions, if there
are any, and the rest. -/
def partPermissions (words : List Octets) : Option Octets × List Octets :=
  let front := words.takeWhile (· ≠ "--")
  let permissions := front.filter writesPermissions
  (if permissions = [] then none else some (",".intercalate permissions),
    front.filter (!writesPermissions ·) ++ words.drop front.length)

/-- The locations at a place and, on request, below it, with their paths. -/
def reached (tree : Tree) (isRecursive : Bool) (path : Octets) (place : Location) :
    List (Octets × Location) :=
  let inner :=
    if isRecursive then
      (tree.entries.map (·.1)).filter fun other => place.isSuffixOf other && other ≠ place
    else []
  let trimmed := if Path.endsInSlash path then path.dropEnd 1 |>.toString else path
  (path, place) :: inner.map fun other =>
    (trimmed ++ String.join ((other.take (other.length - place.length)).reverse.map fun name =>
      "/" ++ Octets.ofText name), other)

/-- Changes the permissions of what stands at a location, and says what became of them. -/
def changePermissions (arguments : Arguments) (change : Nat → Nat) (path : Octets)
    (place : Location) : Job Unit := do
  let before := permissionsAt (← get).tree place
  let after := change before
  if (← get).tree.at? place ≠ some .directory then
    Job.modifyTree (·.withRunnable place (after &&& 0o111 ≠ 0))
  let shown (bits : Nat) : Octets := paddedOctal 4 bits ++ " (" ++ listedPermissions bits ++ ")"
  let about := "mode of " ++ shellQuotedAlways path ++ " "
  if before ≠ after then
    if arguments.has 'v' ∨ arguments.has 'c' then
      Job.printLine (about ++ "changed from " ++ shown before ++ " to " ++ shown after)
  else if arguments.has 'v' then Job.printLine (about ++ "retained as " ++ shown before)

/-- Changes whether files may be run. -/
def chmod : Tool := fun name words => do
  let (given?, words) := partPermissions words
  let known : List ToolOption :=
    [⟨'R', "recursive", false⟩, ⟨'c', "changes", false⟩, ⟨'f', "silent", false⟩,
      ⟨'f', "quiet", false⟩, ⟨'v', "verbose", false⟩]
  let run (name : Octets) (arguments : Arguments) : Job ExitStatus := do
    let (text?, paths) :=
      match given?, arguments.operands with
      | some text, paths => (some text, paths)
      | none, text :: paths => (some text, paths)
      | none, [] => (none, [])
    match text?, paths with
    | none, _ => misused 1 name "missing operand"
    | some text, [] =>
      misused 1 name ("missing operand" ++
        if given?.isSome then "" else " after " ++ shownWord text)
    | some text, paths =>
      match permissions? (← read).mask text.toList with
      | none => misused 1 name ("invalid mode: " ++ shownWord text)
      | some change =>
        forOperands paths fun path => do
          match (← get).locate (← read) path with
          | .error error =>
            unless arguments.has 'f' do
              Job.complain (name ++ ": cannot access " ++ shellQuotedAlways path ++ ": " ++
                error.words)
            return false
          | .ok place =>
            (reached (← get).tree (arguments.has 'R') path place).forM fun (path, place) =>
              changePermissions arguments change path place
            return true
  withOptions known run name words

end Toolbox

end SnapshotSuite
