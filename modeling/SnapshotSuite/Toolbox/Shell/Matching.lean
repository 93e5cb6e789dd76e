import SnapshotSuite.Toolbox.Shell.Pattern
import SnapshotSuite.Tree.Access
/-!
# Paths that match a pattern

A pattern of paths is matched name by name. A dot in first place has to be written out. Where
nothing matches, a pattern stands for itself.
-/

namespace SnapshotSuite

namespace Toolbox

namespace Shell

/-- A pattern of names, and the slashes behind it. -/
structure NamePattern where
  /-- The pattern. -/
  chars : List PatternChar
  /-- The slashes. -/
  slashes : List Char
deriving DecidableEq, Repr

/-- A pattern cut behind its slashes; `fuel` bounds its length. -/
def namePatternsWithin : (fuel : Nat) → List PatternChar → List NamePattern
  | 0, _ | _, [] => []
  | fuel + 1, cs =>
    let name := cs.takeWhile (·.char ≠ '/')
    let rest := cs.drop name.length
    let slashes := (rest.takeWhile (·.char = '/')).map (·.char)
    ⟨name, slashes⟩ :: namePatternsWithin fuel (rest.drop slashes.length)

/-- A pattern cut behind its slashes. -/
def namePatterns (cs : List PatternChar) : List NamePattern :=
  namePatternsWithin (cs.length + 1) cs

/-- The names in a directory that a pattern matches. -/
def matchingNames (w : Workspace) (directory : Octets) (cs : List PatternChar) : List Octets :=
  let pattern := Pattern.read cs
  let isDotted := cs.head?.any (·.char = '.')
  let directory := if directory = "" then "." else directory
  match w.entries (Octets.text directory) with
  | .error _ => []
  | .ok names =>
    (["..", "."] ++ names.map Octets.ofText).filter fun name =>
      (isDotted || name.toList.head? ≠ some '.') && isMatch pattern name.toList

/-- The paths behind a beginning that patterns match. -/
def pathsBehind (w : Workspace) (path : Octets) : List NamePattern → List Octets
  | [] => if w.isPresent (Octets.text path) then [path] else []
  | ⟨name, slashes⟩ :: rest =>
    if Pattern.isWild name then
      (matchingNames w path name).flatMap fun name =>
        pathsBehind w (path ++ name ++ String.ofList slashes) rest
    else pathsBehind w (path ++ String.ofList ((name.map (·.char)) ++ slashes)) rest

/-- The paths that a pattern matches, in order. -/
def matchingPaths (w : Workspace) (cs : List PatternChar) : List Octets :=
  let cs := quoteBackslashed cs
  if Pattern.isWild cs then
    (pathsBehind w "" (namePatterns cs)).mergeSort fun a b => !decide (b < a)
  else []

end Shell

end Toolbox

end SnapshotSuite
