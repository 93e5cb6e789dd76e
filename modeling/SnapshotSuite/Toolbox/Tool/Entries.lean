import SnapshotSuite.Toolbox.Entries
import SnapshotSuite.Toolbox.Options
/-!
# Making and removing files and directories

Tools that change what stands at each of their operands, and complain where they cannot.
-/

namespace SnapshotSuite

namespace Toolbox

/-- The complaint that something cannot be done with a path, which says why. -/
def complainThat (name act path : Octets) (error : SystemError) : Job Unit :=
  Job.complain (name ++ ": " ++ act ++ " " ++ shellQuotedAlways path ++ ": " ++ error.words)

/-- Does something with a path, and complains if that fails. Says whether it succeeded. -/
def complainingThat (name act path : Octets) (job : Job (Except SystemError Unit)) : Job Bool := do
  match ← job with
  | .ok () => return true
  | .error error =>
    complainThat name act path error
    return false

/-! ### Directories -/

/-- The paths of the directories above a path, the outermost first. -/
def ancestors (path : Octets) : List Octets :=
  let cs := path.toList
  let isEnd (n : Nat) : Bool :=
    cs[n]? = some '/' && n ≠ 0 && cs[n - 1]? ≠ some '/'
  ((List.range cs.length).filter isEnd).map fun n => String.ofList (cs.take n)

/-- Makes a directory, unless one stands there. Gives the path that stands in the way, and why. -/
def ensureDirectory (isLast : Bool) (path : Octets) : Job (Except (Octets × SystemError) Unit) := do
  match ← Job.change (World.makeDirectory · path) with
  | .ok () => return .ok ()
  | .error .exists =>
    if (← Job.workspace).isDirectory (Octets.text path) then return .ok ()
    else return .error (path, if isLast then .exists else .access .notDirectory)
  | .error error => return .error (path, error)

/-- Makes directories where none stand, one after the other. -/
def ensureDirectories : List Octets → Job (Except (Octets × SystemError) Unit)
  | [] => return .ok ()
  | path :: paths => do
    match ← ensureDirectory paths.isEmpty path with
    | .ok () => ensureDirectories paths
    | .error fault => return .error fault

/-- Makes directories, on request with those above them. -/
def mkdir : Tool := withOptions
    [⟨'p', "parents", false⟩, ⟨'m', "mode", true⟩] fun name arguments => do
  let complain (fault : Octets × SystemError) : Job Bool := do
    Job.complain (name ++ ": cannot create directory " ++ shownWord fault.1 ++ ": " ++
      fault.2.words)
    return false
  let make (path : Octets) : Job Bool := do
    if arguments.has 'p' then
      match ← ensureDirectories (ancestors path ++ [path]) with
      | .ok () => return true
      | .error fault => complain fault
    else
      match ← Job.change (World.makeDirectory · path) with
      | .ok () => return true
      | .error error => complain (path, error)
  if arguments.operands = [] then misused 1 name "missing operand"
  else forOperands arguments.operands make

/-- Removes empty directories, on request with those above them. -/
def rmdir : Tool := withOptions
    [⟨'p', "parents", false⟩, ⟨'\x00', "ignore-fail-on-non-empty", false⟩] fun name
    arguments => do
  let removeOne (act path : Octets) : Job Bool := do
    match ← Job.change (World.removeDirectory · path) with
    | .ok () => return true
    | .error error =>
      if error = .notEmpty ∧ arguments.has '\x00' then return true
      complainThat name act path error
      return false
  let rec removeAbove : List Octets → Job Bool
    | [] => return true
    | path :: paths => do
      if ← removeOne "failed to remove directory" path then removeAbove paths else return false
  let removeWith (path : Octets) : Job Bool := do
    let isRemoved ← removeOne "failed to remove" path
    if isRemoved ∧ arguments.has 'p' then removeAbove (ancestors path).reverse
    else return isRemoved
  if arguments.operands = [] then misused 1 name "missing operand"
  else forOperands arguments.operands removeWith

/-! ### Files -/

/-- Removes what stands at a path: files, on request empty directories, or directories with all
that is below them. -/
def removeOperand (name : Octets) (arguments : Arguments) (path : Octets) : Job Bool := do
  let isRecursive := arguments.has 'r' || arguments.has 'R'
  let removed : Job (Except SystemError Unit) → Job Bool :=
    complainingThat name "cannot remove" path
  match (← get).locate (← read) path with
  | .error error =>
    if arguments.has 'f' ∧ error.isAbsence then return true
    complainThat name "cannot remove" path error
    return false
  | .ok place =>
    if (← get).tree.at? place ≠ some .directory then
      removed (Job.change (World.removeFile · path))
    else if isRecursive then
      if lastNameOf path = some "." ∨ lastNameOf path = some ".." then
        Job.complain (name ++ ": refusing to remove '.' or '..' directory: skipping " ++
          shellQuotedAlways path)
        return false
      else if place = [] then
        Job.complain (name ++ ": it is dangerous to operate recursively on '/'")
        Job.complain (name ++ ": use --no-preserve-root to override this failsafe")
        return false
      else removed (Job.change (World.removeAll · path))
    else if arguments.has 'd' then removed (Job.change (World.removeDirectory · path))
    else
      complainThat name "cannot remove" path (.access .isDirectory)
      return false

/-- Removes files and directories. -/
def rm : Tool := withOptions
    [⟨'f', "force", false⟩, ⟨'r', "recursive", false⟩, ⟨'R', "recursive", false⟩,
      ⟨'d', "dir", false⟩] fun name arguments => do
  if arguments.operands = [] then
    if arguments.has 'f' then return .code 0 else misused 1 name "missing operand"
  else forOperands arguments.operands (removeOperand name arguments)

/-- Makes empty files where nothing stands. -/
def touch : Tool := withOptions
    [⟨'a', "", false⟩, ⟨'c', "no-create", false⟩, ⟨'m', "", false⟩, ⟨'d', "date", true⟩,
      ⟨'t', "", true⟩] fun name arguments => do
  let touchOne (path : Octets) : Job Bool := do
    match (← get).locate (← read) path with
    | .ok _ => return true
    | .error absence =>
      if arguments.has 'c' ∧ absence = .access .notFound then return true
      match ← Job.store path .appending [] with
      | .ok () => return true
      | .error (.access .isDirectory) =>
        complainThat name "setting times of" path absence
        return false
      | .error error =>
        complainThat name "cannot touch" path error
        return false
  if arguments.operands = [] then misused 1 name "missing file operand"
  else forOperands arguments.operands touchOne

end Toolbox

end SnapshotSuite
