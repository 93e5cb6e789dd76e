import SnapshotSuite.Fixture.Basic
/-!
# Finding fixtures

Every directory right below the root of a suite is a fixture. They are listed by name, in the order
of code points, however the directory is enumerated.
-/

namespace SnapshotSuite

/-- Names in the order of their code points, which is that of their bytes too. -/
def sortNames (names : List String) : List String :=
  names.mergeSort (· ≤ ·)

/-- The fixtures below a root, or `none` if the root is no directory. -/
def discover? (w : Workspace) (root : Path) : Option (List FixtureDir) :=
  if w.isDirectory root then
    match w.entries root with
    | .ok names =>
      let fixtures := names.filter fun name => w.isDirectory (Path.join root name)
      some ((sortNames fixtures).map fun name => ⟨name, Path.join root name⟩)
    | .error _ => none
  else none

/-- The fixture of a name below a root, if a directory stands there. -/
def FixtureDir.named? (w : Workspace) (root : Path) (name : String) : Option FixtureDir :=
  if w.isDirectory (Path.join root name) then some ⟨name, Path.join root name⟩ else none

end SnapshotSuite
