/-!
# Values with their parts named

The wording in which a command ends its report of an error: the name of each case, and its parts,
labelled or bare.
-/

namespace SnapshotSuite

/-- A case with one bare part. -/
def wrapped (name part : String) : String :=
  name ++ "(" ++ part ++ ")"

/-- A case with labelled parts. -/
def labelled (name : String) (parts : List (String × String)) : String :=
  name ++ " \x7b " ++ ", ".intercalate (parts.map fun part => part.1 ++ ": " ++ part.2) ++ " \x7d"

end SnapshotSuite
