/-!
# Values of a TOML file

Texts and whole numbers are kept by their value; dates and real numbers, which no setting takes,
by how they are written.
-/

namespace SnapshotSuite

namespace Toml

/-- A value of a TOML file. -/
inductive Value where
  /-- A text. -/
  | string (value : String)
  /-- A whole number of 64 bits. -/
  | integer (value : Int)
  /-- A real number, as it is written. -/
  | real (literal : String)
  /-- A truth value. -/
  | bool (value : Bool)
  /-- A date, a time or both, as it is written. -/
  | dateTime (literal : String)
  /-- A list of values. -/
  | array (items : List Value)
  /-- A table: keys with their values. -/
  | table (fields : List (String × Value))
deriving Inhabited, Repr

/-- A table: keys with their values. No key stands twice. -/
abbrev Table := List (String × Value)

end Toml

end SnapshotSuite
