import SnapshotSuite.Text.Lines
import SnapshotSuite.Text.Quoted
/-!
# The first difference of two texts

`Difference.find?` names the first line at which two texts part, with the line of each, or `none`
if they are equal.
-/

namespace SnapshotSuite

/-- A line at which two texts part. -/
structure Difference where
  /-- The number of the line, counted from one. -/
  line : Nat
  /-- The line of the first text, or `none` if that text has ended. -/
  expected : Option String
  /-- The line of the second text, or `none` if that text has ended. -/
  actual : Option String
deriving DecidableEq, Repr

namespace Difference

/-- The place at which two lists of lines part, where the next line has number `line`. Lists that are
equal would part where both have ended. -/
def among (line : Nat) (expected actual : List (List Char)) : Difference :=
  match expected, actual with
  | e :: es, a :: as =>
    if e = a then among (line + 1) es as
    else ⟨line, some (String.ofList e), some (String.ofList a)⟩
  | es, as => ⟨line, es.head?.map String.ofList, as.head?.map String.ofList⟩

/-- The first line at which two texts part, if they are not equal. -/
def find? (expected actual : String) : Option Difference :=
  if expected = actual then none
  else some (among 1 (lines expected.toList) (lines actual.toList))

/-- A line of an excerpt, or the mark for an ended text. -/
def excerpt : Option String → String
  | some line => quoted line
  | none => "<end of file>"

/-- The difference in three lines. -/
def message (d : Difference) : String :=
  "first difference at line " ++ toString d.line ++ ":\n  expected: " ++ excerpt d.expected
    ++ "\n  actual:   " ++ excerpt d.actual

end Difference

end SnapshotSuite
