import SnapshotSuite.Toolbox.Octets
/-!
# Lines of octets

Tools that work line by line keep the ends of lines, so that nothing is lost if the last one has
none.
-/

namespace SnapshotSuite

namespace Toolbox

/-- The lines of a text, each with its end. -/
def octetLines : List Char → List (List Char)
  | [] => []
  | c :: cs =>
    if c = '\n' then ['\n'] :: octetLines cs
    else
      match octetLines cs with
      | line :: lines => (c :: line) :: lines
      | [] => [[c]]

/-- A line without its end. -/
def withoutEnd (line : List Char) : List Char :=
  if line.getLast? = some '\n' then line.dropLast else line

/-- The lines of a text without their ends. -/
def bareLines (cs : List Char) : List (List Char) :=
  (octetLines cs).map withoutEnd

/-- Lines with an end behind each. -/
def joinLines (lines : List (List Char)) : List Char :=
  lines.flatMap (· ++ ['\n'])

end Toolbox

end SnapshotSuite
