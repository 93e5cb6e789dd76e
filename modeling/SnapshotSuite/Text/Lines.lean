/-!
# Lines of a text

A text is cut at its line feeds and nowhere else, so a carriage return stays at the end of its
line and a final line feed has an empty line behind it.
-/

namespace SnapshotSuite

/-- The pieces of a text between its line feeds; there is one more than there are line feeds. -/
def lines : List Char → List (List Char)
  | [] => [[]]
  | c :: cs =>
    if c = '\n' then [] :: lines cs
    else
      match lines cs with
      | [] => [[c]]
      | l :: ls => (c :: l) :: ls

end SnapshotSuite
