import SnapshotSuite.Toolbox.Editor.Script
/-!
# Replacing matches

The matches in a line are counted from the left. An empty match directly behind another match does
not count.
-/

namespace SnapshotSuite

namespace Toolbox

namespace Editor

/-- The changes of case that hold: for all that follows, and for the next letter. -/
structure Shifts where
  /-- For all that follows. -/
  lasting : Option Char
  /-- For the next letter. -/
  once : Option Char
deriving DecidableEq, Repr

/-- A letter with a change of case. -/
def shifted (shift : Option Char) (letter : Regex.Letter) : Regex.Letter :=
  match shift with
  | some 'U' | some 'u' => letter.map Char.toUpper
  | some 'L' | some 'l' => letter.map Char.toLower
  | _ => letter

/-- Letters with the changes of case that hold. -/
def shiftedText (shifts : Shifts) : List Regex.Letter → List Regex.Letter
  | [] => []
  | letter :: letters =>
    shifted shifts.once (shifted shifts.lasting letter) :: letters.map (shifted shifts.lasting)

/-- What takes the place of a match. -/
def replacementOf (search : Regex.Search) (found : Regex.Match) :
    Shifts → List Part → List Regex.Letter
  | _, [] => []
  | shifts, part :: parts =>
    let follow (letters : List Regex.Letter) : List Regex.Letter :=
      let once := if letters = [] then shifts.once else none
      shiftedText shifts letters ++ replacementOf search found { shifts with once } parts
    match part with
    | .text cs => follow (Regex.lettersOf cs)
    | .group 0 => follow (search.slice found.start found.progress.position)
    | .group number =>
      match found.progress.groups.lookup number with
      | some (start, stop) => follow (search.slice start stop)
      | none => follow []
    | .shift 'E' => replacementOf search found ⟨none, none⟩ parts
    | .shift letter =>
      if letter.isUpper then replacementOf search found { shifts with lasting := some letter } parts
      else replacementOf search found { shifts with once := some letter } parts

/-- The text from a position on with matches replaced, and whether there were any. The number of
matches up to the first that is replaced is known, and where the last match ended; `fuel` bounds the
matches. -/
def replaceFrom (regex : Regex) (search : Regex.Search) (substitution : Substitution) :
    (fuel position count : Nat) → (last : Option Nat) → List Regex.Letter × Bool
  | 0, position, _, _ => (search.slice position search.text.size, false)
  | fuel + 1, position, count, last =>
    match regex.find? search position with
    | none => (search.slice position search.text.size, false)
    | some found =>
      let stop := found.progress.position
      let before := search.slice position found.start
      let isEmpty := found.start = stop
      -- behind an empty match the search goes on one letter further
      let next := if isEmpty then stop + 1 else stop
      let passed := search.slice stop next
      if isEmpty ∧ last = some stop then
        let (rest, isReplaced) := replaceFrom regex search substitution fuel next count last
        (before ++ passed ++ rest, isReplaced)
      else if 1 < count then
        let (rest, isReplaced) :=
          replaceFrom regex search substitution fuel next (count - 1) (some stop)
        (before ++ search.slice found.start stop ++ passed ++ rest, isReplaced)
      else
        let replacement := replacementOf search found ⟨none, none⟩ substitution.parts
        if substitution.isGlobal then
          let (rest, _) := replaceFrom regex search substitution fuel next count (some stop)
          (before ++ replacement ++ passed ++ rest, true)
        else (before ++ replacement ++ search.slice stop search.text.size, true)

/-- A search of a text for a pattern. -/
def Pattern.search (pattern : Pattern) (text : List Char) : Regex.Search :=
  ⟨(Regex.lettersOf text).toArray, pattern.ignoresCase, pattern.hasLines⟩

/-- A text with the matches of an expression replaced; `none` if there are none. -/
def Substitution.apply? (substitution : Substitution) (regex : Regex) (text : List Char) :
    Option (List Char) :=
  let search := substitution.pattern.search text
  let (letters, isReplaced) :=
    replaceFrom regex search substitution (2 * search.text.size + 2) 0 substitution.first none
  if isReplaced then some letters.flatten else none

end Editor

end Toolbox

end SnapshotSuite
