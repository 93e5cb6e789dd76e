import SnapshotSuite.Toolbox.Quoting
/-!
# Regular expressions

An expression says which parts of a text match. Of all matches the one that starts first counts, of
those the longest. Texts are read letter by letter; a letter is what one character or one byte
that belongs to none is written with.
-/

namespace SnapshotSuite

namespace Toolbox

namespace Regex

/-- A letter of a text: the octets that write it. -/
abbrev Letter := List Char

/-- The letters of a text. -/
def lettersOf (cs : List Char) : List Letter :=
  (Glyph.all cs).map Glyph.octets

/-- Whether a letter is a character, and not a byte that belongs to none. -/
def isCharacter : Letter → Bool
  | [c] => c.toNat < 128
  | _ => true

/-- Whether a letter can stand in a word. -/
def isWordLetter : Letter → Bool
  | [c] => isNameChar c
  | letter => isCharacter letter

/-- The letters that count as one if case does not matter. -/
def caseVariants : Letter → List Letter
  | [c] => [[c], [c.toLower], [c.toUpper]]
  | letter => [letter]

/-- What a bracket expression lists. -/
inductive Member where
  /-- The letters from one to another. -/
  | range (first last : Letter)
  /-- The letters of a class. -/
  | ofClass (isIn : Letter → Bool)

/-- Whether a letter does not stand behind another one. -/
def isAtMost : Letter → Letter → Bool
  | [], _ => true
  | _ :: _, [] => false
  | a :: as, b :: bs => a.toNat < b.toNat || (a = b && isAtMost as bs)

/-- Whether a letter is listed. -/
def Member.contains (letter : Letter) : Member → Bool
  | .range first last => isAtMost first letter && isAtMost letter last
  | .ofClass isIn => isIn letter

/-- A place between letters. -/
inductive Edge where
  /-- The start of the text. -/
  | start
  /-- The end of the text. -/
  | stop
  /-- The start of the text or of a line in it, as far as lines count. -/
  | lineStart
  /-- The end of the text or of a line in it, as far as lines count. -/
  | lineStop
  /-- The start of a word. -/
  | wordStart
  /-- The end of a word. -/
  | wordStop
  /-- The start or the end of a word. -/
  | word
  /-- Neither the start nor the end of a word. -/
  | noWord
deriving DecidableEq, Repr

end Regex

open Regex in
/-- A regular expression. -/
inductive Regex where
  /-- Matches the empty text. -/
  | empty
  /-- Matches one letter. -/
  | one (letter : Letter)
  /-- Matches any character. -/
  | any
  /-- Matches what is listed, or what is not. -/
  | set (isComplement : Bool) (members : List Member)
  /-- Matches the empty text in some places. -/
  | place (edge : Edge)
  /-- Matches what its part matches, and remembers it under a number. -/
  | group (number : Nat) (part : Regex)
  /-- Matches what is remembered under a number. -/
  | again (number : Nat)
  /-- Matches two parts one behind the other. -/
  | seq (first second : Regex)
  /-- Matches what one of two parts matches. -/
  | either (first second : Regex)
  /-- Matches a part several times. -/
  | repeated (part : Regex) (least : Nat) (most : Option Nat)

namespace Regex

/-- How a text is searched. -/
structure Search where
  /-- The text. -/
  text : Array Letter
  /-- Whether case does not matter. -/
  ignoresCase : Bool
  /-- Whether the lines in the text count. -/
  hasLines : Bool

/-- How far a match has come. -/
structure Progress where
  /-- How many letters of the text stand before. -/
  position : Nat
  /-- What groups have matched, as positions; the last match of a group comes first. -/
  groups : List (Nat × Nat × Nat)
deriving DecidableEq, Repr

namespace Search

/-- The text between two positions. -/
def slice (search : Search) (start stop : Nat) : List Letter :=
  (search.text.toList.drop start).take (stop - start)

/-- Whether two letters are the same, as far as case matters. -/
def same (search : Search) (a b : Letter) : Bool :=
  a = b || (search.ignoresCase && (caseVariants a).contains b)

/-- Whether a letter is one that a test accepts, as far as case matters. -/
def accepts (search : Search) (test : Letter → Bool) (letter : Letter) : Bool :=
  test letter || (search.ignoresCase && (caseVariants letter).any test)

/-- Whether a position is a place of some kind. -/
def isAt (search : Search) (position : Nat) (edge : Edge) : Bool :=
  let before := if position = 0 then none else search.text[position - 1]?
  let after := search.text[position]?
  let isWord (letter : Option Letter) : Bool := letter.any isWordLetter
  match edge with
  | .start => position = 0
  | .stop => position = search.text.size
  | .lineStart => position = 0 || (search.hasLines && before = some ['\n'])
  | .lineStop => position = search.text.size || (search.hasLines && after = some ['\n'])
  | .wordStart => !isWord before && isWord after
  | .wordStop => isWord before && !isWord after
  | .word => isWord before != isWord after
  | .noWord => isWord before == isWord after

/-- The progress behind one letter, if the letter passes a test. -/
def step (search : Search) (test : Letter → Bool) (progress : Progress) : List Progress :=
  match search.text[progress.position]? with
  | some letter =>
    if test letter then [{ progress with position := progress.position + 1 }] else []
  | none => []

end Search

/-- Ways to go on, those that have come farthest first. -/
def farthestFirst (ways : List Progress) : List Progress :=
  (ways.mergeSort fun a b => decide (b.position ≤ a.position)).eraseDups

/-- The ways to go on after a part has matched several times; `fuel` bounds how often. The part has to
come forward, except where it is asked for. -/
def iterate (part : Progress → List Progress) :
    (fuel least : Nat) → (most : Option Nat) → List Progress → List Progress
  | 0, _, _, ways => ways
  | fuel + 1, least, most, ways =>
    if ways = [] ∨ most = some 0 then ways
    else
      let next := ways.flatMap fun way =>
        (part way).filter fun after => way.position < after.position || 0 < least
      let later := iterate part fuel (least - 1) (most.map (· - 1)) next.eraseDups
      if least = 0 then later ++ ways else later

/-- The ways in which an expression matches from a position on. -/
def ways (search : Search) : Regex → Progress → List Progress
  | .empty, progress => [progress]
  | .one letter, progress => search.step (search.same letter) progress
  | .any, progress => search.step isCharacter progress
  | .set isComplement members, progress =>
    let isListed (letter : Letter) : Bool := members.any (·.contains letter)
    search.step (fun letter =>
      isCharacter letter && (search.accepts isListed letter != isComplement)) progress
  | .place edge, progress => if search.isAt progress.position edge then [progress] else []
  | .group number part, progress =>
    (ways search part progress).map fun after =>
      { after with groups := (number, progress.position, after.position) :: after.groups }
  | .again number, progress =>
    match progress.groups.lookup number with
    | none => []
    | some (start, stop) =>
      let expected := search.slice start stop
      let found := search.slice progress.position (progress.position + expected.length)
      if found.length = expected.length ∧ (expected.zip found).all fun (a, b) => search.same a b then
        [{ progress with position := progress.position + expected.length }]
      else []
  | .seq first second, progress =>
    ((ways search first progress).flatMap (ways search second)).eraseDups
  | .either first second, progress =>
    farthestFirst (ways search first progress ++ ways search second progress)
  | .repeated part least most, progress =>
    farthestFirst (iterate (ways search part) (least + search.text.size + 1) least most [progress])

/-- A match: where it starts and how far it has come. -/
structure Match where
  /-- Where it starts. -/
  start : Nat
  /-- Where it ends, and what its groups have matched. -/
  progress : Progress
deriving DecidableEq, Repr

/-- The longest match that starts at a position. -/
def matchAt? (regex : Regex) (search : Search) (start : Nat) : Option Match :=
  ((farthestFirst (regex.ways search ⟨start, []⟩)).head?).map (⟨start, ·⟩)

/-- The first match from a position on. -/
def find? (regex : Regex) (search : Search) (start : Nat) : Option Match :=
  (List.range (search.text.size + 1 - start)).findSome? fun n => regex.matchAt? search (start + n)

end Regex

end Toolbox

end SnapshotSuite
