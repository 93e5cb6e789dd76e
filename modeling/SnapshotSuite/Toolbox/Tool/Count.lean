import SnapshotSuite.Toolbox.Options
/-!
# Counting

Counts the lines, words, characters and bytes of files.
-/

namespace SnapshotSuite

namespace Toolbox

namespace Count

/-- What is counted, in the order in which it is shown. -/
structure Counts where
  /-- The ends of lines. -/
  lines : Nat
  /-- The words between blanks. -/
  words : Nat
  /-- The characters. -/
  chars : Nat
  /-- The bytes. -/
  bytes : Nat
  /-- The length of the longest line. -/
  longest : Nat
deriving DecidableEq, Repr

/-- The number of words; inside one if `isInside` says so. -/
def wordCount : (isInside : Bool) → List Char → Nat
  | isInside, [] => if isInside then 1 else 0
  | isInside, c :: cs =>
    if isSpaceOctet c then (if isInside then 1 else 0) + wordCount false cs
    else wordCount true cs

/-- Counts octets. -/
def count (cs : List Char) : Counts where
  lines := cs.count '\n'
  words := wordCount false cs
  chars := (Glyph.all cs).length
  bytes := cs.length
  longest := ((cs.splitOnP (· = '\n')).map fun line => (Glyph.all line).length).foldl max 0

/-- Two counts together. -/
def Counts.add (a b : Counts) : Counts :=
  ⟨a.lines + b.lines, a.words + b.words, a.chars + b.chars, a.bytes + b.bytes,
    max a.longest b.longest⟩

/-- The options. -/
def options : List ToolOption :=
  [⟨'c', "bytes", false⟩, ⟨'m', "chars", false⟩, ⟨'l', "lines", false⟩, ⟨'w', "words", false⟩,
    ⟨'L', "max-line-length", false⟩]

/-- The counts that options ask for. -/
def chosen (arguments : Arguments) (counts : Counts) : List Nat :=
  if arguments.options = [] then [counts.lines, counts.words, counts.bytes]
  else
    let part (letter : Char) (n : Nat) : List Nat := if arguments.has letter then [n] else []
    part 'l' counts.lines ++ part 'w' counts.words ++ part 'm' counts.chars ++
      part 'c' counts.bytes ++ part 'L' counts.longest

/-- A line of counts, each of a least width, with the name that they belong to. -/
def line (width : Nat) (counts : List Nat) (name? : Option Octets) : Octets :=
  let shown (n : Nat) : Octets :=
    let digits := toString n
    String.ofList (List.replicate (width - digits.length) ' ') ++ digits
  " ".intercalate (counts.map shown) ++ ((name?.map (" " ++ ·)).getD "")

/-- The size of a regular file, `none` for all else. -/
def sizeOf? (file : Octets) : Job (Option (Option Nat)) := do
  if file = "-" then
    match ← Job.openFile? 0 with
    | some ⟨.file place _, _, _, _⟩ => return some (some ((← get).contentAt place).length)
    | some _ => return some none
    | none => return none
  else
    let w ← Job.workspace
    match w.node? (Octets.text file) with
    | some (.file content) =>
      return some (if w.place (Octets.text file) = ["null", "dev"] then none
        else some content.length)
    | some .directory => return some none
    | none => return none

/-- The width of counts: one column is not aligned; what is no regular file needs room. -/
def width (columns : Nat) (files : List Octets) : Job Nat := do
  if columns = 1 ∧ files.length = 1 then return 1
  else
    let sizes ← files.mapM sizeOf?
    if (sizes.head?).join.isNone then return 1
    else
      let total := (sizes.filterMap (·.join)).foldl (· + ·) 0
      let least := if sizes.any (· = some none) then 7 else 1
      return max (toString total).length least

/-- Counts one file and shows the counts. -/
def countFile (name : Octets) (arguments : Arguments) (width : Nat)
    (state : Counts × Bool) (file : Option Octets) : Job (Counts × Bool) := do
  let (total, isSuccess) := state
  match ← Job.load (file.getD "-") with
  | .ok bs =>
    let counts := count (Octets.charsOf bs)
    Job.printLine (line width (chosen arguments counts) file)
    return (total.add counts, isSuccess)
  | .error error =>
    complainAbout name (file.getD "standard input") error
    if error = .access .isDirectory then
      Job.printLine (line width (chosen arguments ⟨0, 0, 0, 0, 0⟩) file)
    return (total, false)

end Count

/-- Counts the lines, words and bytes of files. -/
def wc : Tool := withOptions Count.options fun name arguments => do
  let files := if arguments.operands = [] then [none] else arguments.operands.map some
  let columns := (Count.chosen arguments ⟨0, 0, 0, 0, 0⟩).length
  let width ← Count.width columns (files.map (·.getD "-"))
  let (total, isSuccess) ←
    files.foldlM (Count.countFile name arguments width) (⟨0, 0, 0, 0, 0⟩, true)
  if 1 < files.length then
    Job.printLine (Count.line width (Count.chosen arguments total) (some "total"))
  return endingWith isSuccess

end Toolbox

end SnapshotSuite
