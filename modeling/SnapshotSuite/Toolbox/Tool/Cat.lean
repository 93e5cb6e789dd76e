import SnapshotSuite.Toolbox.Options
/-!
# Printing files

Prints files one behind another, on request with numbers before the lines and with marks for what
does not show. The lines are numbered through all files.
-/

namespace SnapshotSuite

namespace Toolbox

namespace Cat

/-- The options. -/
def options : List ToolOption :=
  [⟨'b', "number-nonblank", false⟩, ⟨'n', "number", false⟩, ⟨'s', "squeeze-blank", false⟩,
    ⟨'v', "show-nonprinting", false⟩, ⟨'E', "show-ends", false⟩, ⟨'T', "show-tabs", false⟩,
    ⟨'A', "show-all", false⟩, ⟨'e', "", false⟩, ⟨'t', "", false⟩, ⟨'u', "", false⟩]

/-- How lines are shown. -/
structure Layout where
  /-- Whether lines have numbers. -/
  numbers : Bool
  /-- Whether blank lines have none. -/
  skipsBlank : Bool
  /-- Whether blank lines that follow one another are shown as one. -/
  squeezes : Bool
  /-- Whether the ends of lines are marked. -/
  marksEnds : Bool
  /-- Whether tabs are marked. -/
  marksTabs : Bool
  /-- Whether other characters that do not show are marked. -/
  marksOthers : Bool
deriving DecidableEq, Repr

/-- The layout that the options ask for. -/
def layout (arguments : Arguments) : Layout :=
  let has (letters : String) : Bool := letters.toList.any arguments.has
  ⟨has "bn", has "b", has "s", has "AeE", has "AtT", has "Aetv"⟩

/-- Where in the text a reading stands. -/
structure Position where
  /-- How many blank lines have just been read, one at most; `none` inside a line. -/
  blanks : Option Nat
  /-- The number of the last numbered line. -/
  number : Nat
deriving DecidableEq, Repr

/-- The start of all text. -/
def Position.start : Position := ⟨some 0, 0⟩

/-- The number before a line. -/
def label (number : Nat) : Bytes :=
  let digits := Nat.toDigits 10 number
  Octets.bytesOfChars (List.replicate (6 - digits.length) ' ' ++ digits ++ ['\t'])

/-- A byte below 128, marked if it is a control character. -/
def markedAscii (b : UInt8) : Bytes :=
  if b = 127 then [94, 63] else if b < 32 then [94, b + 64] else [b]

/-- A byte inside a line; `isBeforeEnd` says whether a line end follows it. -/
def shown (layout : Layout) (isBeforeEnd : Bool) (b : UInt8) : Bytes :=
  if b = 9 then if layout.marksTabs then [94, 73] else [9]
  else if layout.marksOthers then
    if b < 128 then markedAscii b else [77, 45] ++ markedAscii (b - 128)
  else if b = 13 ∧ isBeforeEnd ∧ layout.marksEnds then [94, 77]
  else [b]

/-- One byte as it is shown, and where the reading stands behind it. -/
def step (layout : Layout) (position : Position) (b : UInt8) (isBeforeEnd : Bool) :
    Bytes × Position :=
  if b = 10 then
    let ending : Bytes := if layout.marksEnds then [36, 10] else [10]
    match position.blanks with
    | none => (ending, { position with blanks := some 0 })
    | some n =>
      if 1 ≤ n ∧ layout.squeezes then ([], { position with blanks := some 1 })
      else if layout.numbers ∧ !layout.skipsBlank then
        (label (position.number + 1) ++ ending, ⟨some 1, position.number + 1⟩)
      else (ending, { position with blanks := some 1 })
  else
    let text := shown layout isBeforeEnd b
    if position.blanks.isSome ∧ layout.numbers then
      (label (position.number + 1) ++ text, ⟨none, position.number + 1⟩)
    else (text, { position with blanks := none })

/-- Bytes as they are shown, and where the reading stands behind them. -/
def format (layout : Layout) : Position → Bytes → Bytes × Position
  | position, [] => ([], position)
  | position, b :: bs =>
    let (text, position) := step layout position b (bs.head? = some 10)
    let (texts, position) := format layout position bs
    (text ++ texts, position)

/-- Whether an open file is the one that is written, and the writing is ahead of the reading. -/
def feedsItself (world : World) (input : OpenFile) (output : Option OpenFile) : Bool :=
  match input.stream, output with
  | .file place offset, some ⟨.file target written, _, _, appends⟩ =>
    place = target && offset < (if appends then (world.contentAt target).length else written)
  | _, _ => false

/-- Prints one file. -/
def printFile (name : Octets) (layout : Layout) (state : Position × Bool) (file : Octets) :
    Job (Position × Bool) := do
  let (position, isSuccess) := state
  let content ← Job.withInput file fun index => do
    match (← get).files[index]? with
    | some input =>
      if feedsItself (← get) input (← Job.openFile? 1) then return .ok none
      else
        match ← Job.attempt (·.consume index List.length) with
        | .ok bs => return .ok (some bs)
        | .error error => return .error error
    | none => return .error .badDescriptor
  match content with
  | .ok (some bs) =>
    let (text, position) := format layout position bs
    Job.printBytes text
    return (position, isSuccess)
  | .ok none =>
    Job.complain (name ++ ": " ++ shownFile file ++ ": input file is output file")
    return (position, false)
  | .error error =>
    complainAbout name file error
    return (position, false)

end Cat

/-- Prints files one behind another; a file that cannot be read is passed over with a complaint. -/
def cat : Tool := withOptions Cat.options fun name arguments => do
  match ← Job.openFile? 1 with
  | none => complaining 1 (name ++ ": standard output: Bad file descriptor")
  | some _ =>
    let files := if arguments.operands = [] then ["-"] else arguments.operands
    let (_, isSuccess) ←
      files.foldlM (Cat.printFile name (Cat.layout arguments)) (Cat.Position.start, true)
    if files.contains "-" ∧ (← Job.openFile? 0).isNone then
      complaining 1 (name ++ ": closing standard input: Bad file descriptor")
    else return endingWith isSuccess

end Toolbox

end SnapshotSuite
