import SnapshotSuite.Toolbox.Shell.Builtin.Basic
/-!
# Reading a line

A line is read off standard input and split into fields, one for each variable. The last variable
gets all that is left.
-/

namespace SnapshotSuite

namespace Toolbox

namespace Shell

open ShellM

namespace Builtin

/-- A line of input: its characters, of which those behind a backslash count as quoted, and whether
it was ended. -/
structure InputLine where
  /-- The characters. -/
  chars : List PatternChar
  /-- Whether an end of line stood behind it. -/
  isEnded : Bool

/-- How many bytes a line takes, where a backslash lets it go on in the next one unless it is
read as it stands. -/
def lineLength (isRaw : Bool) : Bytes → Nat
  | [] => 0
  | b :: bs =>
    if b = 10 then 1
    else if b = 92 ∧ !isRaw then
      match bs with
      | _ :: bs => lineLength isRaw bs + 2
      | [] => 1
    else lineLength isRaw bs + 1

/-- The line that bytes write. -/
def inputLine (isRaw : Bool) : List Char → InputLine
  | [] => ⟨[], false⟩
  | '\n' :: _ => ⟨[], true⟩
  | '\x00' :: cs => inputLine isRaw cs
  | '\\' :: cs =>
    if isRaw then
      let line := inputLine isRaw cs
      { line with chars := ⟨'\\', false⟩ :: line.chars }
    else
      match cs with
      | [] => ⟨[], false⟩
      | '\n' :: cs => inputLine isRaw cs
      | c :: cs =>
        let line := inputLine isRaw cs
        { line with chars := ⟨c, true⟩ :: line.chars }
  | c :: cs =>
    let line := inputLine isRaw cs
    { line with chars := ⟨c, false⟩ :: line.chars }

/-! ### Fields of a line -/

/-- How far the splitting of a line into so many fields has come. -/
structure LineSplitter where
  /-- The fields that are complete, the last one first. -/
  fields : List (List PatternChar)
  /-- What has been read of a field, the last character first. -/
  field : List PatternChar
  /-- How many fields may still be complete, but for the last one, which has all that is left. -/
  count : Nat
  /-- Whether a separating blank has just been read. -/
  isBehindBlank : Bool
  /-- How long the last field would be without what may have to be left out at its end. -/
  length : Option Nat

namespace LineSplitter

/-- Goes on by a separator in the last field. -/
def stepLast (splitter : LineSplitter) (c : PatternChar) (isSeparator isBlank : Bool) :
    LineSplitter :=
  let field := c :: splitter.field
  if isBlank then
    { splitter with field, length := splitter.length <|> some splitter.field.length }
  else
    let length := if isSeparator && splitter.isBehindBlank then splitter.length else none
    { splitter with field, length, isBehindBlank := false }

/-- Goes on by one character. A separator ends a field together with the blanks that separate
around it; quoted characters never do. -/
def step (separators : List Char) (splitter : LineSplitter) (c : PatternChar) : LineSplitter :=
  let isSeparator := separators.contains c.char
  let isBlank := isSeparator && (c.char = ' ' || c.char = '\t' || c.char = '\n')
  let added := { splitter with field := c :: splitter.field, isBehindBlank := false }
  if c.isQuoted then added
  else if splitter.count = 0 then splitter.stepLast c isSeparator isBlank
  else if splitter.isBehindBlank ∧ isSeparator then { splitter with isBehindBlank := isBlank }
  else if !isSeparator then added
  else if isBlank ∧ splitter.field = [] then splitter
  else if splitter.count = 1 then
    { splitter with
      field := c :: splitter.field
      count := 0
      isBehindBlank := isBlank
      length := some splitter.field.length }
  else
    { splitter with
      fields := splitter.field.reverse :: splitter.fields
      field := []
      count := splitter.count - 1
      isBehindBlank := isBlank }

end LineSplitter

/-- At most so many fields of a line, of which the last one has all that is left. -/
def inputFields (separators : List Char) (count : Nat) (cs : List PatternChar) :
    List (List PatternChar) :=
  let splitter := cs.foldl (LineSplitter.step separators) ⟨[], [], count, false, none⟩
  let field := splitter.field.reverse
  splitter.fields.reverse ++ [field.take (splitter.length.getD field.length)]

/-- Reads a line into variables. -/
def readLine : Behavior := fun _ _ _ words => do
  let arguments ← readOptions [('p', true), ('r', false)] words
  let names := arguments.operands
  if names = [] then fail "arg count"
  let isRaw := arguments.has 'r'
  let bs :=
    match ← perform (Job.readShare 0 (lineLength isRaw)) with
    | .ok bs => bs
    | .error _ => []
  let line := inputLine isRaw (Octets.charsOf bs)
  let separators := (← state).separators
  let fields := inputFields separators names.length line.chars
  names.zipIdx.forM fun (name, index) => setVariable name (textOf (fields.getD index []))
  return if line.isEnded then 0 else 1

end Builtin

end Shell

end Toolbox

end SnapshotSuite
