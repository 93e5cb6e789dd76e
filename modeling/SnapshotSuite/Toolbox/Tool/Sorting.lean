import SnapshotSuite.Toolbox.Lines
import SnapshotSuite.Toolbox.Options
/-!
# Ordering lines

Prints the lines of files in order, by the bytes of the whole line or by keys: parts of the line
that are compared in turn, as numbers if that is asked for. Lines that are equal can be counted or
left out.
-/

namespace SnapshotSuite

namespace Toolbox

namespace Sorting

/-- How keys are compared. -/
structure Comparison where
  /-- Whether as numbers. -/
  isNumeric : Bool
  /-- Whether without regard to case. -/
  ignoresCase : Bool
  /-- Whether blanks in front are passed over. -/
  skipsBlanks : Bool
  /-- Whether the order is turned round. -/
  isReversed : Bool
deriving DecidableEq, Repr

namespace Comparison

/-- The comparison that letters ask for. -/
def ofLetters (letters : List Char) : Comparison :=
  ⟨letters.contains 'n', letters.contains 'f', letters.contains 'b', letters.contains 'r'⟩

/-- Whether nothing is asked for. -/
def isDefault (comparison : Comparison) : Bool :=
  comparison = ⟨false, false, false, false⟩

end Comparison

/-- A number in front of a text, as a fraction of a power of ten. -/
def numberOf (cs : List Char) : Int × Nat :=
  let cs := cs.dropWhile fun c => c = ' ' || c = '\t'
  let (isNegative, cs) :=
    match cs with
    | '-' :: cs => (true, cs)
    | cs => (false, cs)
  let whole := cs.takeWhile Char.isDigit
  let part :=
    match cs.drop whole.length with
    | '.' :: cs => cs.takeWhile Char.isDigit
    | _ => []
  let value : Int := digitsValue (whole ++ part)
  (if isNegative then -value else value, Nat.pow 10 part.length)

/-- The order of two texts. -/
def compareTexts (comparison : Comparison) (a b : List Char) : Ordering :=
  let order :=
    if comparison.isNumeric then
      let (a, scaleA) := numberOf a
      let (b, scaleB) := numberOf b
      compare (a * scaleB) (b * scaleA)
    else
      let fold (cs : List Char) : List Char :=
        if comparison.ignoresCase then cs.map Char.toUpper else cs
      compareOfLessAndEq (fold a) (fold b)
  if comparison.isReversed then order.swap else order

/-! ### Keys -/

/-- A key: where it starts and where it ends. Fields and characters count from one. -/
structure Key where
  /-- The field in which it starts. -/
  field : Nat
  /-- The character of the field with which it starts. -/
  char : Nat
  /-- The field in which it ends, and the last character of it; none stands for all of them. -/
  last : Option (Nat × Option Nat)
  /-- How it is compared. -/
  comparison : Comparison
deriving DecidableEq, Repr

/-- The fields of a line with what parts them: a character, or else the blanks in front of each. -/
def fieldsOf (separator : Option Char) (line : List Char) : List (List Char) :=
  match separator with
  | some c => line.splitOnP (· = c)
  | none => go false line
where
  /-- The fields of what is left; `isInside` says whether the field has begun with its text. -/
  go : (isInside : Bool) → List Char → List (List Char)
    | _, [] => [[]]
    | isInside, c :: cs =>
      let isBlank := c = ' ' || c = '\t'
      match go (!isBlank) cs with
      | field :: fields =>
        if isBlank ∧ isInside then [] :: (c :: field) :: fields else (c :: field) :: fields
      | [] => [[c]]

/-- The offset of a field in its line. -/
def offsetOf (separator : Option Char) (fields : List (List Char)) (n : Nat) : Nat :=
  let before := fields.take n
  before.flatten.length + if separator.isSome then before.length else 0

/-- How many blanks stand in front. -/
def blanksOf (cs : List Char) : Nat :=
  (cs.takeWhile fun c => c = ' ' || c = '\t').length

/-- The part of a line that a key stands for. -/
def Key.extract (key : Key) (separator : Option Char) (line : List Char) : List Char :=
  let fields := fieldsOf separator line
  let startOf (n : Nat) (skips : Bool) : Nat :=
    let offset := offsetOf separator fields n
    min line.length (offset + if skips then blanksOf (line.drop offset) else 0)
  let start := min line.length (startOf (key.field - 1) key.comparison.skipsBlanks + key.char - 1)
  let stop :=
    match key.last with
    | none => line.length
    | some (field, none) =>
      startOf (field - 1) false + ((fields[field - 1]?).getD []).length
    | some (field, some char) => startOf (field - 1) key.comparison.skipsBlanks + char
  (line.take stop).drop start

/-- A position in the description of a key: a field, perhaps a character, and letters. -/
def position? (cs : List Char) : Option (Nat × Option Nat × List Char × List Char) :=
  let field := cs.takeWhile Char.isDigit
  let rest := cs.drop field.length
  let (char, rest) : Option (List Char) × List Char :=
    match rest with
    | '.' :: rest => (some (rest.takeWhile Char.isDigit), rest.dropWhile Char.isDigit)
    | rest => (none, rest)
  let letters := rest.takeWhile Char.isAlpha
  if field = [] ∨ char = some [] then none
  else
    some (digitsValue field, char.map digitsValue, letters, rest.drop letters.length)

/-- The key that a description stands for. -/
def key? (description : Octets) : Except Octets Key :=
  match position? description.toList with
  | none =>
    .error ("invalid number at field start: invalid count at start of " ++ shownWord description)
  | some (0, _, _, _) =>
    .error ("field number is zero: invalid field specification " ++ shownWord description)
  | some (field, char, letters, []) =>
    .ok ⟨field, max 1 (char.getD 1), none, .ofLetters letters⟩
  | some (field, char, letters, ',' :: rest) =>
    match position? rest with
    | some (last, lastChar, more, []) =>
      .ok ⟨field, max 1 (char.getD 1), some (last, lastChar.filter (· ≠ 0)),
        .ofLetters (letters ++ more)⟩
    | _ =>
      .error ("invalid number after \x27,\x27: invalid count at start of " ++
        shownWord (String.ofList rest))
  | some _ => .error ("stray character in field spec: invalid field specification " ++
      shownWord description)

/-! ### Orders -/

/-- What orders lines. -/
structure Plan where
  /-- The separator of fields. -/
  separator : Option Char
  /-- The keys; none stands for the whole line. -/
  keys : List Key
  /-- How lines are compared where keys do not say. -/
  comparison : Comparison
  /-- Whether lines with equal keys are as good as equal. -/
  isFinal : Bool

/-- The order of two lines by keys alone. -/
def Plan.compareKeys (plan : Plan) (a b : List Char) : Ordering :=
  if plan.keys = [] then
    let dropBlanks (cs : List Char) : List Char :=
      if plan.comparison.skipsBlanks then cs.drop (blanksOf cs) else cs
    compareTexts plan.comparison (dropBlanks a) (dropBlanks b)
  else
    plan.keys.foldl (fun order key =>
      let key := if key.comparison.isDefault then { key with comparison := plan.comparison } else key
      order.then (compareTexts key.comparison (key.extract plan.separator a)
        (key.extract plan.separator b))) .eq

/-- The order of two lines. Lines whose keys are equal are in the order of their bytes. -/
def Plan.compare (plan : Plan) (a b : List Char) : Ordering :=
  let order := plan.compareKeys a b
  if plan.isFinal then order
  else
    let bytes := compareOfLessAndEq a b
    order.then (if plan.comparison.isReversed then bytes.swap else bytes)

/-- The first of lines that follow one another with equal keys. -/
def Plan.firsts (plan : Plan) : List (List Char) → List (List Char)
  | [] => []
  | line :: lines =>
    let rec go (last : List Char) : List (List Char) → List (List Char)
      | [] => []
      | next :: rest =>
        if plan.compareKeys last next = .eq then go last rest else next :: go next rest
    line :: go line lines

/-- The first line that is out of order, and its number. -/
def Plan.disorder? (plan : Plan) (isStrict : Bool) : (number : Nat) → List (List Char) →
    Option (Nat × List Char)
  | number, a :: b :: lines =>
    let order := plan.compare a b
    if order = .gt ∨ (isStrict ∧ order = .eq) then some (number + 1, b)
    else plan.disorder? isStrict (number + 1) (b :: lines)
  | _, _ => none

/-- The plan that options ask for. -/
def planOf (arguments : Arguments) : Except Octets Plan := do
  let separator ←
    match arguments.value? 't' with
    | none => pure none
    | some "" => throw "empty tab"
    | some "\\0" => pure (some '\x00')
    | some word =>
      match word.toList with
      | [c] => pure (some c)
      | _ => throw ("multi-character tab " ++ shownWord word)
  let keys ← ((arguments.options.filter (·.letter = 'k')).map (·.value)).mapM key?
  let letters := arguments.options.map (·.letter)
  return ⟨separator, keys, .ofLetters letters, arguments.has 's' || arguments.has 'u'⟩

/-- The options. -/
def options : List ToolOption :=
  [⟨'b', "ignore-leading-blanks", false⟩, ⟨'c', "check", false⟩, ⟨'f', "ignore-case", false⟩,
    ⟨'k', "key", true⟩, ⟨'n', "numeric-sort", false⟩, ⟨'o', "output", true⟩,
    ⟨'r', "reverse", false⟩, ⟨'s', "stable", false⟩, ⟨'t', "field-separator", true⟩,
    ⟨'u', "unique", false⟩]

/-- The contents of files, or the complaint about the first that cannot be read. -/
def contents : List Octets → Job (Except Octets (List (List Char)))
  | [] => return .ok []
  | file :: files => do
    match ← Job.load file with
    | .error error =>
      if error = .access .isDirectory then
        return .error ("read failed: " ++ shownFile file ++ ": " ++ error.words)
      else return .error ("cannot read: " ++ shownFile file ++ ": " ++ error.words)
    | .ok bs => return (← contents files).map (bareLines (Octets.charsOf bs) ++ ·)

end Sorting

open Sorting in
/-- Prints the lines of files in order. -/
def sort : Tool := withArguments 2 false Sorting.options fun name arguments => do
  match planOf arguments with
  | .error complaint => complaining 2 (name ++ ": " ++ complaint)
  | .ok plan =>
    let files := if arguments.operands = [] then ["-"] else arguments.operands
    match ← contents files with
    | .error complaint => complaining 2 (name ++ ": " ++ complaint)
    | .ok lines =>
      if arguments.has 'c' then
        match plan.disorder? (arguments.has 'u') 1 lines with
        | none => return .code 0
        | some (number, line) =>
          complaining 1 (name ++ ": " ++ files.head?.getD "-" ++ ":" ++ toString number ++
            ": disorder: " ++ String.ofList line)
      else
        let sorted := lines.mergeSort fun a b => plan.compare a b ≠ .gt
        let text := joinLines (if arguments.has 'u' then plan.firsts sorted else sorted)
        match arguments.value? 'o' with
        | none => Job.print (String.ofList text)
        | some file =>
          if let .error error := ← Job.store file .writing (Octets.bytesOfChars text) then
            return ← complaining 2 (name ++ ": open failed: " ++ shownFile file ++ ": " ++
              error.words)
        return .code 0

/-! ### Lines that repeat -/

namespace Repetition

/-- Lines that follow one another and are equal, as the first of them and their number. -/
def groups (key : List Char → List Char) : List (List Char) → List (List Char × Nat)
  | [] => []
  | line :: lines =>
    match groups key lines with
    | (next, count) :: rest =>
      if key line = key next then (line, count + 1) :: rest else (line, 1) :: (next, count) :: rest
    | [] => [(line, 1)]

/-- The part of a line that is compared. -/
def keyOf (arguments : Arguments) (line : List Char) : List Char :=
  let number (letter : Char) : Option Nat :=
    (arguments.value? letter).map fun value => digitsValue value.toList
  let rec skipFields : Nat → List Char → List Char
    | 0, cs => cs
    | n + 1, cs =>
      let cs := cs.dropWhile fun c => c = ' ' || c = '\t'
      skipFields n (cs.dropWhile fun c => c ≠ ' ' && c ≠ '\t')
  let cs := (skipFields ((number 'f').getD 0) line).drop ((number 's').getD 0)
  let cs := match number 'w' with
    | some n => cs.take n
    | none => cs
  if arguments.has 'i' then cs.map Char.toLower else cs

/-- The line that shows a group. -/
def shown (arguments : Arguments) (group : List Char × Nat) : List Char :=
  if arguments.has 'c' then
    let digits := Nat.toDigits 10 group.2
    List.replicate (7 - digits.length) ' ' ++ digits ++ [' '] ++ group.1
  else group.1

end Repetition

open Repetition in
/-- Prints lines with the repetitions that follow one another left out. -/
def uniq : Tool := withOptions
    [⟨'c', "count", false⟩, ⟨'d', "repeated", false⟩, ⟨'u', "unique", false⟩,
      ⟨'i', "ignore-case", false⟩, ⟨'f', "skip-fields", true⟩, ⟨'s', "skip-chars", true⟩,
      ⟨'w', "check-chars", true⟩] fun name arguments => do
  match arguments.operands with
  | _ :: _ :: extra :: _ => misused 1 name ("extra operand " ++ shownWord extra)
  | operands =>
    let file := operands.head?.getD "-"
    match ← Job.load file with
    | .error error =>
      if error = .access .isDirectory then
        complaining 1 (name ++ ": error reading " ++ shellQuotedAlways file ++ ": " ++ error.words)
      else complaining 1 (name ++ ": " ++ shownFile file ++ ": " ++ error.words)
    | .ok bs =>
      let isChosen (group : List Char × Nat) : Bool :=
        (!arguments.has 'd' || 1 < group.2) && (!arguments.has 'u' || group.2 = 1)
      let chosen := (groups (keyOf arguments) (bareLines (Octets.charsOf bs))).filter isChosen
      let text := joinLines (chosen.map (shown arguments))
      match operands[1]? with
      | none => Job.print (String.ofList text)
      | some target =>
        if let .error error := ← Job.store target .writing (Octets.bytesOfChars text) then
          return ← complaining 1 (name ++ ": " ++ shownFile target ++ ": " ++ error.words)
      return .code 0

end Toolbox

end SnapshotSuite
