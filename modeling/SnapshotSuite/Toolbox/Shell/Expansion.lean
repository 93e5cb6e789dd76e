import SnapshotSuite.Toolbox.Shell.Arithmetic
import SnapshotSuite.Toolbox.Shell.Fields
import SnapshotSuite.Toolbox.Shell.Matching
import SnapshotSuite.Toolbox.Shell.Process
/-!
# Expanding words

The pieces of a word are expanded from left to right. What comes from the outside, that is, from
parameters, scripts and expressions, is split into fields unless it is quoted; then each field that
is a pattern is replaced by the paths that it matches.
-/

namespace SnapshotSuite

namespace Toolbox

namespace Shell

open ShellM

/-! ### Home directories -/

/-- A word with its tilde replaced by a home directory. In an assignment, a colon ends the name
behind the tilde. -/
def withHomeInFront (home? : Octets → Option Octets) (isAssignment : Bool) (word : Word) : Word :=
  match word with
  | .char '~' :: rest =>
    let isInName (piece : Piece) : Bool :=
      piece.plain?.any fun c => c ≠ '/' && !(isAssignment && c = ':')
    let name := rest.takeWhile isInName
    let behind := rest.drop name.length
    if behind.head?.all fun piece => piece.plain?.isSome then
      match home? (literalText name) with
      | some path => path.toList.map Piece.escaped ++ behind
      | none => word
    else word
  | word => word

mutual

/-- Pieces with the tildes replaced in the words for missing values. -/
def piecesWithHomes (home? : Octets → Option Octets) : List Piece → List Piece
  | [] => []
  | .parameter name use :: rest =>
    .parameter name (useWithHomes home? use) :: piecesWithHomes home? rest
  | piece :: rest => piece :: piecesWithHomes home? rest

/-- A use with the tildes replaced in its words. -/
def useWithHomes (home? : Octets → Option Octets) : Use → Use
  | .default lack word =>
    .default lack (withHomeInFront home? false (piecesWithHomes home? word))
  | .alternative lack word =>
    .alternative lack (withHomeInFront home? false (piecesWithHomes home? word))
  | .assign lack word => .assign lack (withHomeInFront home? false (piecesWithHomes home? word))
  | .demand lack word => .demand lack (withHomeInFront home? false (piecesWithHomes home? word))
  | .trim isEnding isLongest word =>
    .trim isEnding isLongest (withHomeInFront home? false (piecesWithHomes home? word))
  | use => use

end

/-- The parts of an assignment behind its colons, each with its tilde replaced. -/
def withHomesBehindColons (home? : Octets → Option Octets) : (fuel : Nat) → Word → Word
  | 0, word => word
  | fuel + 1, word =>
    let word := withHomeInFront home? true word
    let front := word.takeWhile fun piece => piece.plain? ≠ some ':'
    match word.drop front.length with
    | colon :: rest => front ++ colon :: withHomesBehindColons home? fuel rest
    | [] => word

/-- An assignment with its tildes replaced, which can stand behind the equals sign and behind
colons. -/
def assignmentWithHomes (home? : Octets → Option Octets) (word : Word) : Word :=
  let word := piecesWithHomes home? word
  let front := word.takeWhile fun piece => piece.plain? ≠ some '='
  match word.drop front.length with
  | equals :: rest => front ++ equals :: withHomesBehindColons home? (rest.length + 1) rest
  | [] => word

/-- The home directory of a user, or of the one whose shell this is. -/
def State.home? (state : State) (user : Octets) : Option Octets :=
  if user = "" then state.value? "HOME" else if user = "root" then some "/root" else none

/-! ### Parameters -/

/-- The characters of a value. -/
def atomsOf (isQuoted : Bool) (s : Octets) : List Atom :=
  s.toList.map (Atom.char · isQuoted)

/-- The operands with a separator between any two. -/
def joinOperands (isQuoted : Bool) (separator : List Atom) : List Octets → List Atom
  | [] => []
  | [operand] => atomsOf isQuoted operand
  | operand :: operands =>
    atomsOf isQuoted operand ++ separator ++ joinOperands isQuoted separator operands

/-- How operands are parted where they stand together: by gaps where fields are split, and
otherwise by the first separator. -/
def State.operandSeparator (state : State) (splits isQuoted isSeparate : Bool) : List Atom :=
  let isSet := (state.value? "IFS").isSome
  if splits ∧ (if isQuoted then isSeparate else isSet) then [.gap]
  else (state.separators.head?.map (Atom.char · isQuoted)).toList

/-- The letters of settings, in the order in which they are shown. -/
def settingLetters : List Char :=
  "pubaCEVvxsnmiIfe".toList

/-- What a parameter holds, if it is set. -/
def State.parameter? (state : State) (splits isQuoted : Bool) (name : Octets) :
    Option (List Atom) :=
  let text (s : Octets) : Option (List Atom) := some (atomsOf isQuoted s)
  match name with
  | "@" =>
    some (joinOperands isQuoted (state.operandSeparator splits isQuoted true) state.operands)
  | "*" =>
    some (joinOperands isQuoted (state.operandSeparator splits isQuoted false) state.operands)
  | "#" => text (toString state.operands.length)
  | "?" => text (toString state.status)
  | "-" => text (String.ofList (settingLetters.filter state.has))
  | "$" => text (toString state.mainProcess)
  | "!" => state.background.bind fun number => text (toString number)
  | name =>
    if isNumber name then
      match digitsValue name.toList with
      | 0 => text state.name
      | n + 1 => (state.operands[n]?).bind text
    else (state.value? name).bind text

/-- What a parameter holds, unless it counts as missing. -/
def State.present? (state : State) (splits isQuoted : Bool) (name : Octets) (lack : Lack) :
    Option (List Atom) :=
  (state.parameter? splits isQuoted name).filter fun atoms =>
    lack = .unset || atoms ≠ []

/-- The value of a parameter in a word. -/
def valueStretch (state : State) (isQuoted : Bool) (name : Octets) (atoms : List Atom) : Expanded :=
  if !isQuoted then [⟨.value, atoms⟩]
  else if name = "@" ∧ state.operands ≠ [] then [⟨.operands, atoms⟩]
  else [⟨.never, atoms⟩]

/-- Fails because a parameter is missing, with a complaint if there is one. -/
def missing {α : Type} (name : Octets) (lack : Lack) (complaint : Option Octets) : ShellM α :=
  let standard := if lack = .unset then "parameter not set" else "parameter not set or null"
  fail (name ++ ": " ++ complaint.getD standard)

/-- What a parameter holds; nothing if it is not set, unless that is a fault. -/
def demandParameter (splits isQuoted : Bool) (name : Octets) : ShellM (List Atom) := do
  let state ← state
  match state.parameter? splits isQuoted name with
  | some atoms => return atoms
  | none => if state.has 'u' then missing name .unset none else return []

/-- A value without a beginning or an ending. -/
def trimmed (isEnding isLongest : Bool) (pattern : List Wild) (atoms : List Atom) : List Atom :=
  let cs := atoms.map fun
    | .char c _ => c
    | _ => gapMark
  if isEnding then atoms.take (withoutEnding isLongest pattern cs).length
  else atoms.drop (cs.length - (withoutBeginning isLongest pattern cs).length)

/-! ### Pieces -/

/-- The output of a script in a word, without the ends of lines behind it. -/
def outputAtoms (runner : Runner) (isQuoted : Bool) (script : Command) : ShellM (List Atom) := do
  let cs ← capture runner script
  let cs := (cs.filter (· ≠ '\x00')).reverse.dropWhile (· = '\n')
  return cs.reverse.map (Atom.char · isQuoted)

/-- The value of an expression. -/
def evaluateExpression (expression : Octets) : ShellM Int := do
  let state ← state
  let (result, assignments) := Arithmetic.run state.value? expression
  assignments.forM fun (name, value) => setVariable name value
  match result with
  | .error complaint => fail complaint
  | .ok n => return n

mutual

/-- Pieces, expanded. Inside the word for a missing value, the text of the script is split like
what comes from the outside. A quotation may be open around the word and inside it. -/
def expandPieces (runner : Runner) (splits isInner isQuoted isOpen : Bool) :
    List Piece → ShellM Expanded
  | [] => return []
  | .char c :: rest => do
    let word ← expandPieces runner splits isInner isQuoted isOpen rest
    if isInner && !(isQuoted || isOpen) then return word.withText c
    else return ⟨.never, [.char c (isQuoted || isOpen)]⟩ :: word
  | .escaped c :: rest => do
    let word ← expandPieces runner splits isInner isQuoted isOpen rest
    return ⟨.never, [.char c true]⟩ :: word
  | .mark :: rest => do
    let word ← expandPieces runner splits isInner isQuoted (!isOpen) rest
    return ⟨.never, [.mark]⟩ :: word
  | .operands :: rest => do
    let state ← state
    let atoms := (state.parameter? splits true "@").getD []
    let word ← expandPieces runner splits isInner isQuoted isOpen rest
    return valueStretch state true "@" atoms ++ word
  | .parameter name use :: rest => do
    let front ← expandUse runner splits (isQuoted || isOpen) name use
    return front ++ (← expandPieces runner splits isInner isQuoted isOpen rest)
  | .output script :: rest => do
    let atoms ← outputAtoms runner (isQuoted || isOpen) script
    let splitting := if isQuoted || isOpen then Splitting.never else .value
    return ⟨splitting, atoms⟩ :: (← expandPieces runner splits isInner isQuoted isOpen rest)
  | .number expression :: rest => do
    let text := (← expandPieces runner false false false false expression).text
    let n ← evaluateExpression text
    let splitting := if isQuoted || isOpen then Splitting.never else .value
    return ⟨splitting, atomsOf (isQuoted || isOpen) (toString n)⟩ ::
      (← expandPieces runner splits isInner isQuoted isOpen rest)

/-- What is made of a parameter. -/
def expandUse (runner : Runner) (splits isQuoted : Bool) (name : Octets) : Use → ShellM Expanded
  | .value => do
    let atoms ← demandParameter splits isQuoted name
    return valueStretch (← state) isQuoted name atoms
  | .length => do
    let atoms ← demandParameter splits isQuoted name
    return valueStretch (← state) isQuoted "" (atomsOf isQuoted (toString atoms.length))
  | .default lack word => do
    let state ← state
    match state.present? splits isQuoted name lack with
    | some atoms => return valueStretch state isQuoted name atoms
    | none => expandPieces runner splits true isQuoted false word
  | .alternative lack word => do
    let state ← state
    match state.present? splits isQuoted name lack with
    | some _ => expandPieces runner splits true isQuoted false word
    | none => return []
  | .assign lack word => do
    let before ← state
    match before.present? splits isQuoted name lack with
    | some atoms => return valueStretch before isQuoted name atoms
    | none =>
      let text := (← expandPieces runner false false false false word).text
      setVariable name text
      return valueStretch (← state) isQuoted name (atomsOf isQuoted text)
  | .demand lack word => do
    let state ← state
    match state.present? splits isQuoted name lack with
    | some atoms => return valueStretch state isQuoted name atoms
    | none =>
      let text := (← expandPieces runner false false false false word).text
      missing name lack (if word = [] then none else some text)
  | .trim isEnding isLongest word => do
    let atoms ← demandParameter splits isQuoted name
    let pattern := (← expandPieces runner false false false false word).pattern
    return valueStretch (← state) isQuoted name (trimmed isEnding isLongest pattern atoms)
  | .senseless => fail "Bad substitution"

end

/-! ### Words -/

/-- A word where it is not split. -/
def expandWhole (runner : Runner) (word : Word) : ShellM Expanded := do
  let home? := (← state).home?
  expandPieces runner false false false false
    (withHomeInFront home? false (piecesWithHomes home? word))

/-- The text of a word. -/
def expandText (runner : Runner) (word : Word) : ShellM Octets := do
  return (← expandWhole runner word).text

/-- The pattern that a word writes. -/
def expandPattern (runner : Runner) (word : Word) : ShellM (List Wild) := do
  return (← expandWhole runner word).pattern

/-- The text of an assignment. -/
def expandAssignment (runner : Runner) (word : Word) : ShellM Octets := do
  let home? := (← state).home?
  return (← expandPieces runner false false false false (assignmentWithHomes home? word)).text

/-- The text of a document. -/
def expandDocument (runner : Runner) (word : Word) : ShellM Octets := do
  return (← expandPieces runner false false true false word).text

/-- The paths that a field stands for. -/
def pathsOf (field : List Atom) : ShellM (List Octets) := do
  let cs := fieldChars field
  let w ← workspace
  let paths := if (← state).has 'f' then [] else matchingPaths w cs
  return if paths = [] then [textOf cs] else paths

/-- The words that a word stands for. -/
def expandFields (runner : Runner) (word : Word) : ShellM (List Octets) := do
  let home? := (← state).home?
  let expanded ← expandPieces runner true false false false
    (withHomeInFront home? false (piecesWithHomes home? word))
  let fields := expanded.fields (← state).separators
  return (← fields.mapM pathsOf).flatten

end Shell

end Toolbox

end SnapshotSuite
