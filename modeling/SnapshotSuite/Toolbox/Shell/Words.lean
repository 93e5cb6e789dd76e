import SnapshotSuite.Toolbox.Shell.Source
/-!
# Reading words

A word is read in parts: what stands outside quotes, in double quotes, in the braces of a parameter,
in an expression, or in a document. A part ends where its own sign stands. Scripts inside a word are
read by a reader that is a parameter.
-/

namespace SnapshotSuite

namespace Toolbox

namespace Shell

/-- A part of a word. -/
inductive Part where
  /-- A word outside quotes; the word that ends a document has no parameters. -/
  | bare (isEnding : Bool)
  /-- What stands in double quotes, perhaps inside braces. -/
  | quoted (isInBraces : Bool)
  /-- What stands in braces, perhaps inside double quotes. -/
  | braces (isDouble : Bool)
  /-- An expression. -/
  | expression
  /-- A document. -/
  | document
deriving DecidableEq, Repr

/-- Whether a character of a part stands for itself because of quotes. -/
def Part.isQuoting : Part → Bool
  | .bare _ | .braces false | .expression => false
  | _ => true

/-- Whether a part is a word outside quotes, which ends where the next token begins. -/
def Part.isBare : Part → Bool
  | .bare _ => true
  | _ => false

/-- Whether a part stands in braces. -/
def Part.isInBraces : Part → Bool
  | .quoted isInBraces => isInBraces
  | .braces _ => true
  | _ => false

/-- A character of a part. -/
def Part.piece (part : Part) (c : Char) : Piece :=
  if part.isQuoting then .escaped c else .char c

/-- Whether a character ends a word. -/
def isMeta (c : Char) : Bool :=
  "\n<>();&| \t".toList.contains c

/-- Whether a character is a parameter by itself. -/
def isSpecialParameter (c : Char) : Bool :=
  c.isDigit || "#?@*!-$".toList.contains c

namespace Reader

/-- Takes characters for as long as they are of a kind. -/
def takeWhile (isGood : Char → Bool) : Reader (List Char) :=
  iterate (fun cs => do
    match ← peek? with
    | some c =>
      if isGood c then
        let _ ← next?
        return .inl (c :: cs)
      else return .inr cs.reverse
    | none => return .inr cs.reverse) []

/-- What stands in single quotes. -/
def singleQuoted : Reader Word :=
  iterate (fun pieces => do
    match ← next? with
    | none => fail "Unterminated quoted string"
    | some '\x27' => return .inr pieces.reverse
    | some c => return .inl (.escaped c :: pieces)) []

/-- What a backslash in a part makes of the next character. -/
def escape (part : Part) : Reader Word := do
  match ← next? with
  | none => return [.escaped '\\']
  | some c =>
    let isSpecial :=
      c = '\\' || c = '\x60' || c = '$' || (c = '"' && (part ≠ .document || part.isInBraces)) ||
        (c = '}' && part.isInBraces)
    if (part.isQuoting || part = .expression) && !isSpecial then
      return [.escaped '\\', .escaped c]
    else return [.escaped c]

/-- The text of a script in back quotes, where backslashes keep some characters. -/
def backQuotedText (part : Part) : Reader (List Char) :=
  iterate (fun cs => do
    match ← nextJoined? with
    | none => fail "EOF in backquote substitution"
    | some '\x60' => return .inr cs.reverse
    | some '\\' =>
      match ← next? with
      | none => return .inl ('\\' :: cs)
      | some c =>
        let isKept := c = '\\' || c = '\x60' || c = '$' ||
          (c = '"' && (part.isQuoting || part = .expression))
        return .inl (if isKept then c :: cs else c :: '\\' :: cs)
    | some c => return .inl (c :: cs)) []

/-- Reads a text of its own. -/
def within {α : Type} (cs : List Char) (reader : Reader α) : Reader α := do
  let outer ← get
  set { outer with rest := cs, line := 1, pushed := none, awaited := [], openAliases := [] }
  let a ← reader
  modify fun inner => { outer with documents := inner.documents }
  return a

/-- A script in back quotes. -/
def backQuoted (script : Reader Command) (part : Part) : Reader Piece := do
  let cs ← backQuotedText part
  return .output (← within cs script)

/-- The name of a parameter in braces, and whether its length is wanted; `none` if there is none. -/
def parameterName : Reader (Option (Octets × Bool)) := do
  let plain : Reader (Option Octets) := do
    match ← peek? with
    | some c =>
      if isNameStart c then return some (String.ofList (← takeWhile isNameChar))
      else if c.isDigit then return some (String.ofList (← takeWhile Char.isDigit))
      else if isSpecialParameter c then
        let _ ← next?
        return some c.toString
      else return none
    | none => return none
  if ← accept '#' then
    match ← peek? with
    | some c =>
      if isNameChar c then return (← plain).map (·, true)
      else if c = '}' then return some ("#", false)
      else
        let before ← get
        let _ ← next?
        if (← peek?) = some '}' then
          if isSpecialParameter c then return some (c.toString, true) else return none
        else
          set before
          return some ("#", false)
    | none => return some ("#", false)
  else return (← plain).map (·, false)

/-- What is made of a parameter whose name has been read, up to the brace that closes it. -/
def parameterUse (part : Part → Reader Word) (isDouble : Bool) : Reader Use := do
  let withWord (use : Word → Use) : Reader Use := do
    return use (← part (.braces isDouble))
  let byOperator (lack : Lack) (c : Option Char) : Reader Use := do
    if c.isSome then let _ ← next?
    match c with
    | some '}' => return .value
    | some '-' => withWord (.default lack)
    | some '+' => withWord (.alternative lack)
    | some '?' => withWord (.demand lack)
    | some '=' => withWord (.assign lack)
    | _ => withWord fun _ => .senseless
  match ← peek? with
  | some ':' =>
    let _ ← next?
    byOperator .unsetOrEmpty (← peek?)
  | some '%' =>
    let _ ← next?
    let isLongest ← accept '%'
    return .trim true isLongest (← part (.braces false))
  | some '#' =>
    let _ ← next?
    let isLongest ← accept '#'
    return .trim false isLongest (← part (.braces false))
  | c => byOperator .unset c

/-- A parameter in braces. -/
def bracedParameter (part : Part → Reader Word) (isDouble : Bool) : Reader Piece := do
  match ← parameterName with
  | none =>
    if (← peek?) ≠ some '}' then let _ ← next?
    let _ ← part (.braces isDouble)
    return .parameter "" .senseless
  | some (name, true) =>
    let isRight := (← peek?) = some '}'
    let _ ← part (.braces isDouble)
    return .parameter name (if isRight then .length else .senseless)
  | some (name, false) => return .parameter name (← parameterUse part isDouble)

/-- Takes the parenthesis that ends a script and was put back behind it. -/
def closeScript : Reader Unit := do
  match (← get).pushed with
  | some (.sign ")") => modify fun source => { source with pushed := none }
  | token => (token.getD .finish).unexpected (some (.sign ")"))

/-- What a dollar sign in a part begins. -/
def dollar (part : Part → Reader Word) (script : Reader Command) (inside : Part) :
    Reader Piece := do
  match ← peek? with
  | some '(' =>
    let _ ← next?
    if ← accept '(' then return .number (← part .expression)
    else
      let awaited := (← get).awaited
      modify fun source => { source with awaited := [] }
      let command ← script
      closeScript
      modify fun source => { source with awaited }
      return .output command
  | some '{' =>
    let _ ← next?
    bracedParameter part (inside.isQuoting || inside = .expression)
  | some c =>
    if isNameStart c then
      return .parameter (String.ofList (← takeWhile isNameChar)) .value
    else if isSpecialParameter c then
      let _ ← next?
      return .parameter c.toString .value
    else return inside.piece '$'
  | none => return inside.piece '$'

/-- What has been read of a part. -/
structure Progress where
  /-- The pieces, the last one first. -/
  pieces : List Piece
  /-- Whether a quotation inside the part is open. -/
  isInner : Bool
  /-- How many parentheses are open. -/
  depth : Nat

/-- One step through a part, by its next character. -/
def partStep (part : Part → Reader Word) (script : Reader Command) (inside : Part)
    (progress : Progress) : Reader (Progress ⊕ Word) := do
  let done : Reader (Progress ⊕ Word) := return .inr progress.pieces.reverse
  let more (pieces : Word) : Reader (Progress ⊕ Word) :=
    return .inl { progress with pieces := pieces.reverse ++ progress.pieces }
  match ← peek? with
  | none =>
    match inside with
    | .bare _ | .document => done
    | .quoted _ | .braces true => fail "Unterminated quoted string"
    | .braces false => fail "Missing \x27\x7d\x27"
    | .expression => fail "Missing \x27))\x27"
  | some c =>
    if inside.isBare ∧ isMeta c then done
    else
      let _ ← next?
      let literal := inside = .bare true
      match c, inside with
      | '$', inside => more [← if literal then pure (.char '$') else dollar part script inside]
      | '\x60', inside =>
        more [← if literal then pure (.char '\x60') else backQuoted script inside]
      | '\\', inside => more (← escape inside)
      | '\x27', .bare _ | '\x27', .braces false =>
        more (quotation (← singleQuoted))
      | '"', .bare _ => more (quotation (← part (.quoted false)))
      | '"', .braces false => more (quotation (← part (.quoted true)))
      | '"', .quoted _ => done
      | '"', .braces true =>
        return .inl
          { progress with pieces := .mark :: progress.pieces, isInner := !progress.isInner }
      | '}', .braces _ => if progress.isInner then more [.escaped '}'] else done
      | '(', .expression =>
        return .inl
          { progress with pieces := .char '(' :: progress.pieces, depth := progress.depth + 1 }
      | ')', .expression =>
        if progress.depth = 0 then
          if ← accept ')' then done else more [.char ')']
        else
          return .inl
            { progress with pieces := .char ')' :: progress.pieces, depth := progress.depth - 1 }
      | c, inside => more [inside.piece c]

/-- A part of a word; `fuel` bounds how deep parts stand in one another. -/
def part (script : Reader Command) : (fuel : Nat) → Part → Reader Word
  | 0, _ => fail "text too deep"
  | fuel + 1, inside => iterate (partStep (part script fuel) script inside) ⟨[], false, 0⟩

/-- A part of a word. -/
def wordPart (script : Reader Command) (inside : Part) : Reader Word := do
  part script ((← rest).length + 1) inside

end Reader

/-- Whether something in a word is quoted. -/
def isQuotedWord (word : Word) : Bool :=
  word.any fun
    | .mark | .escaped _ | .operands => true
    | _ => false

end Shell

end Toolbox

end SnapshotSuite
