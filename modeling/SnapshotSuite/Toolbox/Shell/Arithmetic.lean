import SnapshotSuite.Toolbox.Numeral
/-!
# Expressions

Expressions on whole numbers of sixty-four bits, with variables that can be set. What is left out by
a choice or by the short form of `&&` and `||` is read but has no effect.
-/

namespace SnapshotSuite

namespace Toolbox

namespace Shell

namespace Arithmetic

/-- A token of an expression. -/
inductive Token where
  /-- A number. -/
  | number (n : Int)
  /-- A variable. -/
  | name (s : Octets)
  /-- A sign, or a character that means nothing. -/
  | sign (s : Octets)
deriving DecidableEq, Repr

/-- The signs, the longer ones first. -/
def signs : List Octets :=
  ["<<=", ">>=", "<<", ">>", "<=", ">=", "==", "!=", "&&", "||", "+=", "-=", "*=", "/=", "%=",
    "&=", "|=", "^="]

/-- The tokens of an expression; `fuel` bounds its length. -/
def tokens : (fuel : Nat) → List Char → List Token
  | 0, _ | _, [] => []
  | fuel + 1, c :: cs =>
    if c = ' ' ∨ c = '\t' ∨ c = '\n' then tokens fuel cs
    else if c.isDigit then
      let numeral := Numeral.read (c :: cs)
      .number (clampSigned numeral.value).1 :: tokens fuel numeral.rest
    else if isNameStart c then
      let name := (c :: cs).takeWhile isNameChar
      .name (String.ofList name) :: tokens fuel ((c :: cs).drop name.length)
    else
      match signs.find? fun s => s.toList.isPrefixOf (c :: cs) with
      | some s => .sign s :: tokens fuel ((c :: cs).drop s.length)
      | none => .sign c.toString :: tokens fuel cs

/-- Why an expression has no value. -/
inductive Fault where
  /-- The value of a variable is no number. -/
  | illegalNumber (text : Octets)
  /-- Something is missing. -/
  | expecting (what : Octets)
  /-- Something is divided by nought. -/
  | divisionByZero
deriving DecidableEq, Repr

/-- The message for a fault of an expression. -/
def Fault.message (expression : Octets) : Fault → Octets
  | .illegalNumber text => "Illegal number: " ++ text
  | .expecting what => "arithmetic expression: expecting " ++ what ++ ": \"" ++ expression ++ "\""
  | .divisionByZero => "arithmetic expression: division by zero: \"" ++ expression ++ "\""

/-- An expression that is being evaluated. -/
structure Progress where
  /-- The tokens that are left. -/
  rest : List Token
  /-- The variables that have been set, the last one first. -/
  assigned : List (Octets × Octets)

/-- Evaluates a part of an expression. -/
abbrev Evaluation := ExceptT Fault (StateM Progress)

/-- The next token, which is not taken. -/
def peek : Evaluation (Option Token) := do
  return (← get).rest.head?

/-- Takes a token. -/
def advance : Evaluation Unit :=
  modify fun progress => { progress with rest := progress.rest.tail }

/-- Takes the next token if it is a certain sign. -/
def accept (s : Octets) : Evaluation Bool := do
  if (← peek) = some (.sign s) then
    advance
    return true
  else return false

/-- The number of a truth value. -/
def truth (b : Bool) : Int :=
  if b then 1 else 0

/-- The number that the value of a variable writes; blanks count as nought. -/
def valueOf (text : Octets) : Except Fault Int :=
  let numeral := Numeral.read text.toList
  if text.toList.all isSpaceOctet then .ok 0
  else if !numeral.isPresent ∨ !numeral.rest.all isSpaceOctet ∨ !(clampSigned numeral.value).2 then
    .error (.illegalNumber text)
  else .ok numeral.value

/-- The value of a variable. -/
def lookup (value? : Octets → Option Octets) (name : Octets) : Evaluation Int := do
  let text := ((← get).assigned.lookup name).or (value? name)
  monadLift (valueOf (text.getD ""))

/-- How tightly an operator binds, the tightest with nought. -/
def precedence? (s : Octets) : Option Nat :=
  match s with
  | "*" | "/" | "%" => some 0
  | "+" | "-" => some 1
  | "<<" | ">>" => some 2
  | "<" | "<=" | ">" | ">=" => some 3
  | "==" | "!=" => some 4
  | "&" => some 5
  | "^" => some 6
  | "|" => some 7
  | _ => none

/-- Two numbers combined bit by bit. -/
def bitwise (combine : UInt64 → UInt64 → UInt64) (a b : Int) : Int :=
  wrapSigned (combine (UInt64.ofNat (wrapUnsigned a)) (UInt64.ofNat (wrapUnsigned b))).toNat

/-- What an operator makes of two numbers. -/
def apply (s : Octets) (a b : Int) : Evaluation Int :=
  match s with
  | "*" => return wrapSigned (a * b)
  | "/" => if b = 0 then throw .divisionByZero else return wrapSigned (a.tdiv b)
  | "%" => if b = 0 then throw .divisionByZero else return a.tmod b
  | "+" => return wrapSigned (a + b)
  | "-" => return wrapSigned (a - b)
  | "<<" => return wrapSigned (a * Nat.pow 2 (wrapUnsigned b % 64))
  | ">>" => return a.fdiv (Nat.pow 2 (wrapUnsigned b % 64))
  | "<" => return truth (a < b)
  | "<=" => return truth (a ≤ b)
  | ">" => return truth (a > b)
  | ">=" => return truth (a ≥ b)
  | "==" => return truth (a = b)
  | "!=" => return truth (a ≠ b)
  | "&" => return bitwise (· &&& ·) a b
  | "^" => return bitwise (· ^^^ ·) a b
  | _ => return bitwise (· ||| ·) a b

/-- The operator that an assignment applies first, if a sign is one of an assignment. -/
def assignmentOperator? (s : Octets) : Option (Option Octets) :=
  if s = "=" then some none
  else
    (["+=", "-=", "*=", "/=", "%=", "<<=", ">>=", "&=", "|=", "^="].find? (· = s)).map fun s =>
      some (String.ofList s.toList.dropLast)

/-- What is read of an expression. -/
inductive Goal where
  /-- An assignment or less. -/
  | assignment
  /-- A choice or less. -/
  | choice
  /-- Conditions of which one has to hold, or less. -/
  | or
  /-- Conditions that all have to hold, or less. -/
  | and
  /-- Operators that bind tighter than one, applied from the left. -/
  | operators (loosest : Nat)
  /-- A number, a variable, or something in parentheses, with signs in front. -/
  | primary
deriving DecidableEq, Repr

/-- The value of a part of an expression; `fuel` bounds the number of tokens. Variables are not
looked up or set where `isSkipped` says so. -/
def evaluate (value? : Octets → Option Octets) :
    (fuel : Nat) → Goal → (isSkipped : Bool) → Evaluation Int
  | 0, _, _ => throw (.expecting "primary")
  | fuel + 1, .assignment, isSkipped => do
    match (← get).rest with
    | .name name :: .sign s :: rest =>
      match assignmentOperator? s with
      | none => evaluate value? fuel .choice isSkipped
      | some operator? =>
        modify fun progress => { progress with rest }
        let b ← evaluate value? fuel .assignment isSkipped
        if isSkipped then return b
        let n ←
          match operator? with
          | none => pure b
          | some operator => do apply operator (← lookup value? name) b
        modify fun progress =>
          { progress with assigned := (name, toString n) :: progress.assigned }
        return n
    | _ => evaluate value? fuel .choice isSkipped
  | fuel + 1, .choice, isSkipped => do
    let a ← evaluate value? fuel .or isSkipped
    if ← accept "?" then
      let b ← evaluate value? fuel .assignment (isSkipped || a = 0)
      unless ← accept ":" do throw (.expecting "\x27:\x27")
      let c ← evaluate value? fuel .choice (isSkipped || a ≠ 0)
      return if a ≠ 0 then b else c
    else return a
  | fuel + 1, .or, isSkipped => do
    let a ← evaluate value? fuel .and isSkipped
    if ← accept "||" then
      let b ← evaluate value? fuel .or (isSkipped || a ≠ 0)
      return truth (a ≠ 0 || b ≠ 0)
    else return a
  | fuel + 1, .and, isSkipped => do
    let a ← evaluate value? fuel (.operators 8) isSkipped
    if ← accept "&&" then
      let b ← evaluate value? fuel .and (isSkipped || a = 0)
      return truth (a ≠ 0 && b ≠ 0)
    else return a
  | fuel + 1, .operators loosest, isSkipped => do
    let a ← evaluate value? fuel .primary isSkipped
    applyAll fuel loosest isSkipped a
  | fuel + 1, .primary, isSkipped => do
    match ← peek with
    | some (.number n) =>
      advance
      return n
    | some (.name name) =>
      advance
      if isSkipped then return 0 else lookup value? name
    | some (.sign "(") =>
      advance
      let a ← evaluate value? fuel .assignment isSkipped
      unless ← accept ")" do throw (.expecting "\x27)\x27")
      return a
    | some (.sign "+") =>
      advance
      evaluate value? fuel .primary isSkipped
    | some (.sign "-") =>
      advance
      return wrapSigned (-(← evaluate value? fuel .primary isSkipped))
    | some (.sign "!") =>
      advance
      return truth ((← evaluate value? fuel .primary isSkipped) = 0)
    | some (.sign "~") =>
      advance
      return -(← evaluate value? fuel .primary isSkipped) - 1
    | _ => throw (.expecting "primary")
where
  /-- Applies the operators that bind tighter than one. -/
  applyAll (fuel loosest : Nat) (isSkipped : Bool) (a : Int) : Evaluation Int := do
    match fuel with
    | 0 => return a
    | fuel + 1 =>
      match ← peek with
      | some (.sign s) =>
        match (precedence? s).filter (· < loosest) with
        | none => return a
        | some tightness =>
          advance
          let b ← evaluate value? fuel (.operators tightness) isSkipped
          let n ← if isSkipped then pure b else apply s a b
          applyAll fuel loosest isSkipped n
      | _ => return a

/-- The value of an expression, or the complaint about it, and the variables that it sets, in
order. -/
def run (value? : Octets → Option Octets) (expression : Octets) :
    Except Octets Int × List (Octets × Octets) :=
  let tokens := tokens (expression.length + 1) expression.toList
  let whole : Evaluation Int := do
    let n ← evaluate value? (8 * tokens.length + 16) .assignment false
    if (← get).rest = [] then return n else throw (.expecting "EOF")
  let (result, progress) := whole.run ⟨tokens, []⟩
  (result.mapError (Fault.message expression), progress.assigned.reverse)

end Arithmetic

end Shell

end Toolbox

end SnapshotSuite
