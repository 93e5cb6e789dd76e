import SnapshotSuite.Toolbox.Numeral
import SnapshotSuite.Toolbox.World
/-!
# Conditions

Conditions on texts, numbers and files, put together with `-o`, `-a`, `!` and parentheses. Which
words are operators depends on what stands around them, since any word can be an operand.
-/

namespace SnapshotSuite

namespace Toolbox

namespace Condition

/-- What a word can be. -/
inductive Role where
  /-- An operator in front of one operand. -/
  | unary
  /-- An operator between two operands. -/
  | binary
  /-- A word that joins conditions. -/
  | joint
deriving DecidableEq, Repr

/-- The role of a word, if it has one. -/
def role? (word : Octets) : Option Role :=
  if ["!", "-a", "-o", "(", ")"].contains word then some .joint
  else if ["=", "!=", "<", ">", "-eq", "-ne", "-gt", "-ge", "-lt", "-le", "-nt", "-ot",
      "-ef"].contains word then some .binary
  else
    match word.toList with
    | ['-', c] => if "rwxefdcbpugkstznhOGLS".toList.contains c then some .unary else none
    | _ => none

/-- What a word is where it stands. -/
inductive Lexeme where
  /-- There is no word. -/
  | missing
  /-- An operand. -/
  | operand
  /-- An operator, or a word that joins conditions. -/
  | operator (role : Role) (word : Octets)
deriving DecidableEq, Repr

/-- Whether the words behind an operator leave it nothing to be applied to. -/
def leavesNothing : List Octets → Bool
  | [] => true
  | [_] => false
  | word :: _ => role? word = some .binary

/-- What the first word is. -/
def lexeme : List Octets → Lexeme
  | [] => .missing
  | word :: words =>
    match role? word with
    | some .unary => if leavesNothing words then .operand else .operator .unary word
    | some role => if word = "(" ∧ words = [] then .operand else .operator role word
    | none => .operand

/-- Whether the first word joins conditions as a word says. -/
def isJoint (word : Octets) (words : List Octets) : Bool :=
  lexeme words = .operator .joint word

/-- A whole number, with blanks around it. -/
def number (word : Octets) : Except Octets Int :=
  let numeral := Numeral.readDecimal word.toList
  if !numeral.isPresent ∨ !numeral.rest.all isSpaceOctet ∨ !(clampSigned numeral.value).2 then
    .error ("Illegal number: " ++ word)
  else .ok numeral.value

/-- Whether a condition on one operand holds. -/
def holdsOf (w : Workspace) (operator operand : Octets) :
    Except Octets Bool :=
  let path := Octets.text operand
  match operator with
  | "-z" => .ok (operand = "")
  | "-n" => .ok (operand ≠ "")
  | "-t" => (number operand).map fun _ => false
  | "-e" | "-r" | "-w" | "-O" | "-G" => .ok (w.isPresent path)
  | "-f" => .ok (w.isFile path && w.place path ≠ ["null", "dev"])
  | "-c" => .ok (w.isPresent path && w.place path = ["null", "dev"])
  | "-d" => .ok (w.isDirectory path)
  | "-s" =>
    .ok (w.isDirectory path ||
      match w.readBytes path with
      | .ok (_ :: _) => true
      | _ => false)
  | "-x" => .ok (w.isDirectory path || (w.isFile path && w.tree.isRunnable (w.place path)))
  | _ => .ok false

/-- Whether a condition on two operands holds. -/
def compares (w : Workspace) (operator a b : Octets) : Except Octets Bool :=
  let numbers (relation : Int → Int → Bool) : Except Octets Bool := do
    return relation (← number a) (← number b)
  match operator with
  | "=" => .ok (a = b)
  | "!=" => .ok (a ≠ b)
  | "<" => .ok (a < b)
  | ">" => .ok (b < a)
  | "-eq" => numbers fun m n => m = n
  | "-ne" => numbers fun m n => m ≠ n
  | "-lt" => numbers fun m n => m < n
  | "-le" => numbers fun m n => m ≤ n
  | "-gt" => numbers fun m n => m > n
  | "-ge" => numbers fun m n => m ≥ n
  | "-ef" =>
    .ok (w.isPresent (Octets.text a) && w.isPresent (Octets.text b) &&
      w.place (Octets.text a) = w.place (Octets.text b))
  | _ => .ok false

/-- What is looked for among words. -/
inductive Goal where
  /-- Conditions of which one has to hold. -/
  | any
  /-- Conditions that all have to hold. -/
  | every
  /-- A condition or its contrary. -/
  | perhapsNot
  /-- A single condition. -/
  | single
deriving DecidableEq, Repr

/-- Whether what is looked for holds, and the words from its last one on; `fuel` bounds the number
of words. The first word is taken for what the lexeme says. -/
def evaluate (w : Workspace) :
    (fuel : Nat) → Goal → Lexeme → List Octets → Except Octets (Bool × List Octets)
  | 0, _, _, words => .ok (false, words)
  | fuel + 1, .any, lex, words => do
    let (a, words) ← evaluate w fuel .every lex words
    if isJoint "-o" words.tail then
      let (b, words) ←
        evaluate w fuel .any (lexeme (words.drop 2)) (words.drop 2)
      return (a || b, words)
    else return (a, words)
  | fuel + 1, .every, lex, words => do
    let (a, words) ← evaluate w fuel .perhapsNot lex words
    if isJoint "-a" words.tail then
      let (b, words) ←
        evaluate w fuel .every (lexeme (words.drop 2)) (words.drop 2)
      return (a && b, words)
    else return (a, words)
  | fuel + 1, .perhapsNot, lex, words => do
    if lex = .operator .joint "!" then
      let next := lexeme words.tail
      let (a, words) ← evaluate w fuel .perhapsNot next
        (if next = .missing then words else words.tail)
      return (!a, words)
    else evaluate w fuel .single lex words
  | fuel + 1, .single, lex, words => do
    match lex, words with
    | .missing, words => return (false, words)
    | .operator .joint "(", words =>
      let next := lexeme words.tail
      if next = .operator .joint ")" then return (false, words.tail)
      else
        let (a, words) ← evaluate w fuel .any next words.tail
        if isJoint ")" words.tail then return (a, words.tail)
        else throw "closing paren expected"
    | .operator .unary operator, words =>
      match words.tail with
      | [] => throw (operator ++ ": argument expected")
      | operand :: rest => return (← holdsOf w operator operand, operand :: rest)
    | _, words =>
      match words, lexeme words.tail with
      | a :: _ :: rest, .operator .binary operator =>
        match rest with
        | [] => throw (operator ++ ": argument expected")
        | b :: rest => return (← compares w operator a b, b :: rest)
      | word :: rest, _ => return (word ≠ "", word :: rest)
      | [], _ => return (false, [])

/-- Whether all words are one condition that holds. -/
def holdsWhole (w : Workspace) (lex : Lexeme) (words : List Octets) :
    Except Octets Bool := do
  let (a, rest) ← evaluate w (4 * words.length + 4) .any lex words
  match rest with
  | word :: _ :: _ => throw (if word = "" then "unexpected operator"
      else word ++ ": unexpected operator")
  | _ => return a

/-- Whether words hold as a condition. Up to four words have a meaning of their own. -/
def holds (w : Workspace) : List Octets → Except Octets Bool
  | [] => .ok false
  | [a, operator, b] =>
    if role? operator = some .binary then holdsWhole w .operand [a, operator, b]
    else if a = "(" ∧ b = ")" then holdsWhole w (lexeme [operator]) [operator]
    else if a = "!" then (holds w [operator, b]).map not
    else holdsWhole w (lexeme [a, operator, b]) [a, operator, b]
  | [a, b, c, d] =>
    if a = "(" ∧ d = ")" then holdsWhole w (lexeme [b, c]) [b, c]
    else if a = "!" then (holds w [b, c, d]).map not
    else holdsWhole w (lexeme [a, b, c, d]) [a, b, c, d]
  | words => holdsWhole w (lexeme words) words

end Condition

end Toolbox

end SnapshotSuite
