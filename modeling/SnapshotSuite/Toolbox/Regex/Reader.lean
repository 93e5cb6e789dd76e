import SnapshotSuite.Text.Reader
import SnapshotSuite.Toolbox.Regex.Basic
/-!
# Writing of regular expressions

There are two ways to write an expression. In the plain one most signs stand for themselves and get
their meaning from a backslash, in the extended one it is the other way round. An expression is read
as a list of signs first, because what a star or an anchor means depends on its neighbours.
-/

namespace SnapshotSuite

namespace Toolbox

namespace Regex

/-- How expressions are written. -/
structure Style where
  /-- Whether signs have their meaning without a backslash. -/
  isExtended : Bool
  /-- Whether escapes stand for control characters, and a repetition of nothing and a group that only
  ends are wrong in the extended style. -/
  isForEditing : Bool
deriving DecidableEq, Repr

/-- A sign of an expression. -/
inductive Sign where
  /-- A letter. -/
  | letter (letter : Letter)
  /-- Something that matches one letter, or a place. -/
  | plain (regex : Regex)
  /-- The beginning of a group. -/
  | opening
  /-- The end of a group. -/
  | closing
  /-- What parts alternatives. -/
  | bar
  /-- A repetition, as it is written, and its bounds. -/
  | repetition (written : Letter) (least : Nat) (most : Option Nat)
  /-- The start of a line, or a caret. -/
  | caret
  /-- The end of a line, or a dollar. -/
  | dollar
  /-- What a group has matched. -/
  | again (number : Nat)

/-! ### Bracket expressions -/

/-- Whether a character belongs to a class. -/
def classTest? (name : String) : Option (Char → Bool) :=
  let isGraph (c : Char) : Bool := 32 < c.toNat && c.toNat < 127
  match name with
  | "alnum" => some Char.isAlphanum
  | "alpha" => some Char.isAlpha
  | "blank" => some fun c => c = ' ' || c = '\t'
  | "cntrl" => some fun c => c.toNat < 32 || c.toNat = 127
  | "digit" => some Char.isDigit
  | "graph" => some isGraph
  | "lower" => some Char.isLower
  | "print" => some fun c => c = ' ' || isGraph c
  | "punct" => some fun c => isGraph c && !c.isAlphanum
  | "space" => some isSpaceOctet
  | "upper" => some Char.isUpper
  | "xdigit" => some fun c => (digitValue? 16 c).isSome
  | _ => none

/-- The text up to a sign in front of a closing bracket, and what follows that. -/
def enclosedBy? (sign : Char) (text : List Letter) : List Letter → Option (List Letter × List Letter)
  | a :: b :: rest =>
    if a = [sign] ∧ b = [']'] then some (text.reverse, rest)
    else enclosedBy? sign (a :: text) (b :: rest)
  | _ => none

/-- The control character that a letter behind a backslash stands for. -/
def control? : Letter → Option Letter
  | ['n'] => some ['\n']
  | ['t'] => some ['\t']
  | ['r'] => some ['\r']
  | ['f'] => some ['\x0c']
  | ['v'] => some ['\x0b']
  | ['a'] => some ['\x07']
  | _ => none

/-- What is wrong with brackets that are not closed. -/
def unmatchedBracket : Octets :=
  "Unmatched [, [^, [:, [., or [="

/-- A letter between brackets, and what follows it. -/
def bracketLetter (style : Style) (letters : List Letter) :
    Except Octets (Letter × List Letter) :=
  match letters with
  | ['['] :: ['.'] :: rest =>
    match enclosedBy? '.' [] rest with
    | some ([letter], rest) => .ok (letter, rest)
    | _ => .error unmatchedBracket
  | ['\\'] :: letter :: rest =>
    match if style.isForEditing then control? letter else none with
    | some control => .ok (control, rest)
    | none => .ok (['\\'], letter :: rest)
  | letter :: rest => .ok (letter, rest)
  | [] => .error unmatchedBracket

/-- The members of a bracket expression, and what follows it; `fuel` bounds its length. A closing
bracket in first place is a member. -/
def bracketMembers (style : Style) :
    (fuel : Nat) → (isFirst : Bool) → List Letter → Except Octets (List Member × List Letter)
  | 0, _, _ | _, _, [] => .error unmatchedBracket
  | fuel + 1, isFirst, letters => do
    let more (member : Member) (rest : List Letter) :
        Except Octets (List Member × List Letter) := do
      let (members, rest) ← bracketMembers style fuel false rest
      return (member :: members, rest)
    match letters with
    | ['['] :: [':'] :: rest =>
      match enclosedBy? ':' [] rest with
      | none => throw unmatchedBracket
      | some (name, rest) =>
        match classTest? (String.ofList name.flatten) with
        | none => throw "Invalid character class name"
        | some test =>
          let isIn : Letter → Bool
            | [c] => test c
            | _ => false
          more (.ofClass isIn) rest
    | ['['] :: ['='] :: rest =>
      match enclosedBy? '=' [] rest with
      | some ([letter], rest) => more (.range letter letter) rest
      | _ => throw unmatchedBracket
    | first :: rest =>
      if first = [']'] ∧ !isFirst then return ([], rest)
      else
        let (first, rest) ← bracketLetter style letters
        match rest with
        | ['-'] :: last :: after =>
          if last = [']'] then more (.range first first) rest
          else
            let (last, after) ← bracketLetter style (last :: after)
            if last < first then throw "Invalid range end"
            more (.range first last) after
        | rest => more (.range first first) rest
    | [] => throw unmatchedBracket

/-- A bracket expression behind its opening bracket, and what follows it. -/
def bracket (style : Style) (letters : List Letter) : Except Octets (Regex × List Letter) := do
  let (isComplement, letters) :=
    match letters with
    | ['^'] :: rest => (true, rest)
    | letters => (false, letters)
  let (members, rest) ← bracketMembers style (letters.length + 1) true letters
  return (.set isComplement members, rest)

/-! ### Signs -/

/-- The bounds of a repetition behind its opening brace, and what follows it. -/
def bounds? (style : Style) (letters : List Letter) :
    Option (Nat × Option Nat × List Letter) :=
  let isDigit (letter : Letter) : Bool := letter.all Char.isDigit
  let least := letters.takeWhile isDigit
  let (most, rest) : Option (List Letter) × List Letter :=
    match letters.drop least.length with
    | [','] :: rest => (some (rest.takeWhile isDigit), rest.dropWhile isDigit)
    | rest => (none, rest)
  let after? : Option (List Letter) :=
    match style.isExtended, rest with
    | true, ['}'] :: rest | false, ['\\'] :: ['}'] :: rest => some rest
    | _, _ => none
  let value (digits : List Letter) : Nat := digitsValue digits.flatten
  match after?, most with
  | none, _ => none
  | some rest, none => if least = [] then none else some (value least, some (value least), rest)
  | some rest, some most => some (value least, if most = [] then none else some (value most), rest)

/-- What a letter behind a backslash stands for in both styles. -/
def escaped? (style : Style) : Letter → Option Sign
  | ['<'] => some (.plain (.place .wordStart))
  | ['>'] => some (.plain (.place .wordStop))
  | ['b'] => some (.plain (.place .word))
  | ['B'] => some (.plain (.place .noWord))
  | ['\x60'] => some (.plain (.place .start))
  | ['\x27'] => some (.plain (.place .stop))
  | ['w'] => some (.plain (.set false [.ofClass isWordLetter]))
  | ['W'] => some (.plain (.set true [.ofClass isWordLetter]))
  | ['s'] => some (.plain (.set false [.ofClass fun letter => letter.all isSpaceOctet]))
  | ['S'] => some (.plain (.set true [.ofClass fun letter => letter.all isSpaceOctet]))
  | [c] =>
    if '1' ≤ c ∧ c ≤ '9' then some (.again (c.toNat - 48))
    else if style.isForEditing then (control? [c]).map .letter
    else none
  | _ => none

/-- What a sign means where it has its meaning. -/
def special? : Letter → Option Sign
  | ['('] => some .opening
  | [')'] => some .closing
  | ['|'] => some .bar
  | ['+'] => some (.repetition ['+'] 1 none)
  | ['?'] => some (.repetition ['?'] 0 (some 1))
  | _ => none

/-- The signs of an expression; `fuel` bounds their number. -/
def signs (style : Style) : (fuel : Nat) → List Letter → Except Octets (List Sign)
  | 0, _ | _, [] => .ok []
  | fuel + 1, ['['] :: rest => do
    let (regex, rest) ← bracket style rest
    return .plain regex :: (← signs style fuel rest)
  | _, [['\\']] => .error "Trailing backslash"
  | fuel + 1, ['\\'] :: letter :: rest => do
    if letter = ['{'] ∧ !style.isExtended then
      match bounds? style rest with
      | some (least, most, rest) =>
        if most.any (· < least) then throw "Invalid content of \\\x7b\\\x7d"
        return .repetition ['{'] least most :: (← signs style fuel rest)
      | none =>
        throw (if rest.contains ['}'] then "Invalid content of \\\x7b\\\x7d"
          else "Unmatched \\\x7b")
    else
      let special := if style.isExtended then none else special? letter
      let sign := ((escaped? style letter).orElse fun _ => special).getD (.letter letter)
      return sign :: (← signs style fuel rest)
  | fuel + 1, letter :: rest => do
    if letter = ['{'] ∧ style.isExtended then
      match bounds? style rest with
      | some (least, most, rest) =>
        if most.any (· < least) then throw "Invalid content of \\\x7b\\\x7d"
        return .repetition letter least most :: (← signs style fuel rest)
      | none => return .letter letter :: (← signs style fuel rest)
    else
      let sign : Sign :=
        match letter with
        | ['.'] => .plain .any
        | ['*'] => .repetition letter 0 none
        | ['^'] => .caret
        | ['$'] => .dollar
        | _ => ((special? letter).filter fun _ => style.isExtended).getD (.letter letter)
      return sign :: (← signs style fuel rest)

/-! ### Expressions -/

/-- What has been read: an expression, how many groups there are up to its end, and the rest. -/
structure Reading where
  /-- The expression. -/
  regex : Regex
  /-- The number of groups. -/
  groups : Nat
  /-- The signs behind it. -/
  rest : List Sign

/-- Whether the end of an alternative follows. -/
def endsAlternative (depth : Nat) : List Sign → Bool
  | [] | .bar :: _ => true
  | .closing :: _ => 0 < depth
  | _ => false

/-- An expression with the repetitions behind it. -/
def withRepetitions (regex : Regex) : List Sign → Regex × List Sign
  | .repetition _ least most :: rest => withRepetitions (.repeated regex least most) rest
  | rest => (regex, rest)

mutual

/-- Alternatives with bars between them; `fuel` bounds their signs. -/
def alternatives (style : Style) :
    (fuel depth groups : Nat) → List Sign → Except Octets Reading
  | 0, _, groups, signs => .ok ⟨.empty, groups, signs⟩
  | fuel + 1, depth, groups, signs => do
    let first ← sequence style fuel depth groups true signs
    match first.rest with
    | .bar :: rest =>
      let second ← alternatives style fuel depth first.groups rest
      return { second with regex := .either first.regex second.regex }
    | _ => return first

/-- What stands one behind the other up to a bar or the end; `fuel` bounds its signs. At the start a
repetition has nothing to repeat. -/
def sequence (style : Style) :
    (fuel depth groups : Nat) → (isStart : Bool) → List Sign → Except Octets Reading
  | 0, _, groups, _, signs => .ok ⟨.empty, groups, signs⟩
  | fuel + 1, depth, groups, isStart, signs => do
    let follow (regex : Regex) (groups : Nat) (rest : List Sign) : Except Octets Reading := do
      let (regex, rest) := withRepetitions regex rest
      let more ← sequence style fuel depth groups false rest
      return { more with regex := .seq regex more.regex }
    let anchor (edge : Edge) (rest : List Sign) : Except Octets Reading := do
      let more ← sequence style fuel depth groups true rest
      return { more with regex := .seq (.place edge) more.regex }
    if endsAlternative depth signs then return ⟨.empty, groups, signs⟩
    else
      match signs with
      | .letter letter :: rest => follow (.one letter) groups rest
      | .plain regex :: rest => follow regex groups rest
      | .again number :: rest =>
        if groups < number then throw "Invalid back reference"
        else follow (.again number) groups rest
      | .opening :: rest =>
        let number := groups + 1
        let inner ← alternatives style fuel (depth + 1) number rest
        match inner.rest with
        | .closing :: rest => follow (.group number inner.regex) inner.groups rest
        | _ => throw "Unmatched ( or \\("
      | .repetition written _ _ :: rest =>
        if isStart ∧ !style.isExtended ∧ written ≠ ['{'] then follow (.one written) groups rest
        else if style.isForEditing then throw "Invalid preceding regular expression"
        else sequence style fuel depth groups true rest
      | .caret :: rest =>
        if isStart ∨ style.isExtended then anchor .lineStart rest
        else follow (.one ['^']) groups rest
      | .dollar :: rest =>
        if style.isExtended ∨ endsAlternative depth rest then anchor .lineStop rest
        else follow (.one ['$']) groups rest
      | .closing :: rest =>
        if style.isExtended ∧ !style.isForEditing then follow (.one [')']) groups rest
        else throw "Unmatched ) or \\)"
      | .bar :: _ | [] => return ⟨.empty, groups, signs⟩

end

/-- The expression that letters write, and its number of groups. -/
def read (style : Style) (letters : List Letter) : Except Octets (Regex × Nat) := do
  let signs ← signs style (letters.length + 1) letters
  let reading ← alternatives style (2 * signs.length + 2) 0 0 signs
  return (reading.regex, reading.groups)

end Regex

end Toolbox

end SnapshotSuite
