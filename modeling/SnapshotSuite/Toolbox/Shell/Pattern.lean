import SnapshotSuite.Toolbox.Octets
/-!
# Patterns

Patterns of texts: a star for any characters, a question mark for one, and brackets for one of some.
A character that is quoted only matches itself.
-/

namespace SnapshotSuite

namespace Toolbox

namespace Shell

/-- A character of a pattern before it is read. -/
structure PatternChar where
  /-- The character. -/
  char : Char
  /-- Whether it only stands for itself. -/
  isQuoted : Bool
deriving DecidableEq, Repr

/-- What brackets can hold. -/
inductive Member where
  /-- The characters of a range. -/
  | range (first last : Char)
  /-- The characters of a class. -/
  | class_ (holds : Char → Bool)

/-- A part of a pattern. -/
inductive Wild where
  /-- One character that stands for itself. -/
  | only (c : Char)
  /-- Any one character. -/
  | any
  /-- Any number of characters. -/
  | many
  /-- One of some characters, or one of all others. -/
  | oneOf (isInverted : Bool) (members : List Member)

namespace Pattern

/-- The classes of characters, by their names. -/
def class? : Octets → Option (Char → Bool)
  | "alnum" => some Char.isAlphanum
  | "alpha" => some Char.isAlpha
  | "blank" => some fun c => c = ' ' || c = '\t'
  | "cntrl" => some fun c => c.toNat < 32 || c.toNat = 127
  | "digit" => some Char.isDigit
  | "graph" => some fun c => 32 < c.toNat && c.toNat < 127
  | "lower" => some Char.isLower
  | "print" => some fun c => 32 ≤ c.toNat && c.toNat < 127
  | "punct" => some fun c => 32 < c.toNat && c.toNat < 127 && !c.isAlphanum
  | "space" => some isSpaceOctet
  | "upper" => some Char.isUpper
  | "xdigit" => some fun c =>
    c.isDigit || ('a' ≤ c && c ≤ 'f') || ('A' ≤ c && c ≤ 'F')
  | _ => none

/-- A character class in front, behind its bracket, and what follows it. -/
def readClass? (cs : List PatternChar) : Option (Member × List PatternChar) :=
  match cs with
  | ⟨':', false⟩ :: cs =>
    let name := cs.takeWhile fun c => c.char.isAlpha
    match cs.drop name.length with
    | ⟨':', false⟩ :: ⟨']', false⟩ :: rest =>
      (class? (String.ofList (name.map (·.char)))).map fun holds => (.class_ holds, rest)
    | _ => none
  | _ => none

/-- The members of brackets from their first character on, and what follows the closing bracket;
`fuel` bounds their number. -/
def readMembers? : (fuel : Nat) → List PatternChar → Option (List Member × List PatternChar)
  | 0, _ | _, [] => none
  | fuel + 1, c :: cs =>
    let single : Member × List PatternChar :=
      match cs with
      | ⟨'-', false⟩ :: d :: rest =>
        if d = PatternChar.mk ']' false then (.range c.char c.char, cs)
        else (.range c.char d.char, rest)
      | cs => (.range c.char c.char, cs)
    let (member, rest) :=
      if c = PatternChar.mk '[' false then (readClass? cs).getD single else single
    match rest with
    | ⟨']', false⟩ :: rest => some ([member], rest)
    | rest => (readMembers? fuel rest).map fun (members, rest) => (member :: members, rest)

/-- Brackets in front, behind the opening one, and what follows them. -/
def readBrackets? (cs : List PatternChar) : Option (Wild × List PatternChar) :=
  match cs with
  | ⟨c, false⟩ :: rest =>
    if c = '!' then
      (readMembers? rest.length rest).map fun (members, rest) => (.oneOf true members, rest)
    else (readMembers? cs.length cs).map fun (members, rest) => (.oneOf false members, rest)
  | cs => (readMembers? cs.length cs).map fun (members, rest) => (.oneOf false members, rest)

/-- The parts of a pattern; `fuel` bounds its length. -/
def readWithin : (fuel : Nat) → List PatternChar → List Wild
  | 0, _ | _, [] => []
  | fuel + 1, ⟨c, isQuoted⟩ :: cs =>
    if isQuoted then .only c :: readWithin fuel cs
    else if c = '*' then .many :: readWithin fuel cs
    else if c = '?' then .any :: readWithin fuel cs
    else if c = '[' then
      match readBrackets? cs with
      | some (wild, rest) => wild :: readWithin fuel rest
      | none => .only c :: readWithin fuel cs
    else .only c :: readWithin fuel cs

/-- The parts of a pattern. -/
def read (cs : List PatternChar) : List Wild :=
  readWithin cs.length cs

/-- Whether a pattern has to be matched: something in it stands for more than itself. -/
def isWild (cs : List PatternChar) : Bool :=
  (read cs).any fun
    | .only _ => false
    | _ => true

end Pattern

/-- The place of a character in ranges: octets beyond 127 stand in front of the others. -/
def rank (c : Char) : Int :=
  if 127 < c.toNat then c.toNat - 256 else c.toNat

/-- Whether a member of brackets holds a character. -/
def Member.holds (c : Char) : Member → Bool
  | .range first last => rank first ≤ rank c && rank c ≤ rank last
  | .class_ holds => holds c

/-- Whether a part of a pattern stands for one character. -/
def Wild.holds (c : Char) : Wild → Bool
  | .only d => c = d
  | .any => true
  | .many => false
  | .oneOf isInverted members => members.any (·.holds c) != isInverted

/-- Whether a pattern matches a whole text. -/
def isMatch : List Wild → List Char → Bool
  | [], cs => cs.isEmpty
  | .many :: ps, [] => isMatch ps []
  | .many :: ps, c :: cs => isMatch ps (c :: cs) || isMatch (.many :: ps) cs
  | _ :: _, [] => false
  | p :: ps, c :: cs => p.holds c && isMatch ps cs
termination_by ps cs => (ps.length, cs.length)

/-- The characters of an unquoted backslash and what it quotes, read as a pattern. -/
def quoteBackslashed : List PatternChar → List PatternChar
  | ⟨'\\', false⟩ :: c :: cs => ⟨c.char, true⟩ :: quoteBackslashed cs
  | c :: cs => c :: quoteBackslashed cs
  | [] => []

/-! ### Beginnings and endings -/

/-- What stands in a text for a gap between operands, at which a pattern stops reading. -/
def gapMark : Char := '\x00'

/-- A text up to its first gap. -/
def upToGap (cs : List Char) : List Char :=
  cs.takeWhile (· ≠ gapMark)

/-- A text without the shortest or the longest beginning that a pattern matches. The shortest is
looked for in front of the first gap. -/
def withoutBeginning (isLongest : Bool) (pattern : List Wild) (cs : List Char) : List Char :=
  let lengths :=
    if isLongest then (List.range (cs.length + 1)).reverse
    else List.range ((upToGap cs).length + 1)
  match lengths.find? fun n => isMatch pattern (upToGap (cs.take n)) with
  | some n => cs.drop n
  | none => cs

/-- A text without the shortest or the longest ending that a pattern matches. The longest is looked
for in front of the first gap. -/
def withoutEnding (isLongest : Bool) (pattern : List Wild) (cs : List Char) : List Char :=
  let lengths :=
    if isLongest then List.range ((upToGap cs).length + 1)
    else (List.range (cs.length + 1)).reverse
  match lengths.find? fun n => isMatch pattern (upToGap (cs.drop n)) with
  | some n => cs.take n
  | none => cs

end Shell

end Toolbox

end SnapshotSuite
