import SnapshotSuite.Toolbox.Escape
import SnapshotSuite.Toolbox.Options
/-!
# Replacing bytes

Replaces, removes or squeezes bytes. The bytes are given as sets in an order: plain ones, ranges,
classes and repetitions. The bytes of a first set become those in the same places of a second one.
-/

namespace SnapshotSuite

namespace Toolbox

namespace Replacement

/-- A character of a set, which has no special meaning if a backslash stood before it. -/
structure SetChar where
  /-- The character. -/
  char : Char
  /-- Whether it stands for itself. -/
  isPlain : Bool
deriving DecidableEq, Repr

/-- The characters of a set with its escapes replaced; `fuel` bounds their number. -/
def unescaped : (fuel : Nat) → List Char → List SetChar
  | 0, _ | _, [] => []
  | fuel + 1, '\\' :: d :: cs =>
    let octal := Escape.digits 8 3 (d :: cs)
    let octal := if Escape.valueOf 8 octal < 256 then octal else octal.take 2
    if octal ≠ [] then
      ⟨Escape.octet (Escape.valueOf 8 octal), true⟩ ::
        unescaped fuel ((d :: cs).drop octal.length)
    else
      let plain := if d = 'e' then none else Escape.ofLetter? d
      ⟨plain.getD d, true⟩ :: unescaped fuel cs
  | fuel + 1, c :: cs => ⟨c, false⟩ :: unescaped fuel cs

/-- A part of a set. -/
inductive Part where
  /-- Some characters. -/
  | chars (cs : List Char)
  /-- The characters of a class. -/
  | ofClass (name : String)
  /-- A character so many times; as often as there is room for, if it is not said. -/
  | repeated (c : Char) (count : Option Nat)
deriving DecidableEq, Repr

/-- All bytes. -/
def allBytes : List Char :=
  (List.range 256).map Char.ofNat

/-- The characters of a class. -/
def classOf? (name : String) : Option (List Char) :=
  let members (isMember : Char → Bool) : Option (List Char) := some (allBytes.filter isMember)
  match name with
  | "alnum" => members Char.isAlphanum
  | "alpha" => members Char.isAlpha
  | "blank" => members fun c => c = ' ' || c = '\t'
  | "cntrl" => members fun c => c.toNat < 32 || c.toNat = 127
  | "digit" => members Char.isDigit
  | "graph" => members fun c => 32 < c.toNat && c.toNat < 127
  | "lower" => members Char.isLower
  | "print" => members fun c => 32 ≤ c.toNat && c.toNat < 127
  | "punct" => members fun c => 32 < c.toNat && c.toNat < 127 && !c.isAlphanum
  | "space" => members isSpaceOctet
  | "upper" => members Char.isUpper
  | "xdigit" => members fun c => (digitValue? 16 c).isSome
  | _ => none

/-- What stands between brackets with a sign inside, like a colon: the text, and what follows. -/
def enclosed? (sign : Char) (cs : List SetChar) : Option (List SetChar × List SetChar) :=
  match cs with
  | ⟨'[', false⟩ :: ⟨d, false⟩ :: rest => if d = sign then close [] rest else none
  | _ => none
where
  /-- Looks for the end of the text. -/
  close (text : List SetChar) : List SetChar → Option (List SetChar × List SetChar)
    | c :: d :: rest =>
      if c = ⟨sign, false⟩ ∧ d = ⟨']', false⟩ then some (text.reverse, rest)
      else close (c :: text) (d :: rest)
    | _ => none

/-- A repetition in brackets, and what follows it. -/
def repetition? (cs : List SetChar) : Option (Part × List SetChar) :=
  match cs with
  | ⟨'[', false⟩ :: c :: ⟨'*', false⟩ :: rest =>
    let digits := (rest.takeWhile (·.char.isDigit)).map (·.char)
    match rest.drop digits.length with
    | ⟨']', false⟩ :: after =>
      let base := if digits.head? = some '0' then 8 else 10
      let count := Escape.valueOf base digits
      some (.repeated c.char (if count = 0 then none else some count), after)
    | _ => none
  | _ => none

/-- The parts of a set, or what is wrong with it; `fuel` bounds their number. -/
def partsOf : (fuel : Nat) → List SetChar → Except Octets (List Part)
  | 0, _ | _, [] => .ok []
  | fuel + 1, c :: cs => do
    match enclosed? ':' (c :: cs), enclosed? '=' (c :: cs), repetition? (c :: cs) with
    | some (text, rest), _, _ =>
      let name := String.ofList (text.map (·.char))
      if (classOf? name).isNone then
        throw ("invalid character class " ++ shownWord name)
      return .ofClass name :: (← partsOf fuel rest)
    | none, some ([member], rest), _ => return .chars [member.char] :: (← partsOf fuel rest)
    | none, _, some (part, rest) => return part :: (← partsOf fuel rest)
    | none, _, none =>
      match cs with
      | ⟨'-', false⟩ :: last :: rest =>
        if last.char < c.char then
          throw ("range-endpoints of \x27" ++ String.ofList [c.char, '-', last.char] ++
            "\x27 are in reverse collating sequence order")
        let range := allBytes.filter fun d => decide (c.char ≤ d) && decide (d ≤ last.char)
        return .chars range :: (← partsOf fuel rest)
      | _ => return .chars [c.char] :: (← partsOf fuel cs)

/-- The parts of a set as it is written. -/
def parse (s : Octets) : Except Octets (List Part) :=
  partsOf (s.length + 1) (unescaped (s.length + 1) s.toList)

/-- The characters of parts; what repeats without end does so as often as it is told. -/
def expand (room : Nat) (parts : List Part) : List Char :=
  parts.flatMap fun
    | .chars cs => cs
    | .ofClass name => (classOf? name).getD []
    | .repeated c count => List.replicate (count.getD room) c

/-- The characters of a second set, made as long as the first one. -/
def target (isCut : Bool) (length : Nat) (parts : List Part) : List Char :=
  let room := length - (expand 0 parts).length
  let cs := expand room parts
  if isCut then cs
  else cs ++ List.replicate (length - cs.length) (cs.getLast?.getD '\x00')

/-- Characters with the repetitions of some left out. -/
def squeeze (isSqueezed : Char → Bool) : List Char → List Char
  | [] => []
  | c :: cs =>
    match squeeze isSqueezed cs with
    | [] => [c]
    | d :: ds => if c = d ∧ isSqueezed c then d :: ds else c :: d :: ds

/-- Whether a set ends in a backslash that no other one escapes. -/
def endsInEscape (s : Octets) : Bool :=
  (s.toList.reverse.takeWhile (· = '\\')).length % 2 = 1

/-- What is wrong with the number of operands, if anything, and what more there is to say. -/
def operandFault? (deletes squeezes : Bool) (operands : List Octets) :
    Option (Octets × Option Octets) :=
  match operands with
  | [] => some ("missing operand", none)
  | [a] =>
    if deletes ∧ squeezes then
      some ("missing operand after " ++ shownWord a,
        some "Two strings must be given when both deleting and squeezing repeats.")
    else if deletes ∨ squeezes then none
    else
      some ("missing operand after " ++ shownWord a,
        some "Two strings must be given when translating.")
  | [_, b] =>
    if deletes ∧ !squeezes then
      some ("extra operand " ++ shownWord b,
        some "Only one string may be given when deleting without squeezing repeats.")
    else none
  | _ :: _ :: c :: _ => some ("extra operand " ++ shownWord c, none)

/-- What the tool does to characters, or what is wrong with its operands. -/
def function (arguments : Arguments) : Except Octets (List Char → List Char) := do
  let deletes := arguments.has 'd'
  let squeezes := arguments.has 's'
  let isComplement := arguments.has 'c' || arguments.has 'C'
  let given ← parse (arguments.operands.head?.getD "")
  if given.any fun part => part matches .repeated _ none then
    throw "the [c*] repeat construct may not appear in string1"
  let members := expand 0 given
  let first := if isComplement then allBytes.filter (!members.contains ·) else members
  match arguments.operands.tail with
  | [] =>
    if deletes then return List.filter (!first.contains ·)
    else return squeeze first.contains
  | other :: _ =>
    let second ← parse other
    if deletes then
      let second := expand 0 second
      return fun cs => squeeze second.contains (cs.filter (!first.contains ·))
    else
      if second.any (fun | .ofClass name => name ≠ "upper" && name ≠ "lower" | _ => false) then
        throw ("when translating, the only character classes that may appear in\n" ++
          "string2 are \x27upper\x27 and \x27lower\x27")
      let isCut := arguments.has 't'
      let second := target isCut first.length second
      if second = [] ∨ (expand 1 (← parse other) = [] ∧ !isCut) then
        throw "when not truncating set1, string2 must be non-empty"
      let pairs := (first.zip second).reverse
      let replaced := List.map fun c => (pairs.lookup c).getD c
      return fun cs => if squeezes then squeeze second.contains (replaced cs) else replaced cs

end Replacement

open Replacement in
/-- Replaces, removes or squeezes bytes of what it reads. -/
def tr : Tool := withLeadingOptions
    [⟨'c', "complement", false⟩, ⟨'C', "", false⟩, ⟨'d', "delete", false⟩,
      ⟨'s', "squeeze-repeats", false⟩, ⟨'t', "truncate-set1", false⟩] fun name arguments => do
  match operandFault? (arguments.has 'd') (arguments.has 's') arguments.operands with
  | some (complaint, explanation) =>
    Job.complain (name ++ ": " ++ complaint)
    explanation.forM Job.complain
    complaining 1 ("Try \x27" ++ name ++ " --help\x27 for more information.")
  | none =>
    if arguments.operands.any endsInEscape then
      Job.complain (name ++
        ": warning: an unescaped backslash at end of string is not portable")
    match function arguments with
    | .error complaint => complaining 1 (name ++ ": " ++ complaint)
    | .ok function =>
      match ← Job.readAll 0 with
      | .error error => complaining 1 (name ++ ": read error: " ++ error.words)
      | .ok bs =>
        Job.print (String.ofList (function (Octets.charsOf bs)))
        return .code 0

end Toolbox

end SnapshotSuite
