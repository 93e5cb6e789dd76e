import SnapshotSuite.Toolbox.Shell.Syntax
/-!
# Reading the text of a script

A source is the text that is still to be read, with the number of its line. A token can be put back.
Documents that were announced in a line are waited for until the line ends.
-/

namespace SnapshotSuite

namespace Toolbox

namespace Shell

/-- What a redirection says before the word that it goes with. -/
inductive Announcement where
  /-- A file. -/
  | file (descriptor : Nat) (opening : Opening)
  /-- Another descriptor. -/
  | duplicate (descriptor : Nat)
  /-- A document, whose lines may be indented with tabs. -/
  | document (descriptor : Nat) (isIndented : Bool)
deriving DecidableEq, Repr

/-- A token. -/
inductive Token where
  /-- The end of the text. -/
  | finish
  /-- The end of a line. -/
  | newline
  /-- A sign. -/
  | sign (s : String)
  /-- The beginning of a redirection. -/
  | redirection (announcement : Announcement)
  /-- A word, and whether something in it is quoted. -/
  | word (pieces : Word) (isQuoted : Bool)
  /-- A word that has a meaning of its own. -/
  | keyword (s : Octets)

/-- A document that is waited for. -/
structure AwaitedDocument where
  /-- Its index. -/
  index : Nat
  /-- The line that ends it. -/
  ending : Octets
  /-- Whether tabs in front of its lines are left out. -/
  isIndented : Bool
  /-- Whether it is taken as it stands. -/
  isLiteral : Bool

/-- An alias that is being read: it is not replaced again before so much of the text is left. -/
structure OpenAlias where
  /-- Its name. -/
  name : Octets
  /-- The length of the text behind it. -/
  behind : Nat
  /-- Whether the word behind it can be an alias, too. -/
  leadsOn : Bool

/-- Text that is being read. -/
structure Source where
  /-- What is left of it. -/
  rest : List Char
  /-- The number of the line. -/
  line : Nat
  /-- A token that was put back. -/
  pushed : Option Token
  /-- The documents that are waited for. -/
  awaited : List AwaitedDocument
  /-- The documents that have been read, and empty ones for those that have not. -/
  documents : Array Word
  /-- The aliases. -/
  aliases : List (Octets × Octets)
  /-- The aliases that are being read. -/
  openAliases : List OpenAlias

namespace Source

/-- A text from its start. -/
def ofText (cs : List Char) (documents : Array Word) (aliases : List (Octets × Octets)) : Source :=
  ⟨cs, 1, none, [], documents, aliases, []⟩

end Source

/-- What is wrong with a script, and in which line. -/
structure SyntaxFault where
  /-- The line. -/
  line : Nat
  /-- What is wrong. -/
  complaint : Octets
deriving DecidableEq, Repr

/-- Reads something off a source. -/
abbrev Reader := StateT Source (Except SyntaxFault)

namespace Reader

/-- Fails where the reading stands. -/
def fail {α : Type} (complaint : Octets) : Reader α := do
  throw ⟨(← get).line, complaint⟩

/-- What is left of the text. -/
def rest : Reader (List Char) := do
  return (← get).rest

/-- Sets what is left of the text. -/
def setRest (cs : List Char) : Reader Unit :=
  modify fun source => { source with rest := cs }

/-- Takes the next character. -/
def next? : Reader (Option Char) := do
  match ← rest with
  | [] => return none
  | c :: cs =>
    modify fun source =>
      { source with rest := cs, line := if c = '\n' then source.line + 1 else source.line }
    return some c

/-- Lines that a backslash joins, in front: how many there are. -/
def joints : List Char → Nat
  | '\\' :: '\n' :: cs => joints cs + 1
  | _ => 0

/-- Joins the lines that a backslash joins in front. -/
def join : Reader Unit :=
  modify fun source =>
    let n := joints source.rest
    { source with rest := source.rest.drop (2 * n), line := source.line + n }

/-- The next character, which is not taken; lines that a backslash joins are joined. -/
def peek? : Reader (Option Char) := do
  join
  return (← rest).head?

/-- Takes the next character behind joined lines. -/
def nextJoined? : Reader (Option Char) := do
  join
  next?

/-- Takes the next character if it is a certain one. -/
def accept (c : Char) : Reader Bool := do
  if (← peek?) = some c then
    let _ ← next?
    return true
  else return false

/-- Puts a token back. -/
def putBack (token : Token) : Reader Unit :=
  modify fun source => { source with pushed := some token }

/-- Takes a step again and again, until it gives a result. Every step takes something, so that the
length of what is left bounds their number. -/
def iterate {σ α : Type} (step : σ → Reader (σ ⊕ α)) (start : σ) : Reader α := do
  go (2 * (← rest).length + 8) start
where
  /-- Takes at most `fuel` steps. -/
  go : (fuel : Nat) → σ → Reader α
    | 0, _ => fail "text too long"
    | fuel + 1, s => do
      match ← step s with
      | .inl s => go fuel s
      | .inr a => return a

end Reader

/-- The name of a token in complaints. -/
def Token.name : Token → Octets
  | .finish => "end of file"
  | .newline => "newline"
  | .sign s => "\"" ++ s ++ "\""
  | .redirection _ => "redirection"
  | .word _ _ => "word"
  | .keyword s => "\"" ++ s ++ "\""

/-- Fails because of a token, where another one may be needed. -/
def Token.unexpected {α : Type} (token : Token) (wanted : Option Token) : Reader α :=
  Reader.fail (token.name ++ " unexpected" ++
    match wanted with
    | some other => " (expecting " ++ other.name ++ ")"
    | none => "")

end Shell

end Toolbox

end SnapshotSuite
