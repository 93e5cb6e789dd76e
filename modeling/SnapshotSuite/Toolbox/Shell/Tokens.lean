import SnapshotSuite.Toolbox.Shell.Words
/-!
# Tokens of scripts

Signs, words and the beginnings of redirections. Whether a word is a keyword or an alias, and
whether ends of lines count, depends on what is being read. Documents are read where the line ends
that announced them.
-/

namespace SnapshotSuite

namespace Toolbox

namespace Shell

/-- The words that can have a meaning of their own. -/
def keywords : List Octets :=
  ["!", "case", "do", "done", "elif", "else", "esac", "fi", "for", "if", "in", "then", "until",
    "while", "\x7b", "\x7d"]

/-- What tokens are taken for. -/
structure Expectation where
  /-- Whether ends of lines are passed over. -/
  skipsLines : Bool
  /-- Whether keywords are recognized. -/
  hasKeywords : Bool
  /-- Whether aliases are replaced. -/
  hasAliases : Bool
  /-- Whether a word is the ending of a document. -/
  isEnding : Bool
deriving DecidableEq, Repr

namespace Expectation

/-- Plain words. -/
def words : Expectation := ⟨false, false, false, false⟩

/-- The beginning of a command. -/
def command : Expectation := ⟨false, true, true, false⟩

/-- The beginning of a command, perhaps some lines further. -/
def commandBelow : Expectation := ⟨true, true, true, false⟩

end Expectation

namespace Reader

/-! ### Documents -/

/-- The first line of a text, and the text behind it. -/
def cutLine (cs : List Char) : List Char × List Char :=
  (cs.takeWhile (· ≠ '\n'), (cs.dropWhile (· ≠ '\n')).drop 1)

/-- Whether a line goes on behind a backslash at its end. -/
def goesOn (line : List Char) : Bool :=
  (line.reverse.takeWhile (· = '\\')).length % 2 = 1

/-- The lines of a document up to its ending, how many of them have ended, and the text behind them;
`fuel` bounds the length. -/
def documentLines (document : AwaitedDocument) :
    (fuel : Nat) → (isJoined : Bool) → List Char → List Char × Nat × List Char
  | 0, _, cs => ([], 0, cs)
  | _, _, [] => ([], 0, [])
  | fuel + 1, isJoined, c :: cs =>
    let (line, rest) := cutLine (c :: cs)
    let line := if document.isIndented ∧ !isJoined then line.dropWhile (· = '\t') else line
    if !isJoined ∧ line = document.ending.toList then ([], 1, rest)
    else
      let isJoined := !document.isLiteral && goesOn line
      let ending := if (c :: cs).contains '\n' then ['\n'] else []
      let (lines, count, rest) := documentLines document fuel isJoined rest
      (line ++ ending ++ lines, count + ending.length, rest)

/-- Reads a document. -/
def readDocument (script : Reader Command) (document : AwaitedDocument) : Reader Unit := do
  let cs ← rest
  let (text, count, rest) := documentLines document (cs.length + 1) false cs
  let line := (← get).line
  let word ←
    if document.isLiteral then pure (text.map Piece.escaped)
    else do
      setRest text
      modify fun source => { source with pushed := none }
      wordPart script .document
  modify fun source =>
    { source with
      rest, line := line + count
      documents := source.documents.setIfInBounds document.index word }

/-- Reads the documents that are waited for. -/
def readDocuments (script : Reader Command) : Reader Unit := do
  let awaited := (← get).awaited
  modify fun source => { source with awaited := [] }
  awaited.forM (readDocument script)

/-! ### Tokens -/

/-- Passes over blanks, joined lines and a comment. -/
def skipBlanks : Reader Unit :=
  iterate (fun () => do
    match ← peek? with
    | some ' ' | some '\t' =>
      let _ ← next?
      return .inl ()
    | some '#' =>
      setRest ((← rest).dropWhile (· ≠ '\n'))
      return .inr ()
    | _ => return .inr ()) ()

/-- What a redirection sign announces, for a descriptor if one stood in front. -/
def announcement (descriptor : Option Nat) (c : Char) : Reader Announcement := do
  if c = '>' then
    let descriptor := descriptor.getD 1
    if ← accept '>' then return .file descriptor .append
    else if ← accept '|' then return .file descriptor .force
    else if ← accept '&' then return .duplicate descriptor
    else return .file descriptor .write
  else
    let descriptor := descriptor.getD 0
    if ← accept '<' then return .document descriptor (← accept '-')
    else if ← accept '&' then return .duplicate descriptor
    else if ← accept '>' then return .file descriptor .both
    else return .file descriptor .read

/-- A word, or the redirection that begins with a descriptor and a sign. -/
def wordToken (script : Reader Command) (isEnding : Bool) : Reader Token := do
  let word ← wordPart script (.bare isEnding)
  match (← rest).head?, word with
  | some c, [] =>
    let _ ← next?
    return .redirection (← announcement none c)
  | some c, [.char d] =>
    if d.isDigit ∧ (c = '<' ∨ c = '>') then
      let _ ← next?
      return .redirection (← announcement (some (d.toNat - 48)) c)
    else return .word word false
  | _, word => return .word word (isQuotedWord word)

/-- The next token, taken as it stands. -/
def rawToken (script : Reader Command) (isEnding : Bool) : Reader Token := do
  skipBlanks
  match ← peek? with
  | none => return .finish
  | some '\n' =>
    let _ ← next?
    return .newline
  | some c =>
    if c = '&' ∨ c = '|' ∨ c = ';' then
      let _ ← next?
      return .sign (if ← accept c then String.ofList [c, c] else c.toString)
    else if c = '(' ∨ c = ')' then
      let _ ← next?
      return .sign c.toString
    else wordToken script isEnding

/-- Whether the word that comes next can be an alias because of one that ends in front of it. Blanks
are passed over to find that out. -/
def isLedOn : Reader Bool := do
  if (← get).pushed.isSome then return false
  else
    skipBlanks
    let source ← get
    let (ended, opened) := source.openAliases.partition (source.rest.length ≤ ·.behind)
    set { source with openAliases := opened }
    return ended.any (·.leadsOn)

/-- The next token, or the one that was put back. -/
def someToken (script : Reader Command) (isEnding : Bool) : Reader Token := do
  match (← get).pushed with
  | some token =>
    modify fun source => { source with pushed := none }
    return token
  | none => rawToken script isEnding

/-- Puts the text of an alias in front, unless it is being read. -/
def replaceAlias (name : Octets) : Reader Bool := do
  let source ← get
  match source.aliases.lookup name with
  | some text =>
    if source.openAliases.any (·.name = name) then return false
    else
      let leadsOn := (text.toList.getLast?).any fun c => c = ' ' || c = '\t'
      set { source with
        rest := text.toList ++ source.rest
        openAliases := ⟨name, source.rest.length, leadsOn⟩ :: source.openAliases }
      return true
  | none => return false

/-- The next token, taken for what is expected. -/
def token (script : Reader Command) (expectation : Expectation) : Reader Token :=
  iterate (fun hasAliases => do
    let isLedOn ← isLedOn
    match ← someToken script expectation.isEnding with
    | .newline =>
      if expectation.skipsLines then
        readDocuments script
        return .inl hasAliases
      else return .inr .newline
    | .word word isQuoted =>
      match if isQuoted then none else plainText? word with
      | some text =>
        if expectation.hasKeywords ∧ keywords.contains text then return .inr (.keyword text)
        else if hasAliases || isLedOn then
          if ← replaceAlias text then return .inl true else return .inr (.word word isQuoted)
        else return .inr (.word word isQuoted)
      | none => return .inr (.word word isQuoted)
    | token => return .inr token) expectation.hasAliases

end Reader

end Shell

end Toolbox

end SnapshotSuite
