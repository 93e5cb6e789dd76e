import SnapshotSuite.Toolbox.Shell.Tokens
/-!
# Reading commands

Commands are read line by line, since a line is carried out before the next one is read. Lists of
commands stand in one another: the reader of an inner list is a parameter of everything else.
-/

namespace SnapshotSuite

namespace Toolbox

namespace Shell

/-- Where a list of commands stands. -/
inductive Place where
  /-- In a script, where the end of a line ends it. -/
  | line
  /-- Inside a command, where there has to be one command. -/
  | inside
  /-- Inside a command, where there may be none. -/
  | optional
deriving DecidableEq, Repr

/-- The commands that a function may not replace. -/
def specialNames : List Octets :=
  [".", ":", "break", "continue", "eval", "exec", "exit", "export", "local", "readonly", "return",
    "set", "shift", "times", "trap", "unset"]

/-- Whether a token ends a list of commands. -/
def Token.endsList : Token → Bool
  | .finish => true
  | .sign s => s = ")" || s = ";;"
  | .keyword s =>
    ["do", "done", "elif", "else", "esac", "fi", "then", "\x7d"].contains s
  | _ => false

/-- Whether a token is a sign. -/
def Token.isSign (token : Token) (s : String) : Bool :=
  match token with
  | .sign other => other = s
  | _ => false

/-- Whether a token is a keyword. -/
def Token.isKeyword (token : Token) (s : String) : Bool :=
  match token with
  | .keyword other => other = s
  | _ => false

/-- The word that a token is, whatever it is taken for. -/
def Token.pieces : Token → Word
  | .word pieces _ => pieces
  | .keyword s => plainWord s
  | _ => []

/-- A command with another one behind it. -/
def Command.before (first second : Command) : Command :=
  if first.isNothing then second else .sequence first second

namespace Reader

section

variable (list : Place → Reader Command)

/-- A token, taken for what is expected. -/
def read (expectation : Expectation) : Reader Token :=
  token (list .optional) expectation

/-- Reads a token that has to be a certain keyword. -/
def readKeyword (expectation : Expectation) (s : String) : Reader Unit := do
  let token ← read list expectation
  unless token.isKeyword s do token.unexpected (some (.keyword s))

/-! ### Redirections and calls -/

/-- The redirection that was announced, with its word. -/
def redirection (announcement : Announcement) : Reader Redirection := do
  let isEnding := announcement matches .document ..
  match ← read list { Expectation.words with isEnding } with
  | .word word isQuoted =>
    match announcement with
    | .file descriptor opening => return .file descriptor opening word
    | .duplicate descriptor => return .duplicate descriptor word
    | .document descriptor isIndented =>
      let source ← get
      let document : AwaitedDocument :=
        ⟨source.documents.size, literalText word, isIndented, isQuoted⟩
      set { source with
        documents := source.documents.push []
        awaited := source.awaited ++ [document] }
      return .document descriptor document.index
  | token => token.unexpected none

/-- Redirections behind a command. -/
def redirections : Reader (List Redirection) :=
  iterate (fun (found, expectation) => do
    match ← read list expectation with
    | .redirection announcement =>
      return .inl ((← redirection list announcement) :: found, Expectation.words)
    | token =>
      putBack token
      return .inr found.reverse) ([], Expectation.command)

/-- A call as far as it has been read, the last parts first. -/
structure Call where
  /-- The assignments. -/
  assignments : List Word
  /-- The words. -/
  words : List Word
  /-- The redirections. -/
  redirections : List Redirection

/-- A function with a name and a body. -/
def function (command : Expectation → Reader Command) (name : Word) : Reader Command := do
  let token ← read list .words
  unless token.isSign ")" do token.unexpected (some (.sign ")"))
  match (plainText? name).filter fun s => isName s && !specialNames.contains s with
  | none => fail "Bad function name"
  | some s =>
    let line := (← get).line
    return .define line s (← command .commandBelow)

/-- A call, or the definition of a function. -/
def call (command : Expectation → Reader Command) : Reader Command := do
  let line := (← get).line
  iterate (fun (call : Call) => do
    let finished : Command :=
      .simple line call.assignments.reverse call.words.reverse call.redirections.reverse
    let expectation := { Expectation.words with hasAliases := call.words = [] }
    match ← read list expectation with
    | .word word _ =>
      if call.words.isEmpty ∧ isAssignment word then
        return .inl { call with assignments := word :: call.assignments }
      else return .inl { call with words := word :: call.words }
    | .redirection announcement =>
      return .inl { call with
        redirections := (← redirection list announcement) :: call.redirections }
    | token =>
      match call with
      | ⟨[], [name], []⟩ =>
        if token.isSign "(" then return .inr (← function list command name)
        else
          putBack token
          return .inr finished
      | _ =>
        putBack token
        return .inr finished) (Call.mk [] [] [])

/-! ### Compound commands -/

/-- What stands behind `if` or `elif`, up to `fi`. -/
def choice : Reader Command := do
  let branches ← iterate (fun branches => do
    let condition ← list .inside
    readKeyword list .words "then"
    let yes ← list .inside
    let branches := (condition, yes) :: branches
    let token ← read list .words
    if token.isKeyword "elif" then return .inl branches
    else if token.isKeyword "else" then return .inr (branches, ← list .inside)
    else
      putBack token
      return .inr (branches, Command.nothing)) []
  let (branches, no) := branches
  readKeyword list .words "fi"
  return branches.foldl (fun no (condition, yes) => .choice condition yes no) no

/-- The words that a repetition goes through, up to `do`. -/
def eachWords : Reader (List Word) := do
  let token ← read list .commandBelow
  if token.isKeyword "in" then
    iterate (fun words => do
      match ← read list .words with
      | .word word _ => return .inl (word :: words)
      | .newline => return .inr words.reverse
      | token => if token.isSign ";" then return .inr words.reverse else token.unexpected none) []
  else
    unless token.isSign ";" do putBack token
    return [[.operands]]

/-- What stands behind `for`. -/
def each (line : Nat) : Reader Command := do
  match ← read list .words with
  | .word word isQuoted =>
    match (plainText? word).filter fun s => isName s && !isQuoted with
    | none => fail "Bad for loop variable"
    | some name =>
      let words ← eachWords list
      readKeyword list .commandBelow "do"
      let body ← list .inside
      readKeyword list .words "done"
      return .each line name words body
  | _ => fail "Bad for loop variable"

/-- The patterns of an arm, from its first token to the parenthesis. -/
def patterns (first : Token) : Reader (List Word) := do
  let first ← if first.isSign "(" then read list .words else pure first
  iterate (fun (found, pattern) => do
    let found := Token.pieces pattern :: found
    let token ← read list .words
    if token.isSign "|" then return .inl (found, ← read list .words)
    else if token.isSign ")" then return .inr found.reverse
    else token.unexpected (some (.sign ")"))) ([], first)

/-- The arms behind `in`, up to `esac`. -/
def arms : Reader (List Arm) := do
  let expectation : Expectation := ⟨true, true, false, false⟩
  iterate (fun (found, token) => do
    if Token.isKeyword token "esac" then return .inr found.reverse
    else
      let patterns ← patterns list token
      let body ← list .optional
      let found := Arm.mk patterns body :: found
      let token ← read list expectation
      if token.isKeyword "esac" then return .inr found.reverse
      else if token.isSign ";;" then return .inl (found, ← read list expectation)
      else token.unexpected (some (.sign ";;"))) ([], ← read list expectation)

/-- What stands behind `case`. -/
def select (line : Nat) : Reader Command := do
  match ← read list .words with
  | .word subject _ =>
    let token ← read list .commandBelow
    unless token.isKeyword "in" do token.unexpected (some (.keyword "in"))
    return .select line subject (← arms list)
  | token => token.unexpected (some (.word [] false))

/-- What stands behind `while` or `until`. -/
def loop (isUntil : Bool) : Reader Command := do
  let condition ← list .inside
  readKeyword list .words "do"
  let body ← list .inside
  readKeyword list .words "done"
  return .loop isUntil condition body

/-- A compound command that begins with a token, if there is one. -/
def compound? (line : Nat) (first : Token) : Reader (Option Command) := do
  match first with
  | .sign "(" =>
    let command ← list .inside
    let token ← read list .words
    unless token.isSign ")" do token.unexpected (some (.sign ")"))
    return some (.subshell line command [])
  | .keyword "\x7b" =>
    let command ← list .inside
    readKeyword list .words "\x7d"
    return some command
  | .keyword "if" => return some (← choice list)
  | .keyword "while" => return some (← loop list false)
  | .keyword "until" => return some (← loop list true)
  | .keyword "for" => return some (← each list line)
  | .keyword "case" => return some (← select list line)
  | _ => return none

/-- A command with the redirections behind it. -/
def withRedirections (line : Nat) (command : Command) : Reader Command := do
  match ← redirections list with
  | [] => return command
  | redirections =>
    match command with
    | .subshell line command _ => return .subshell line command redirections
    | command => return .redirected line command redirections

/-- A command; `fuel` bounds how many functions are defined in one another without braces. -/
def command : (fuel : Nat) → Expectation → Reader Command
  | 0, _ => fail "text too deep"
  | fuel + 1, expectation => do
    let first ← read list expectation
    let line := (← get).line
    match first with
    | .word .. | .redirection _ =>
      putBack first
      call list (command fuel)
    | first =>
      match ← compound? list line first with
      | some command => withRedirections list line command
      | none => first.unexpected none

/-- Commands that read from one another. -/
def pipeline (expectation : Expectation) : Reader Command := do
  let fuel := (← rest).length + 2
  let first ← read list expectation
  let isNegated := first.isKeyword "!"
  unless isNegated do putBack first
  let commands ← iterate (fun (found, expectation) => do
    let found := (← command list fuel expectation) :: found
    let token ← read list .words
    if token.isSign "|" then return .inl (found, Expectation.commandBelow)
    else
      putBack token
      return .inr found.reverse) ([], if isNegated then .command else .words)
  let pipe :=
    match commands with
    | [command] => command
    | commands => .pipe commands
  return if isNegated then .not pipe else pipe

/-- Pipelines that depend on one another. -/
def chain : Reader Command := do
  let first ← pipeline list .words
  iterate (fun first => do
    let token ← read list .words
    if token.isSign "&&" then return .inl (.and first (← pipeline list .commandBelow))
    else if token.isSign "||" then return .inl (.or first (← pipeline list .commandBelow))
    else
      putBack token
      return .inr first) first

/-- One more command of a list, or the list. -/
def listStep (place : Place) (state : Command × Bool) : Reader ((Command × Bool) ⊕ Command) := do
  let (commands, isLater) := state
  let token ← read list ⟨place ≠ .line, true, true, false⟩
  match token with
  | .newline =>
    readDocuments (list .optional)
    return .inr commands
  | .finish =>
    readDocuments (list .optional)
    putBack token
    return .inr commands
  | token =>
    putBack token
    if place ≠ .line ∧ (isLater ∨ place = .optional) ∧ token.endsList then return .inr commands
    else
      let line := (← get).line
      let next ← chain list
      let token ← read list .words
      if token.isSign "&" then return .inl (commands.before (.background line next), true)
      else
        let commands := commands.before next
        match token with
        | .finish =>
          readDocuments (list .optional)
          putBack token
          return .inr commands
        | .newline =>
          putBack token
          return .inl (commands, true)
        | token =>
          if token.isSign ";" then return .inl (commands, true)
          else if place = .line then token.unexpected none
          else
            putBack token
            return .inr commands

end

/-- A list of commands; `fuel` bounds how deep lists stand in one another. -/
def list : (fuel : Nat) → Place → Reader Command
  | 0, _ => fail "text too deep"
  | fuel + 1, place => iterate (listStep (list fuel) place) (.nothing, false)

/-- A text in which parameters and scripts can stand, like a document. -/
def text : Reader Word := do
  wordPart (list ((← rest).length + 2) .optional) .document

/-- The next line of a script, `none` at its end. -/
def line? : Reader (Option Command) := do
  modify fun source => { source with pushed := none }
  let command ← list ((← rest).length + 2) .line
  match (← get).pushed, command with
  | some .finish, .nothing => return none
  | _, command => return some command

end Reader

end Shell

end Toolbox

end SnapshotSuite
