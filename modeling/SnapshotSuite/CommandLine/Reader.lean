import SnapshotSuite.CommandLine.Switch
/-!
# Reading command lines

Words are read from the left, first those of the program, then, from the name of a command on,
those of the command. The shared switches may stand in either part, and in both: then the later one
counts. What no word says is taken from the environment. Of several faults the first in this order
counts, which matters only beside a call for help or for the version.
-/

namespace SnapshotSuite

namespace CommandLine

/-- The words of a switch: its name or letter with what is attached to it. -/
inductive Shape where
  /-- A long name, perhaps with a value behind an equals sign. -/
  | long (name : String) (value : Option String)
  /-- Letters, perhaps with a value behind the last one that counts. -/
  | letters (cs : List Char)
  /-- Two dashes alone: no switches follow. -/
  | stop
  /-- Anything else, a single dash included. -/
  | word
deriving DecidableEq, Repr

/-- A text cut at its first equals sign. -/
def cutAtEquals (cs : List Char) : String × Option String :=
  (String.ofList (cs.takeWhile (· ≠ '=')),
    match cs.dropWhile (· ≠ '=') with
    | [] => none
    | _ :: value => some (String.ofList value))

/-- The shape of a word. -/
def shape (word : String) : Shape :=
  match word.toList with
  | ['-', '-'] => .stop
  | '-' :: '-' :: cs => .long (cutAtEquals cs).1 (cutAtEquals cs).2
  | '-' :: c :: cs => .letters (c :: cs)
  | _ => .word

/-- Whether a word can be the value of a switch before it. -/
def isValue (word : String) : Bool :=
  shape word = .word

/-- The part of a command line that belongs to one name. -/
structure Part where
  /-- The program, or the program and a command. -/
  name : String
  /-- The switches that it understands. -/
  switches : List Switch
  /-- How many words it takes besides switches. -/
  room : Nat
  /-- The words with which the next part begins. -/
  commands : List String

namespace Part

/-- One word more, if there is room for it. -/
def addWord (part : Part) (given : Given) (word : String) : Except Refusal Given :=
  if given.words.length < part.room then .ok { given with words := given.words ++ [word] }
  else .error .usage

end Part

/-- What has been read, and the switch that still waits for its value. -/
abbrev Progress := Given × Option Switch

/-- Reads a long name with what is attached. -/
def Part.readLong (part : Part) (given : Given) (name : String) (value : Option String) :
    Except Refusal Progress :=
  match part.switches.find? (·.longName = name), value with
  | none, _ => .error .usage
  | some switch, some value =>
    if switch.takesValue then (given.add part.name switch value).map (·, none) else .error .usage
  | some switch, none =>
    if switch.takesValue then .ok (given, some switch)
    else (given.add part.name switch "").map (·, none)

/-- The value behind a letter; an equals sign between them does not count. -/
def attached : List Char → String
  | '=' :: cs => String.ofList cs
  | cs => String.ofList cs

/-- Reads letters. All of them are flags, except perhaps the last one that counts. -/
def Part.readLetters (part : Part) (given : Given) : List Char → Except Refusal Progress
  | [] => .ok (given, none)
  | c :: cs =>
    match part.switches.find? (·.letter? = some c) with
    | none => .error .usage
    | some switch =>
      if switch.takesValue then
        if cs = [] then .ok (given, some switch)
        else (given.add part.name switch (attached cs)).map (·, none)
      else
        match given.add part.name switch "" with
        | .error refusal => .error refusal
        | .ok given => part.readLetters given cs

/-- Reads the words of a part up to the first of the next part, which stays in what is left. -/
def Part.read (part : Part) (given : Given) :
    List String → Except Refusal (Given × List String)
  | [] => .ok (given, [])
  | word :: words => do
    let (given, waiting) ←
      match shape word with
      | .long name value => part.readLong given name value
      | .letters cs => part.readLetters given cs
      | .stop => return (← words.foldlM part.addWord given, [])
      | .word =>
        if word ∈ part.commands then return (given, word :: words)
        else (part.addWord given word).map (·, none)
    match waiting, words with
    | none, words => part.read given words
    | some _, [] => .error .usage
    | some switch, value :: words =>
      if isValue value then part.read (← given.add part.name switch value) words
      else .error .usage

/-! ### The environment -/

/-- A flag that the environment sets: no variable, or one of two words. -/
def flagOf? : Option String → Option Bool
  | none => some false
  | some "true" => some true
  | some "false" => some false
  | some _ => none

/-- A file that the environment names: no variable, or one that is not empty. -/
def fileOf? : Option String → Option (Option Path)
  | none => some none
  | some path => if path = "" then none else some (some path)

/-- What the two parts of a command line and the environment say about a switch. The variable
counts for a part that does not have the switch, and there it has to be well formed. -/
def merge {α : Type} (outer inner fallback : Option α) : Option α :=
  match outer, inner, fallback with
  | some _, some value, _ => some value
  | _, _, none => none
  | _, some value, _ => some value
  | some value, none, _ => some value
  | none, none, some value => some value

/-- Whether a flag is set. -/
def flag? (outer inner : Given) (switch : Switch) (setting : Option String) : Option Bool :=
  let given (part : Given) : Option Bool := if part.has switch then some true else none
  merge (given outer) (given inner) (flagOf? setting)

/-- The file that a switch names. -/
def file? (outer inner : Given) (switch : Switch) (setting : Option String) :
    Option (Option Path) :=
  merge ((outer.value? switch).map some) ((inner.value? switch).map some) (fileOf? setting)

/-! ### Commands -/

/-- The name of the program. -/
def programName : String := "jsxsnap"

/-- The words of the program itself. -/
def programPart : Part := ⟨programName, Switch.shared, 0, ["run", "list", "resolve", "help"]⟩

/-- The words of a command. -/
def commandPart (command : String) : Part where
  name := programName ++ "-" ++ command
  switches := if command = "run" then Switch.ofRun else Switch.ofLookup
  room := if command = "resolve" then 1 else 0
  commands := []

/-- The command that words ask for. -/
def action? (command : String) (given : Given) : Option Action :=
  let fixtures := given.value? .fixtures
  match command, given.words with
  | "run", [] => some (.run fixtures (given.has .update) (given.value? .filter))
  | "list", [] => some (.list fixtures)
  | "resolve", [fixture] => some (.resolve fixture fixtures)
  | _, _ => none

/-- The request of a command line whose two parts have been read. -/
def request? (env : Environment) (outer : Given) (command : String) (inner : Given) :
    Option Request := do
  return {
    verbose := ← flag? outer inner .verbose (env "JSXSNAP_VERBOSE")
    noColor := ← flag? outer inner .noColor (env "JSXSNAP_NO_COLOR")
    settingsFile := ← file? outer inner .config (env "JSXSNAP_CONFIG")
    action := ← action? command inner }

/-- What the words after the command `help` ask for: help on the program or on one command. -/
def helpOn (words : List String) : Refusal :=
  match words with
  | [] => .help
  | [command] => if command ∈ programPart.commands then .help else .usage
  | _ => .usage

/-- What a command line asks for. -/
def read (env : Environment) (words : List String) : Except Refusal Request := do
  match ← programPart.read Given.nothing words with
  | (_, []) => .error .usage
  | (_, "help" :: words) => .error (helpOn words)
  | (outer, command :: words) =>
    let (inner, _) ← (commandPart command).read Given.nothing words
    match request? env outer command inner with
    | some request => .ok request
    | none => .error .usage

end CommandLine

end SnapshotSuite
