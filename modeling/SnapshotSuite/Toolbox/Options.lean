import SnapshotSuite.Toolbox.Job
import SnapshotSuite.Toolbox.Quoting
/-!
# Options of tools

Options are letters behind one dash, or words behind two of which a beginning is enough. They may
stand between operands, up to a word of two dashes.
-/

namespace SnapshotSuite

namespace Toolbox

/-- An option that a tool knows. -/
structure ToolOption where
  /-- Its letter. -/
  letter : Char
  /-- Its long name. -/
  long : Octets
  /-- Whether a value has to follow. -/
  wantsValue : Bool
deriving DecidableEq, Repr

/-- An option that was given. -/
structure GivenOption where
  /-- Its letter. -/
  letter : Char
  /-- Its value, empty if it wants none. -/
  value : Octets
deriving DecidableEq, Repr

/-- The options and the operands among the words of a tool. -/
structure Arguments where
  /-- The options, in order. -/
  options : List GivenOption
  /-- The operands, in order. -/
  operands : List Octets
deriving DecidableEq, Repr

namespace Arguments

/-- Whether an option was given. -/
def has (arguments : Arguments) (letter : Char) : Bool :=
  arguments.options.any (·.letter = letter)

/-- The last value of an option. -/
def value? (arguments : Arguments) (letter : Char) : Option Octets :=
  (arguments.options.reverse.find? (·.letter = letter)).map (·.value)

/-- The arguments with one more option in front. -/
def withOption (arguments : Arguments) (option : GivenOption) : Arguments :=
  { arguments with options := option :: arguments.options }

/-- The arguments with one more operand in front. -/
def withOperand (arguments : Arguments) (operand : Octets) : Arguments :=
  { arguments with operands := operand :: arguments.operands }

end Arguments

/-- An option whose value is the next word, and what is wrong if there is none. -/
structure AwaitedValue where
  /-- The letter of the option. -/
  letter : Char
  /-- The complaint. -/
  complaint : Octets

namespace ToolOption

/-- The options in a word behind one dash, and the one that waits for a value. -/
def readLetters (known : List ToolOption) :
    List Char → Except Octets (List GivenOption × Option AwaitedValue)
  | [] => .ok ([], none)
  | c :: cs =>
    match known.find? (·.letter = c) with
    | none => .error ("invalid option -- \x27" ++ c.toString ++ "\x27")
    | some option =>
      if option.wantsValue then
        if cs ≠ [] then .ok ([⟨c, String.ofList cs⟩], none)
        else
          .ok ([], some ⟨c, "option requires an argument -- \x27" ++ c.toString ++ "\x27"⟩)
      else (readLetters known cs).map fun (options, awaited) => (⟨c, ""⟩ :: options, awaited)

/-- The option whose long name has a beginning. -/
def ofLongName (known : List ToolOption) (name : Octets) : Except Octets ToolOption :=
  let candidates := known.filter fun option => name.toList.isPrefixOf option.long.toList
  match known.find? (·.long = name), candidates with
  | some option, _ | none, [option] => .ok option
  | none, [] => .error ("unrecognized option \x27--" ++ name ++ "\x27")
  | none, candidates =>
    .error ("option \x27--" ++ name ++ "\x27 is ambiguous; possibilities:" ++
      String.join (candidates.map fun option => " \x27--" ++ option.long ++ "\x27"))

/-- The option in a word behind two dashes, or that it waits for a value. -/
def readLong (known : List ToolOption) (word : List Char) :
    Except Octets (List GivenOption × Option AwaitedValue) := do
  let name := String.ofList (word.takeWhile (· ≠ '='))
  let option ← ofLongName known name
  match word.dropWhile (· ≠ '='), option.wantsValue with
  | _ :: value, true => return ([⟨option.letter, String.ofList value⟩], none)
  | _ :: _, false =>
    throw ("option \x27--" ++ option.long ++ "\x27 doesn\x27t allow an argument")
  | [], true =>
    return ([], some ⟨option.letter,
      "option \x27--" ++ option.long ++ "\x27 requires an argument"⟩)
  | [], false => return ([⟨option.letter, ""⟩], none)

/-- Parts words into options and operands. If `stops` says so, the first operand ends the
options. -/
def readWords (known : List ToolOption) (stops : Bool) :
    Option AwaitedValue → List Octets → Except Octets Arguments
  | none, [] => .ok ⟨[], []⟩
  | some awaited, [] => .error awaited.complaint
  | some awaited, word :: words =>
    (readWords known stops none words).map (·.withOption ⟨awaited.letter, word⟩)
  | none, word :: words =>
    match word.toList with
    | ['-', '-'] => .ok ⟨[], words⟩
    | '-' :: '-' :: name =>
      match readLong known name with
      | .error complaint => .error complaint
      | .ok (options, awaited) =>
        (readWords known stops awaited words).map fun arguments =>
          options.foldr (fun option arguments => arguments.withOption option) arguments
    | '-' :: c :: cs =>
      match readLetters known (c :: cs) with
      | .error complaint => .error complaint
      | .ok (options, awaited) =>
        (readWords known stops awaited words).map fun arguments =>
          options.foldr (fun option arguments => arguments.withOption option) arguments
    | _ =>
      if stops then .ok ⟨[], word :: words⟩
      else (readWords known stops none words).map (·.withOperand word)

end ToolOption

/-- Complains about how a tool was called. -/
def misused (code : Nat) (name complaint : Octets) : Job ExitStatus := do
  Job.complain (name ++ ": " ++ complaint)
  complaining code ("Try \x27" ++ name ++ " --help\x27 for more information.")

/-- A tool that gets its options and operands apart, and ends in some way if it is called wrong. If
`stops` says so, its options all stand before its first operand. -/
def withArguments (code : Nat) (stops : Bool) (known : List ToolOption)
    (run : (name : Octets) → Arguments → Job ExitStatus) : Tool := fun name words =>
  match ToolOption.readWords known stops none words with
  | .ok arguments => run name arguments
  | .error complaint => misused code name complaint

/-- A tool whose options stand between its operands. -/
abbrev withOptions : List ToolOption → ((name : Octets) → Arguments → Job ExitStatus) → Tool :=
  withArguments 1 false

/-- A tool whose options all stand before its first operand. -/
abbrev withLeadingOptions : List ToolOption → ((name : Octets) → Arguments → Job ExitStatus) → Tool :=
  withArguments 1 true

/-- The complaint about a file. -/
def complainAbout (name file : Octets) (error : SystemError) : Job Unit :=
  Job.complain (name ++ ": " ++ shownFile file ++ ": " ++ error.words)

end Toolbox

end SnapshotSuite
