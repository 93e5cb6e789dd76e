import SnapshotSuite.CommandLine.Execution
import SnapshotSuite.CommandLine.Reader
import SnapshotSuite.Suite.Details
/-!
# Answers to command lines

What the program prints for its words and with which code it ends: nought for success, one for a
command that failed, two for words that are no command.
-/

namespace SnapshotSuite

/-- What the program shows for a command line. -/
structure Answer where
  /-- The code with which it ends. -/
  exitCode : Nat
  /-- Its standard output. -/
  output : String
  /-- The events that it logs on standard error. -/
  log : List Event
  /-- Whether the log has colors. -/
  isColored : Bool
  /-- The end of its standard error, after the log. -/
  complaint : String

namespace CommandLine

/-- The version of the program. -/
def version : String := "0.1.0"

/-- How the program is called. -/
def usage : String :=
  "Usage: jsxsnap [OPTIONS] <COMMAND>\n\n" ++
  "Commands:\n" ++
  "  run      Run fixtures against their snapshots [-f DIR] [-u] [--filter TEXT]\n" ++
  "  list     List discovered fixtures [-f DIR]\n" ++
  "  resolve  Print the resolved compiler configuration for a fixture NAME [-f DIR]\n\n" ++
  "Options:\n" ++
  "  -v, --verbose        Enable verbose output\n" ++
  "  -c, --config <FILE>  Path to configuration file\n" ++
  "      --no-color       Disable color output\n" ++
  "  -h, --help           Print help\n" ++
  "  -V, --version        Print version\n"

end CommandLine

/-- The answer to words that ask for nothing that can be carried out. -/
def Refusal.answer : Refusal → Answer
  | .usage => ⟨2, "", [], false, CommandLine.usage⟩
  | .help => ⟨0, CommandLine.usage, [], false, ""⟩
  | .version name => ⟨0, name ++ " " ++ CommandLine.version ++ "\n", [], false, ""⟩

/-- The answer to a request that has been carried out. -/
def Completion.answer (completion : Completion) (request : Request) : Answer :=
  let log := completion.events.filter (Event.isLogged request.verbose)
  let colored := !request.noColor && !log.isEmpty
  match completion.result with
  | .ok _ => ⟨0, completion.output, log, colored, ""⟩
  | .error error => ⟨1, completion.output, log, colored, "Error: " ++ error.details ++ "\n"⟩

/-- The answer to a command line, and the files and directories afterwards. -/
def answer (surroundings : Surroundings) (w : Workspace) (words : List String) :
    Answer × Workspace :=
  match CommandLine.read surroundings.environment words with
  | .error refusal => (refusal.answer, w)
  | .ok request =>
    let completion := request.execute surroundings w
    (completion.answer request, completion.workspace)

end SnapshotSuite
