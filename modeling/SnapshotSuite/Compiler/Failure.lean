import SnapshotSuite.Tree.AccessError
/-!
# Failures of a compiler
-/

namespace SnapshotSuite

/-- How a program ended. -/
inductive ExitStatus where
  /-- It returned a code. -/
  | code (n : Nat)
  /-- A signal ended it, and left an image of its memory or none. -/
  | signal (n : Nat) (dumpsCore : Bool)
deriving DecidableEq, Repr

namespace ExitStatus

/-- Whether the program says that it succeeded. -/
def isSuccess (status : ExitStatus) : Bool :=
  status == .code 0

/-- The name of a signal. -/
def signalName? : Nat → Option String
  | 1 => some "SIGHUP"
  | 2 => some "SIGINT"
  | 3 => some "SIGQUIT"
  | 4 => some "SIGILL"
  | 5 => some "SIGTRAP"
  | 6 => some "SIGABRT"
  | 7 => some "SIGBUS"
  | 8 => some "SIGFPE"
  | 9 => some "SIGKILL"
  | 10 => some "SIGUSR1"
  | 11 => some "SIGSEGV"
  | 12 => some "SIGUSR2"
  | 13 => some "SIGPIPE"
  | 14 => some "SIGALRM"
  | 15 => some "SIGTERM"
  | 16 => some "SIGSTKFLT"
  | 17 => some "SIGCHLD"
  | 18 => some "SIGCONT"
  | 19 => some "SIGSTOP"
  | 20 => some "SIGTSTP"
  | 21 => some "SIGTTIN"
  | 22 => some "SIGTTOU"
  | 23 => some "SIGURG"
  | 24 => some "SIGXCPU"
  | 25 => some "SIGXFSZ"
  | 26 => some "SIGVTALRM"
  | 27 => some "SIGPROF"
  | 28 => some "SIGWINCH"
  | 29 => some "SIGIO"
  | 30 => some "SIGPWR"
  | 31 => some "SIGSYS"
  | _ => none

/-- The words for a status. -/
def text : ExitStatus → String
  | .code n => "exit status: " ++ toString n
  | .signal n dumpsCore =>
    let name :=
      match signalName? n with
      | some name => " (" ++ name ++ ")"
      | none => ""
    "signal: " ++ toString n ++ name ++ if dumpsCore then " (core dumped)" else ""

end ExitStatus

/-- Why a compiler gave no text. -/
inductive CompilerFailure where
  /-- The program did not start. -/
  | notStarted (program : String) (cause : AccessError)
  /-- The program said that it failed. -/
  | failed (program status stderr : String)
  /-- The program wrote bytes that are no text. -/
  | notText (program : String)
  /-- The call could not be prepared. -/
  | notPrepared (cause : AccessError)
deriving DecidableEq, Repr

/-- The message for a failure. -/
def CompilerFailure.message : CompilerFailure → String
  | .notStarted program cause => "failed to spawn `" ++ program ++ "`: " ++ cause.message
  | .failed program status stderr => "`" ++ program ++ "` exited with " ++ status ++ ":\n" ++ stderr
  | .notText program => "`" ++ program ++ "` produced non UTF-8 output"
  | .notPrepared cause => "failed to prepare backend invocation: " ++ cause.message

end SnapshotSuite
