import SnapshotSuite.Toolbox.Octets
/-!
# Signals

The signals by their numbers, their short names, and the words for a process that one has ended.
-/

namespace SnapshotSuite

namespace Toolbox

namespace Signal

/-- The short names and the words, from the first signal on. -/
def table : List (Octets × Octets) :=
  [("HUP", "Hangup"), ("INT", "Interrupt"), ("QUIT", "Quit"), ("ILL", "Illegal instruction"),
    ("TRAP", "Trace/breakpoint trap"), ("ABRT", "Aborted"), ("BUS", "Bus error"),
    ("FPE", "Floating point exception"), ("KILL", "Killed"), ("USR1", "User defined signal 1"),
    ("SEGV", "Segmentation fault"), ("USR2", "User defined signal 2"), ("PIPE", "Broken pipe"),
    ("ALRM", "Alarm clock"), ("TERM", "Terminated"), ("16", "Stack fault"),
    ("CHLD", "Child exited"), ("CONT", "Continued"), ("STOP", "Stopped (signal)"),
    ("TSTP", "Stopped"), ("TTIN", "Stopped (tty input)"), ("TTOU", "Stopped (tty output)"),
    ("URG", "Urgent I/O condition"), ("XCPU", "CPU time limit exceeded"),
    ("XFSZ", "File size limit exceeded"), ("VTALRM", "Virtual timer expired"),
    ("PROF", "Profiling timer expired"), ("WINCH", "Window changed"), ("IO", "I/O possible"),
    ("PWR", "Power failure"), ("SYS", "Bad system call")]

/-- The signal for a process that uses memory which is not its own. -/
def memorySignal : Nat := 11

/-- The signal that tells of the end of a process. -/
def childSignal : Nat := 17

/-- The greatest number. -/
def greatest : Nat := 64

/-- The short name of a signal. -/
def name (n : Nat) : Octets :=
  match table[n - 1]? with
  | some (name, _) => if n = 0 then "EXIT" else name
  | none =>
    if n = 34 then "RTMIN"
    else if n = greatest then "RTMAX"
    else if 34 < n ∧ n ≤ 49 then "RTMIN+" ++ toString (n - 34)
    else if 49 < n ∧ n < greatest then "RTMAX-" ++ toString (greatest - n)
    else toString n

/-- The words for a process that a signal has ended. -/
def words (n : Nat) : Octets :=
  match table[n - 1]? with
  | some (_, words) => words
  | none =>
    if 34 ≤ n ∧ n ≤ greatest then "Real-time signal " ++ toString (n - 34)
    else "Unknown signal " ++ toString n

/-- The signal that a word means: a number, or a short name in either case. Those below the least
one have no name here. -/
def ofWord? (least : Nat) (s : Octets) : Option Nat :=
  if isNumber s then (some (digitsValue s.toList)).filter (· ≤ greatest)
  else
    let upper := String.ofList (s.toList.map Char.toUpper)
    (List.range (greatest + 1)).find? fun n => least ≤ n && name n = upper

/-- Whether a process goes on when a signal comes that it does nothing about. -/
def isHarmless (n : Nat) : Bool :=
  [17, 18, 23, 28].contains n

/-- Whether a process cannot do anything about a signal. -/
def isSure (n : Nat) : Bool :=
  n = 9 || n = 19

end Signal

end Toolbox

end SnapshotSuite
