import SnapshotSuite.Toolbox.Octets
/-!
# Scripts

What the text of a script is read into: words, which are lists of pieces, redirections and commands.
The text of a document that follows its redirection some lines later is kept apart, and the
redirection has its index.
-/

namespace SnapshotSuite

namespace Toolbox

namespace Shell

/-- How a redirection opens a file. -/
inductive Opening where
  /-- For reading. -/
  | read
  /-- For writing from the start. -/
  | write
  /-- For writing from the start, even if files are protected. -/
  | force
  /-- For writing at the end. -/
  | append
  /-- For reading and writing. -/
  | both
deriving DecidableEq, Repr

/-- What makes a parameter count as missing. -/
inductive Lack where
  /-- It has no value. -/
  | unset
  /-- It has no value or an empty one. -/
  | unsetOrEmpty
deriving DecidableEq, Repr

mutual

/-- A piece of a word. -/
inductive Piece where
  /-- A character outside quotes. -/
  | char (c : Char)
  /-- A character that only stands for itself. -/
  | escaped (c : Char)
  /-- The beginning or the end of a quotation. -/
  | mark
  /-- The value of a parameter, or what is made of it. -/
  | parameter (name : Octets) (use : Use)
  /-- The operands, each by itself. -/
  | operands
  /-- The output of a script. -/
  | output (script : Command)
  /-- The value of an expression. -/
  | number (expression : List Piece)

/-- What is made of a parameter. -/
inductive Use where
  /-- Its value. -/
  | value
  /-- The length of its value. -/
  | length
  /-- Its value, or a word where it is missing. -/
  | default (lack : Lack) (word : List Piece)
  /-- A word, unless it is missing. -/
  | alternative (lack : Lack) (word : List Piece)
  /-- Its value, which is set to a word where it is missing. -/
  | assign (lack : Lack) (word : List Piece)
  /-- Its value, or a complaint where it is missing. -/
  | demand (lack : Lack) (word : List Piece)
  /-- Its value without a beginning or an ending, the shortest or the longest of a pattern. -/
  | trim (isEnding isLongest : Bool) (pattern : List Piece)
  /-- Nothing that makes sense. -/
  | senseless

/-- A change of where a command reads and writes. -/
inductive Redirection where
  /-- To a file. -/
  | file (descriptor : Nat) (opening : Opening) (path : List Piece)
  /-- To where another descriptor leads, or to nowhere. -/
  | duplicate (descriptor : Nat) (source : List Piece)
  /-- From a document. -/
  | document (descriptor index : Nat)

/-- A command. -/
inductive Command where
  /-- Nothing to do. -/
  | nothing
  /-- A call: assignments, the words of the call, and redirections. -/
  | simple (line : Nat) (assignments words : List (List Piece))
      (redirections : List Redirection)
  /-- Commands that read from one another. -/
  | pipe (commands : List Command)
  /-- One command after another. -/
  | sequence (first second : Command)
  /-- A second command if the first one succeeds. -/
  | and (first second : Command)
  /-- A second command if the first one fails. -/
  | or (first second : Command)
  /-- A command whose success counts as failure. -/
  | not (command : Command)
  /-- A command that changes nothing in the shell. -/
  | subshell (line : Nat) (command : Command) (redirections : List Redirection)
  /-- A command with redirections. -/
  | redirected (line : Nat) (command : Command) (redirections : List Redirection)
  /-- A command that is not waited for. -/
  | background (line : Nat) (command : Command)
  /-- A choice. -/
  | choice (condition yes no : Command)
  /-- A repetition for as long as a condition holds, or until it does. -/
  | loop (isUntil : Bool) (condition body : Command)
  /-- A repetition for each of some words. -/
  | each (line : Nat) (name : Octets) (words : List (List Piece)) (body : Command)
  /-- A choice by patterns. -/
  | select (line : Nat) (subject : List Piece) (arms : List Arm)
  /-- The definition of a function. -/
  | define (line : Nat) (name : Octets) (body : Command)

/-- Some patterns, and what is done if one of them fits. -/
inductive Arm where
  /-- The patterns and the command. -/
  | mk (patterns : List (List Piece)) (body : Command)

end

/-- A word. -/
abbrev Word := List Piece

/-- A word in quotes. The operands by themselves keep their limits. -/
def quotation : Word → Word
  | [.parameter "@" .value] => [.operands]
  | word => .mark :: word ++ [.mark]

/-- The descriptor that a redirection is for. -/
def Redirection.descriptor : Redirection → Nat
  | .file descriptor .. | .duplicate descriptor _ | .document descriptor _ => descriptor

/-- Whether a command is nothing. -/
def Command.isNothing : Command → Bool
  | .nothing => true
  | _ => false

/-- The pieces of plain characters. -/
def plainWord (s : Octets) : Word :=
  s.toList.map Piece.char

/-- The character of a piece outside quotes. -/
def Piece.plain? : Piece → Option Char
  | .char c => some c
  | _ => none

/-- The characters of a word, if none is quoted and nothing else is in it. -/
def plainText? (word : Word) : Option Octets :=
  (word.mapM Piece.plain?).map String.ofList

/-- The characters of a word, taken as they stand, whatever else is in it. -/
def literalText (word : Word) : Octets :=
  String.ofList (word.filterMap fun
    | .char c | .escaped c => some c
    | _ => none)

/-- Whether a word sets a variable: it begins with a name and an equals sign. -/
def isAssignment (word : Word) : Bool :=
  let front := (word.map Piece.plain?).takeWhile fun c => c.any (· ≠ '=')
  ((word.drop front.length).head?.bind Piece.plain?) = some '=' &&
    isName (String.ofList (front.filterMap id))

end Shell

end Toolbox

end SnapshotSuite
