import SnapshotSuite.Toolbox.Regex.Reader
/-!
# Scripts for editing streams

A script is a list of commands, each with the lines that it is for. It is carried out once for each
line of the input, which stands in a space where the commands change it.
-/

namespace SnapshotSuite

namespace Toolbox

namespace Editor

/-- An expression that lines are searched for. -/
structure Pattern where
  /-- The expression; none stands for the one that was searched for last. -/
  regex : Option Regex
  /-- Whether case does not matter. -/
  ignoresCase : Bool
  /-- Whether the lines in the text count. -/
  hasLines : Bool

/-- A place in the input. -/
inductive Address where
  /-- The line of a number. -/
  | line (number : Nat)
  /-- The last line. -/
  | last
  /-- Every line some steps behind a first one. -/
  | step (first step : Nat)
  /-- A line in which something is found. -/
  | found (pattern : Pattern)

/-- Where lines that began at an address end. -/
inductive Limit where
  /-- At an address. -/
  | address (address : Address)
  /-- So many lines further. -/
  | further (count : Nat)
  /-- At the next line whose number is a multiple. -/
  | multiple (factor : Nat)

/-- Which lines a command is for. -/
structure Selector where
  /-- The address at which they begin; none stands for all lines. -/
  first : Option Address
  /-- Where they end, if they are not single lines. -/
  limit : Option Limit
  /-- Whether the command is for all others instead. -/
  isInverted : Bool

/-- A part of what is put in the place of a match. -/
inductive Part where
  /-- A text. -/
  | text (cs : List Char)
  /-- What a group has matched; the group nought is the whole match. -/
  | group (number : Nat)
  /-- A change of case for what follows, by its letter. -/
  | shift (letter : Char)
deriving DecidableEq, Repr

/-- What is put in the place of matches. -/
structure Substitution where
  /-- What is searched for. -/
  pattern : Pattern
  /-- The parts of what takes its place. -/
  parts : List Part
  /-- The number of the first match that is replaced. -/
  first : Nat
  /-- Whether all matches behind it are replaced. -/
  isGlobal : Bool
  /-- Whether a line in which something was replaced is printed. -/
  prints : Bool
  /-- The file to which such a line is written. -/
  file : Option Octets

/-- What a command does. -/
inductive Act where
  /-- Does nothing, but leaves out so many commands for lines that it is not for. -/
  | block (length : Nat)
  /-- Marks a place in the script. -/
  | label (name : Octets)
  /-- Goes on at a mark, or at the end. -/
  | branch (name : Octets)
  /-- The same, if something was replaced since the last line was read. -/
  | branchIf (name : Octets)
  /-- The same, if nothing was. -/
  | branchUnless (name : Octets)
  /-- Prints a text. -/
  | insert (text : List Char)
  /-- Prints a text behind the line. -/
  | append (text : List Char)
  /-- Prints a text in the place of the line. -/
  | change (text : List Char)
  /-- Drops the line. -/
  | delete
  /-- Drops the first line of the space. -/
  | deleteFirst
  /-- Prints the space. -/
  | print
  /-- Prints the first line of the space. -/
  | printFirst
  /-- Goes on with the next line of the input. -/
  | next
  /-- Puts the next line of the input behind the space. -/
  | join
  /-- Copies the space to the store. -/
  | hold
  /-- Puts the space behind the store. -/
  | holdMore
  /-- Copies the store to the space. -/
  | get
  /-- Puts the store behind the space. -/
  | getMore
  /-- Exchanges the space and the store. -/
  | exchange
  /-- Ends, printing the space or not. -/
  | quit (prints : Bool) (code : Nat)
  /-- Prints the number of the line. -/
  | number
  /-- Prints the space with escapes for what does not show. -/
  | list (width : Option Nat)
  /-- Empties the space. -/
  | clear
  /-- Prints the name of the file. -/
  | name
  /-- Prints a file behind the line. -/
  | readFile (path : Octets)
  /-- Writes the space, or its first line, to a file. -/
  | write (isFirst : Bool) (path : Octets)
  /-- Replaces what matches. -/
  | substitute (substitution : Substitution)
  /-- Replaces letters by others. -/
  | exchangeLetters (pairs : List (Regex.Letter × Regex.Letter))

/-- A command. -/
structure Command where
  /-- The lines that it is for. -/
  selector : Selector
  /-- What it does. -/
  act : Act

end Editor

end Toolbox

end SnapshotSuite
