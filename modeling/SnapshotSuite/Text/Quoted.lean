import SnapshotSuite.Text.GraphemeExtend
/-!
# Quoted texts

A text shown in messages: in double quotes, on one line, every character that would not show
written as an escape. No two texts are shown alike.
-/

namespace SnapshotSuite

namespace Quoted

/-- A code point in lower-case hexadecimal digits. -/
def codePoint (c : Char) : List Char :=
  '\\' :: 'u' :: '{' :: Nat.toDigits 16 c.toNat ++ ['}']

/-- A character inside quotes. -/
def escape (c : Char) : List Char :=
  if c = '\x00' then ['\\', '0']
  else if c = '\t' then ['\\', 't']
  else if c = '\n' then ['\\', 'n']
  else if c = '\r' then ['\\', 'r']
  else if c = '"' then ['\\', '"']
  else if c = '\\' then ['\\', '\\']
  else if isGraphemeExtend c || isUnprintable c then codePoint c
  else [c]

/-- A text in quotes, as characters. -/
def chars (cs : List Char) : List Char :=
  '"' :: cs.flatMap escape ++ ['"']

end Quoted

/-- A text in quotes. -/
def quoted (s : String) : String :=
  String.ofList (Quoted.chars s.toList)

/-- A list of texts in quotes, in brackets. -/
def quotedList (l : List String) : String :=
  "[" ++ ", ".intercalate (l.map quoted) ++ "]"

end SnapshotSuite
