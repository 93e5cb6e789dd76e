import SnapshotSuite.Decimal.Shortest
import SnapshotSuite.Document.Basic
/-!
# Writing documents

One writer serves both layouts: `pretty` starts every item and field on a line of its own, two
spaces further in than its container, and `compact` writes no blank at all. Real numbers have the
fewest digits that read back, in plain notation from `1e-5` up to `1e16` and with a signed exponent
elsewhere.
-/

namespace SnapshotSuite

namespace Decimal

/-- Plain notation with a point, for a decimal whose first digit stands at `10^lead`. -/
def plain (digits : List Char) (lead : Int) : List Char :=
  if lead < 0 then
    '0' :: '.' :: List.replicate (-lead - 1).toNat '0' ++ digits
  else
    let whole := lead.toNat + 1
    let tail := digits.drop whole
    digits.take whole ++ List.replicate (whole - digits.length) '0' ++ '.' ::
      (if tail.isEmpty then ['0'] else tail)

/-- A power of ten, its sign always written. -/
def powerOfTen (lead : Int) : List Char :=
  'e' :: (if lead < 0 then '-' else '+') :: Nat.toDigits 10 lead.natAbs

/-- Notation with a power of ten; a single digit takes no point. -/
def scientific (digits : List Char) (lead : Int) : List Char :=
  match digits with
  | first :: second :: tail => first :: '.' :: second :: tail ++ powerOfTen lead
  | _ => digits ++ powerOfTen lead

/-- The text of a decimal other than zero. -/
def write (d : Decimal) : List Char :=
  let digits := Nat.toDigits 10 d.digits
  let lead := d.exponent + digits.length - 1
  if -5 ≤ lead ∧ lead < 16 then plain digits lead else scientific digits lead

end Decimal

namespace Number

/-- The text of a whole number. -/
def writeInteger (value : Int) : List Char :=
  if value < 0 then '-' :: Nat.toDigits 10 value.natAbs else Nat.toDigits 10 value.natAbs

/-- The text of a real number; zero keeps its sign. -/
def writeReal (value : Binary64) : List Char :=
  let magnitude := if value.isZero then ['0', '.', '0'] else (Decimal.shortest value).write
  if value.isNegative then '-' :: magnitude else magnitude

/-- The text of a number. -/
def write : Number → List Char
  | .integer value => writeInteger value
  | .real value => writeReal value

end Number

namespace Document

/-- A lower-case hexadecimal digit. -/
def hexDigit (n : Nat) : Char :=
  if n < 10 then Char.ofNat (0x30 + n) else Char.ofNat (0x57 + n)

/-- A character of a text inside quotes. Quotes, backslashes and control characters are escaped. -/
def escape (c : Char) : List Char :=
  if c = '"' then ['\\', '"']
  else if c = '\\' then ['\\', '\\']
  else if c = '\x08' then ['\\', 'b']
  else if c = '\x0c' then ['\\', 'f']
  else if c = '\n' then ['\\', 'n']
  else if c = '\r' then ['\\', 'r']
  else if c = '\t' then ['\\', 't']
  else if c.toNat < 0x20 then
    ['\\', 'u', '0', '0', hexDigit (c.toNat / 16), hexDigit (c.toNat % 16)]
  else [c]

/-- A text in quotes. -/
def writeString (s : String) : List Char :=
  '"' :: s.toList.flatMap escape ++ ['"']

/-- Where blanks stand between the parts of a container. -/
structure Layout where
  /-- What comes before an item at a level, and before the closing bracket of the level above. -/
  line : Nat → List Char
  /-- What comes between a key and its value. -/
  colon : List Char

/-- Every item and field on a line of its own, two spaces a level. -/
def Layout.pretty : Layout where
  line level := '\n' :: List.replicate (2 * level) ' '
  colon := [':', ' ']

/-- No blanks. -/
def Layout.compact : Layout where
  line _ := []
  colon := [':']

mutual

/-- The text of a document that stands at a level. -/
def write (layout : Layout) (level : Nat) : Document → List Char
  | .null => ['n', 'u', 'l', 'l']
  | .bool true => ['t', 'r', 'u', 'e']
  | .bool false => ['f', 'a', 'l', 's', 'e']
  | .number value => value.write
  | .string value => writeString value
  | .array [] => ['[', ']']
  | .array (item :: items) =>
    '[' :: layout.line (level + 1) ++ write layout (level + 1) item
      ++ writeItems layout (level + 1) items ++ layout.line level ++ [']']
  | .object [] => ['{', '}']
  | .object ((key, value) :: fields) =>
    '{' :: layout.line (level + 1) ++ writeString key ++ layout.colon
      ++ write layout (level + 1) value ++ writeFields layout (level + 1) fields
      ++ layout.line level ++ ['}']

/-- The items after the first, each behind a comma. -/
def writeItems (layout : Layout) (level : Nat) : List Document → List Char
  | [] => []
  | item :: items =>
    ',' :: layout.line level ++ write layout level item ++ writeItems layout level items

/-- The fields after the first, each behind a comma. -/
def writeFields (layout : Layout) (level : Nat) : List (String × Document) → List Char
  | [] => []
  | (key, value) :: fields =>
    ',' :: layout.line level ++ writeString key ++ layout.colon ++ write layout level value
      ++ writeFields layout level fields

end

/-- The text with every item and field on a line of its own. -/
def pretty (document : Document) : String :=
  String.ofList (write .pretty 0 document)

/-- The text without blanks. -/
def compact (document : Document) : String :=
  String.ofList (write .compact 0 document)

end Document

end SnapshotSuite
