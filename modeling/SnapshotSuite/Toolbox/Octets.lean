import SnapshotSuite.Text.Utf8
/-!
# Texts of bytes

Tools handle bytes and know no other characters. An octet text has one character for each byte,
the one with the number of the byte, so that bytes can be compared with letters.
-/

namespace SnapshotSuite

namespace Toolbox

/-- A text with one character for each byte. -/
abbrev Octets := String

namespace Octets

/-- The characters that stand for bytes. -/
def charsOf (bs : Bytes) : List Char :=
  bs.map fun b => Char.ofNat b.toNat

/-- The bytes for which characters stand. -/
def bytesOfChars (cs : List Char) : Bytes :=
  cs.map fun c => UInt8.ofNat c.toNat

/-- The octet text of some bytes. -/
def ofBytes (bs : Bytes) : Octets :=
  String.ofList (charsOf bs)

/-- The bytes of an octet text. -/
def bytes (s : Octets) : Bytes :=
  bytesOfChars s.toList

/-- A text as octets. -/
def ofText (s : String) : Octets :=
  ofBytes (Utf8.bytesOf s)

/-- The text that octets write, with U+FFFD for each fault. -/
def text (s : Octets) : String :=
  Utf8.lossyText (bytes s)

end Octets

/-! ### Characters of octet texts -/

/-- Whether a character is a space or moves on a page: the blanks of the portable classes. -/
def isSpaceOctet (c : Char) : Bool :=
  c = ' ' || (9 ≤ c.toNat && c.toNat ≤ 13)

/-- Whether a character can begin a name. -/
def isNameStart (c : Char) : Bool :=
  c.isAlpha || c = '_'

/-- Whether a character can stand in a name. -/
def isNameChar (c : Char) : Bool :=
  c.isAlphanum || c = '_'

/-- Whether a text is a name: letters, digits and low lines, with no digit in first place. -/
def isName (s : Octets) : Bool :=
  match s.toList with
  | c :: cs => isNameStart c && cs.all isNameChar
  | [] => false

/-- Whether a text is made of digits, at least one. -/
def isNumber (s : Octets) : Bool :=
  s ≠ "" && s.toList.all Char.isDigit

/-- A number whose digits are all there are. -/
def digitsValue (cs : List Char) : Nat :=
  cs.foldl (fun n c => n * 10 + (c.toNat - 48)) 0

/-- The octet text cut at each occurrence of a character. -/
def splitAtChar (c : Char) (s : Octets) : List Octets :=
  (s.toList.splitOnP (· == c)).map String.ofList

end Toolbox

end SnapshotSuite
