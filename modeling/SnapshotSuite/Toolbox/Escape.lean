import SnapshotSuite.Text.Reader
import SnapshotSuite.Toolbox.Octets
/-!
# Escapes

What a backslash with the characters behind it stands for in the words of a tool. The tools agree on
most escapes and differ in a few, which are the rules of a dialect.
-/

namespace SnapshotSuite

namespace Toolbox

/-- What begins with a backslash. -/
inductive Escape where
  /-- Some octets; the text goes on behind them. -/
  | octets (cs rest : List Char)
  /-- The end of all output. -/
  | stop
  /-- Something that cannot be, and what is wrong with it. -/
  | fault (complaint : Octets)

/-- Which escapes there are. -/
structure Dialect where
  /-- Whether a double quote can be escaped. -/
  hasQuote : Bool
  /-- Whether bytes are written in hexadecimal digits, and then, whether a digit has to follow. -/
  hexadecimal : Option Bool
  /-- Whether characters are written by their code point. -/
  hasCodePoints : Bool
  /-- Whether there is an escape that ends all output. -/
  hasStop : Bool
  /-- Whether a nought may stand before three octal digits. -/
  hasLeadingZero : Bool
  /-- Whether a character that makes no escape is plain text for sure. -/
  takesUnknown : Bool
deriving DecidableEq, Repr

namespace Dialect

/-- Words that are printed with escapes. -/
def words : Dialect := ⟨false, some false, false, true, true, true⟩

/-- The format of the printing tool. -/
def format : Dialect := ⟨true, some true, true, true, false, true⟩

/-- The operands of the printing tool that have escapes. -/
def operand : Dialect := ⟨true, some true, true, true, true, true⟩

/-- The format of the shell's own printing command. -/
def shellFormat : Dialect := ⟨false, none, false, false, false, false⟩

/-- Words that the shell prints. -/
def shellWords : Dialect := ⟨false, none, false, true, true, false⟩

end Dialect

namespace Escape

/-- The octets that single letters stand for. -/
def ofLetter? : Char → Option Char
  | 'a' => some '\x07'
  | 'b' => some '\x08'
  | 'e' => some '\x1b'
  | 'f' => some '\x0c'
  | 'n' => some '\n'
  | 'r' => some '\r'
  | 't' => some '\t'
  | 'v' => some '\x0b'
  | '\\' => some '\\'
  | _ => none

/-- The number that digits of a base write. -/
def valueOf (base : Nat) (digits : List Char) : Nat :=
  digits.foldl (fun n c => n * base + (digitValue? base c).getD 0) 0

/-- The digits of a base in front, so many at most. -/
def digits (base most : Nat) (cs : List Char) : List Char :=
  (cs.take most).takeWhile fun c => (digitValue? base c).isSome

/-- The octet of a number; only its last eight bits count. -/
def octet (n : Nat) : Char :=
  Char.ofNat (n % 256)

/-- The escape of octal digits. -/
def octal (dialect : Dialect) (cs : List Char) : Escape :=
  let cs :=
    match cs with
    | '0' :: d :: rest =>
      if dialect.hasLeadingZero ∧ (digitValue? 8 d).isSome then d :: rest else cs
    | cs => cs
  let ds := digits 8 3 cs
  .octets [octet (valueOf 8 ds)] (cs.drop ds.length)

/-- The escape of hexadecimal digits. -/
def hexadecimal (isRequired : Bool) (cs : List Char) : Escape :=
  let ds := digits 16 2 cs
  if ds ≠ [] then .octets [octet (valueOf 16 ds)] (cs.drop ds.length)
  else if isRequired then .fault "missing hexadecimal number in escape"
  else .octets ['\\', 'x'] cs

/-- Whether a code point may be escaped: not a control character, a plain one or a surrogate. -/
def isCodePoint (n : Nat) : Bool :=
  (0x9F < n || n = 0x24 || n = 0x40 || n = 0x60) && !(0xD800 ≤ n && n ≤ 0xDFFF)

/-- The escape of a code point. A number behind the last one stands for its own escape. -/
def codePoint (letter : Char) (cs : List Char) : Escape :=
  let count := if letter = 'u' then 4 else 8
  let ds := digits 16 count cs
  let n := valueOf 16 ds
  if ds.length < count then .fault "missing hexadecimal number in escape"
  else if isCodePoint n then
    let octets :=
      if n.isValidChar then Octets.charsOf (Utf8.encode [Char.ofNat n])
      else '\\' :: letter :: ds.map Char.toUpper
    .octets octets (cs.drop count)
  else
    .fault ("invalid universal character name \\" ++ letter.toString ++
      String.ofList ((cs.take count).map Char.toLower))

/-- What the characters behind a backslash make of it. -/
def read (dialect : Dialect) : List Char → Escape
  | [] => .octets ['\\'] []
  | c :: cs =>
    match ofLetter? c with
    | some d => .octets [d] cs
    | none =>
      if (digitValue? 8 c).isSome then octal dialect (c :: cs)
      else if c = '"' ∧ dialect.hasQuote then .octets ['"'] cs
      else if c = 'c' ∧ dialect.hasStop then .stop
      else if (c = 'u' ∨ c = 'U') ∧ dialect.hasCodePoints then codePoint c cs
      else
        match dialect.hexadecimal with
        | some isRequired =>
          if c = 'x' then hexadecimal isRequired cs else .octets ['\\', c] cs
        | none => if dialect.takesUnknown then .octets ['\\', c] cs else .octets ['\\'] (c :: cs)

end Escape

/-- Octets, and what ends all output behind them, if anything does. -/
structure Expansion where
  /-- The octets. -/
  octets : List Char
  /-- Whether all output ends, and with which complaint. -/
  ending : Option (Option Octets)
deriving DecidableEq, Repr

/-- An expansion with octets in front of it. -/
def Expansion.behind (cs : List Char) (expansion : Expansion) : Expansion :=
  { expansion with octets := cs ++ expansion.octets }

/-- A text with its escapes replaced; `fuel` bounds its length. -/
def expandWithin (dialect : Dialect) : (fuel : Nat) → List Char → Expansion
  | 0, _ | _, [] => ⟨[], none⟩
  | fuel + 1, '\\' :: cs =>
    match Escape.read dialect cs with
    | .octets ds rest => (expandWithin dialect fuel rest).behind ds
    | .stop => ⟨[], some none⟩
    | .fault complaint => ⟨[], some (some complaint)⟩
  | fuel + 1, c :: cs => (expandWithin dialect fuel cs).behind [c]

/-- A text with its escapes replaced. -/
def expandEscapes (dialect : Dialect) (s : Octets) : Expansion :=
  expandWithin dialect s.length s.toList

end Toolbox

end SnapshotSuite
