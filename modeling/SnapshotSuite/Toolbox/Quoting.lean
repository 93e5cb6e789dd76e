import SnapshotSuite.Text.Reader
import SnapshotSuite.Text.Unprintable
import SnapshotSuite.Toolbox.Octets
/-!
# Names in complaints

Tools show names so that they can be copied into a script: bare if nothing in them is special, and
in quotes if something is. What cannot be shown stands in quotes of its own, as escapes. Other words
stand in curly quotes.
-/

namespace SnapshotSuite

namespace Toolbox

/-- A part of an octet text: a character, or a byte that belongs to none. -/
structure Glyph where
  /-- The octets that write it. -/
  octets : List Char
  /-- Whether it can be shown as it is. -/
  isShown : Bool
deriving DecidableEq, Repr

namespace Glyph

/-- The glyph of a character. -/
def ofChar (c : Char) : Glyph :=
  ⟨Octets.charsOf (Utf8.encode [c]), !isUnprintable c⟩

/-- The glyphs of octets: each character of UTF-8, and each byte that is at fault by itself. -/
def all : List Char → List Glyph
  | [] => []
  | c :: cs =>
    match Utf8.lead? (UInt8.ofNat c.toNat) with
    | none => ⟨[c], false⟩ :: all cs
    | some lead =>
      let length := lead.followers.length
      match Utf8.follow lead.bits lead.followers (Octets.bytesOfChars (cs.take length)) with
      | (some character, _) => ofChar character :: all (cs.drop length)
      | (none, _) => ⟨[c], false⟩ :: all cs
termination_by cs => cs.length
decreasing_by
  · exact length_lt_cons _ _
  · exact length_drop_lt _ _ _
  · exact length_lt_cons _ _

/-- The glyph as an escape. -/
def escaped (glyph : Glyph) : List Char :=
  match glyph.octets with
  | ['\x07'] => ['\\', 'a']
  | ['\x08'] => ['\\', 'b']
  | ['\t'] => ['\\', 't']
  | ['\n'] => ['\\', 'n']
  | ['\x0b'] => ['\\', 'v']
  | ['\x0c'] => ['\\', 'f']
  | ['\r'] => ['\\', 'r']
  | octets =>
    octets.flatMap fun c =>
      let digits := Nat.toDigits 8 c.toNat
      '\\' :: List.replicate (3 - digits.length) '0' ++ digits

end Glyph

namespace ShellQuoting

/-- The characters that are special to a shell wherever they stand. -/
def special : List Char :=
  " !\"$&()*;<=>?[\\^\x60|\x27".toList

/-- The characters that are special to a shell in first place. -/
def specialAtStart : List Char :=
  ['#', '~']

/-- The characters that mean the same in double quotes. -/
def isTame (isFirst : Bool) (glyph : Glyph) : Bool :=
  match glyph.octets with
  | [c] =>
    c.isAlphanum || " %+,-./:]_\x27@".toList.contains c || (isFirst && specialAtStart.contains c)
  | _ => glyph.isShown

/-- Whether glyphs need quotes, where some more characters count as special. -/
def needsQuotes (more : List Char) (glyphs : List Glyph) : Bool :=
  let isSpecial (glyph : Glyph) : Bool :=
    match glyph.octets with
    | [c] => special.contains c || more.contains c || !glyph.isShown
    | _ => !glyph.isShown
  glyphs = [] || glyphs.any isSpecial ||
    (match glyphs.head? with
      | some ⟨[c], _⟩ => specialAtStart.contains c
      | _ => false) ||
    glyphs.map Glyph.octets = [['{']] || glyphs.map Glyph.octets = [['}']]

/-- Glyphs inside single quotes, and whether escapes are open behind them. They are open at the
start if `isOpen` says so. -/
def inside : (isOpen : Bool) → List Glyph → List Char × Bool
  | isOpen, [] => ([], isOpen)
  | isOpen, glyph :: glyphs =>
    if !glyph.isShown then
      let (rest, isOpen') := inside true glyphs
      ((if isOpen then [] else ['\x27', '$', '\x27']) ++ glyph.escaped ++ rest, isOpen')
    else if glyph.octets = ['\x27'] then
      let (rest, isOpen') := inside false glyphs
      ("\x27\\\x27\x27".toList ++ rest, isOpen')
    else
      let (rest, isOpen') := inside false glyphs
      ((if isOpen then ['\x27', '\x27'] else []) ++ glyph.octets ++ rest, isOpen')

end ShellQuoting

open ShellQuoting in
/-- A name in quotes, as a shell would read it. A text with single quotes stands in double quotes if
they change nothing. -/
def shellQuotedAlways (s : Octets) : Octets :=
  let glyphs := Glyph.all s.toList
  let isApostrophe (glyph : Glyph) : Bool := glyph.octets = ['\x27']
  if glyphs.any isApostrophe then
    if glyphs.head?.all (isTame true) && glyphs.tail.all (isTame false) then "\"" ++ s ++ "\""
    else
      -- escapes that are open at the end of a first reading are still open at the second
      let isOpen := (inside false glyphs).2
      "\x27" ++ String.ofList (inside isOpen glyphs).1 ++ "\x27"
  else "\x27" ++ String.ofList (inside false glyphs).1 ++ "\x27"

/-- A name as a shell would read it: bare, if nothing in it is special. Some more characters can be
counted as special. -/
def shellQuoted (more : List Char) (s : Octets) : Octets :=
  if ShellQuoting.needsQuotes more (Glyph.all s.toList) then shellQuotedAlways s else s

/-- The name of a file in a complaint. -/
def shownFile (s : Octets) : Octets :=
  shellQuoted [':'] s

/-- A word in a complaint: in curly quotes, backslashes doubled. -/
def shownWord (s : Octets) : Octets :=
  let shown (glyph : Glyph) : List Char :=
    if glyph.octets = ['\\'] then ['\\', '\\']
    else if glyph.octets = Octets.charsOf (Utf8.bytesOf "’") then '\\' :: glyph.octets
    else if glyph.isShown then glyph.octets
    else glyph.escaped
  Octets.ofText "‘" ++ String.ofList ((Glyph.all s.toList).flatMap shown) ++ Octets.ofText "’"

end Toolbox

end SnapshotSuite
