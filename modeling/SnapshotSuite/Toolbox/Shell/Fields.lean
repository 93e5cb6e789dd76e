import SnapshotSuite.Toolbox.Shell.Pattern
/-!
# Fields

A word that has been expanded is a list of stretches. The values of parameters are split into fields
at separators, blanks among them melting into one; the text of the script and what is quoted are
not. A quotation leaves marks, so that an empty one still makes a field.
-/

namespace SnapshotSuite

namespace Toolbox

namespace Shell

/-- A unit of an expanded word. -/
inductive Atom where
  /-- A character. -/
  | char (c : Char) (isQuoted : Bool)
  /-- The beginning or the end of a quotation. -/
  | mark
  /-- The gap between two operands. -/
  | gap
deriving DecidableEq, Repr

/-- Where a stretch is split. -/
inductive Splitting where
  /-- Nowhere. -/
  | never
  /-- At separators; a stretch of the script's own text. -/
  | text
  /-- At separators and gaps. -/
  | value
  /-- At gaps, each of which ends a field. -/
  | operands
deriving DecidableEq, Repr

/-- A part of an expanded word. -/
structure Stretch where
  /-- Where it is split. -/
  splitting : Splitting
  /-- What it is made of. -/
  atoms : List Atom
deriving DecidableEq, Repr

/-- An expanded word. -/
abbrev Expanded := List Stretch

namespace Expanded

/-- An expanded word with one more character of the script in front. Such characters stand in one
stretch. -/
def withText (c : Char) : Expanded → Expanded
  | ⟨.text, atoms⟩ :: stretches => ⟨.text, .char c false :: atoms⟩ :: stretches
  | stretches => ⟨.text, [.char c false]⟩ :: stretches

/-- The characters of a word that is not split. -/
def chars (word : Expanded) : List PatternChar :=
  word.flatMap fun stretch => stretch.atoms.filterMap fun
    | .char c isQuoted => some ⟨c, isQuoted⟩
    | _ => none

/-- The text of a word that is not split. -/
def text (word : Expanded) : Octets :=
  String.ofList (word.chars.map (·.char))

/-- The pattern that a word writes. -/
def pattern (word : Expanded) : List Wild :=
  Pattern.read (quoteBackslashed word.chars)

end Expanded

/-! ### Splitting -/

/-- How an atom separates fields. -/
inductive Separation where
  /-- It does not. -/
  | none
  /-- As a blank, which melts with others. -/
  | blank
  /-- By itself. -/
  | firm
deriving DecidableEq, Repr

/-- How an atom of a stretch separates fields. -/
def Splitting.separation (separators : List Char) : Splitting → Atom → Separation
  | .never, _ => .none
  | .operands, .gap => .firm
  | .operands, _ => .none
  | _, .gap => .blank
  | _, .mark => .none
  | _, .char c _ =>
    if !separators.contains c then .none
    else if c = ' ' ∨ c = '\t' ∨ c = '\n' then .blank
    else .firm

/-- How far the splitting has come. -/
structure Splitter where
  /-- The fields that are complete, the last one first. -/
  fields : List (List Atom)
  /-- What has been read of a field, the last atom first. -/
  field : List Atom
  /-- Behind a separator, whether one that is no blank still belongs to it. -/
  behind : Option Bool
  /-- Whether what follows the last separator is a field even if it is empty. -/
  keepsLast : Bool

namespace Splitter

/-- Ends a field. -/
def cut (splitter : Splitter) (behind : Option Bool) : Splitter :=
  { splitter with fields := splitter.field.reverse :: splitter.fields, field := [], behind }

/-- Goes on by one atom. -/
def step (splitter : Splitter) (separation : Separation) (atom : Atom) : Splitter :=
  match separation, splitter.behind with
  | .none, _ => { splitter with field := atom :: splitter.field, behind := none }
  | .blank, some _ => splitter
  | .blank, none => if splitter.field = [] then splitter else splitter.cut (some true)
  | .firm, some true => { splitter with behind := some false }
  | .firm, _ => splitter.cut (some false)

/-- Goes on by one stretch. -/
def stretch (separators : List Char) (splitter : Splitter) (stretch : Stretch) : Splitter :=
  let splitter := { splitter with behind := none }
  match stretch.splitting with
  | .operands =>
    stretch.atoms.foldl (fun splitter atom =>
      if atom = .gap then splitter.cut none
      else { splitter with field := atom :: splitter.field })
      { splitter with keepsLast := true }
  | .never => { splitter with field := stretch.atoms.reverse ++ splitter.field }
  | splitting =>
    stretch.atoms.foldl (fun splitter atom =>
      splitter.step (splitting.separation separators atom) atom)
      { splitter with keepsLast := false }

end Splitter

/-- The fields of an expanded word. -/
def Expanded.fields (separators : List Char) (word : Expanded) : List (List Atom) :=
  let splitter := word.foldl (Splitter.stretch separators) ⟨[], [], none, false⟩
  let last := if splitter.keepsLast ∨ splitter.field ≠ [] then [splitter.field.reverse] else []
  splitter.fields.reverse ++ last

/-- The characters of a field. -/
def fieldChars (field : List Atom) : List PatternChar :=
  field.filterMap fun
    | .char c isQuoted => some ⟨c, isQuoted⟩
    | _ => none

/-- The text of characters. -/
def textOf (cs : List PatternChar) : Octets :=
  String.ofList (cs.map (·.char))

end Shell

end Toolbox

end SnapshotSuite
