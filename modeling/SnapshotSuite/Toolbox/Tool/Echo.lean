import SnapshotSuite.Toolbox.Escape
import SnapshotSuite.Toolbox.Job
/-!
# Printing words
-/

namespace SnapshotSuite

namespace Toolbox

namespace Echo

/-- How words are printed. -/
structure Style where
  /-- Whether the line is ended. -/
  endsLine : Bool
  /-- Whether escapes are replaced. -/
  hasEscapes : Bool
deriving DecidableEq, Repr

/-- The style that a letter asks for. -/
def Style.with? (style : Style) : Char → Option Style
  | 'n' => some { style with endsLine := false }
  | 'e' => some { style with hasEscapes := true }
  | 'E' => some { style with hasEscapes := false }
  | _ => none

/-- The style that the first words ask for, and the other words. A word counts only if all of its
letters do. -/
def readStyle (style : Style) : List Octets → Style × List Octets
  | [] => (style, [])
  | word :: words =>
    match word.toList with
    | '-' :: c :: cs =>
      match (c :: cs).foldlM Style.with? style with
      | some style => readStyle style words
      | none => (style, word :: words)
    | _ => (style, word :: words)

end Echo

/-- Prints words, parted by spaces. -/
def echo : Tool := fun _ words => do
  let (style, words) := Echo.readStyle ⟨true, false⟩ words
  let line := " ".intercalate words
  let ending := if style.endsLine then "\n" else ""
  if style.hasEscapes then
    let expansion := expandEscapes .words line
    let ending := if expansion.ending.isSome then "" else ending
    Job.print (String.ofList expansion.octets ++ ending)
  else Job.print (line ++ ending)
  return .code 0

end Toolbox

end SnapshotSuite
