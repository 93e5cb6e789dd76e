/-!
# Occurrences of a pattern

Whether a pattern stands somewhere in a text, and the text with every occurrence replaced. The text
is scanned from the left, and occurrences do not overlap.
-/

namespace SnapshotSuite

namespace Occurrence

/-- Whether the pattern stands somewhere in the text. -/
def occursIn (pattern : List Char) : List Char → Bool
  | [] => pattern.isEmpty
  | c :: cs => pattern.isPrefixOf (c :: cs) || occursIn pattern cs

/-- The text after `skip` characters with every occurrence of the pattern replaced. -/
def replaceFrom (pattern replacement : List Char) (skip : Nat) : List Char → List Char
  | [] => []
  | c :: cs =>
    match skip with
    | skip + 1 => replaceFrom pattern replacement skip cs
    | 0 =>
      if pattern.isPrefixOf (c :: cs) then
        replacement ++ replaceFrom pattern replacement (pattern.length - 1) cs
      else c :: replaceFrom pattern replacement 0 cs

end Occurrence

/-- Whether `pattern` stands somewhere in `text`. -/
def occursIn (pattern text : String) : Bool :=
  Occurrence.occursIn pattern.toList text.toList

/-- The text with every occurrence of a pattern of at least one character replaced. -/
def replaceAll (pattern replacement text : String) : String :=
  String.ofList (Occurrence.replaceFrom pattern.toList replacement.toList 0 text.toList)

end SnapshotSuite
