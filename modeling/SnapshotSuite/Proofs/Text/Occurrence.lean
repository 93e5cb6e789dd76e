import Mathlib.Data.List.Infix
import SnapshotSuite.Text.Occurrence

/-!
# Where a pattern stands

A pattern occurs in a text exactly if the text is the pattern with something before it and something
behind it.
-/

namespace SnapshotSuite

lemma Occurrence.occursIn_iff {pattern text : List Char} :
    Occurrence.occursIn pattern text = true ↔ pattern <:+: text := by
  induction text with
  | nil => rw [Occurrence.occursIn, List.isEmpty_iff, List.infix_nil]
  | cons c cs ih =>
    rw [Occurrence.occursIn, Bool.or_eq_true, List.isPrefixOf_iff_prefix, ih, List.infix_cons_iff]

theorem occursIn_iff {pattern text : String} :
    occursIn pattern text = true ↔ pattern.toList <:+: text.toList :=
  Occurrence.occursIn_iff

end SnapshotSuite
