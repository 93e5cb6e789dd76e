import Mathlib.Data.List.Basic
import SnapshotSuite.Proofs.Text.Quoted
import SnapshotSuite.Snapshot.Difference

/-!
# The message of a difference tells it

A difference is shown in three lines: its number, and a line of each text in quotes or the mark for an
ended text. No excerpt has a line feed, so the three lines are found again, and each of them gives its
part of the difference. The mark stands without quotes, so no line is taken for it.
-/

namespace SnapshotSuite

namespace Difference

variable {d d' : Difference} {line : String}

/-! ### Excerpts -/

/-- A line is never shown like an ended text, not even if it reads like the mark. -/
lemma excerpt_some_ne_none (line : String) : excerpt (some line) ≠ excerpt none := by
  intro h
  have hhead := head?_quoted line
  rw [show quoted line = excerpt none from h] at hhead
  exact absurd hhead (by decide)

lemma excerpt_injective : Function.Injective excerpt := by
  intro e e' h
  cases e with
  | none =>
    cases e' with
    | none => rfl
    | some line => exact absurd h.symm (excerpt_some_ne_none line)
  | some line =>
    cases e' with
    | none => exact absurd h (excerpt_some_ne_none line)
    | some line' => exact congrArg some (quoted_injective h)

/-- An excerpt stands on one line. -/
lemma newline_not_mem_excerpt (e : Option String) : '\n' ∉ (excerpt e).toList := by
  cases e with
  | none => decide
  | some line => exact newline_not_mem_quoted line

/-! ### Lines of the message -/

/-- The three lines of the message. -/
def messageLines (d : Difference) : List String :=
  ["first difference at line " ++ toString d.line ++ ":", "  expected: " ++ excerpt d.expected,
    "  actual:   " ++ excerpt d.actual]

/-- The message is its lines with line feeds between them. -/
lemma toList_message (d : Difference) :
    d.message.toList = ['\n'].intercalate (d.messageLines.map String.toList) := by
  have hnumber : ":\n  expected: ".toList = ":".toList ++ '\n' :: "  expected: ".toList := by decide
  have hexpected : "\n  actual:   ".toList = '\n' :: "  actual:   ".toList := by decide
  delta message messageLines
  simp only [String.toList_append, hnumber, hexpected, List.map_cons, List.map_nil,
    List.intercalate_cons_cons, List.intercalate_singleton, List.append_assoc, List.cons_append,
    List.nil_append]

/-- The number of a line is written in digits. -/
lemma newline_not_mem_toString (n : Nat) : '\n' ∉ (toString n).toList := by
  intro h
  rw [Nat.toString_eq_repr, Nat.toList_repr] at h
  exact absurd (Nat.isDigit_of_mem_toDigits (by decide) (by decide) h) (by decide)

/-- None of the lines has a line feed. -/
lemma newline_not_mem_messageLines (d : Difference) :
    ∀ line ∈ d.messageLines.map String.toList, '\n' ∉ line := by
  simp only [messageLines, List.map_cons, List.map_nil, List.forall_mem_cons, String.toList_append,
    List.mem_append, newline_not_mem_toString, newline_not_mem_excerpt]
  decide

/-- Cutting the message at its line feeds gives its lines. -/
lemma splitOn_message (d : Difference) :
    d.message.toList.splitOn '\n' = d.messageLines.map String.toList := by
  rw [toList_message]
  exact List.splitOn_intercalate '\n' (newline_not_mem_messageLines d) (List.cons_ne_nil _ _)

/-- The lines of the message give the difference. -/
lemma messageLines_injective : Function.Injective messageLines := by
  intro d d' h
  delta messageLines at h
  simp only [List.cons.injEq, and_true, String.append_left_inj, String.append_right_inj] at h
  obtain ⟨hnumber, hexpected, hactual⟩ := h
  have hdigits : Nat.toDigits 10 d.line = Nat.toDigits 10 d'.line := by
    rw [← Nat.toList_repr, ← Nat.toList_repr]
    exact congrArg String.toList hnumber
  cases d
  cases d'
  rw [Difference.mk.injEq]
  exact ⟨toDigits_injective (by decide) (by decide) hdigits, excerpt_injective hexpected,
    excerpt_injective hactual⟩

/-- The message of a difference is unambiguous: equal messages belong to equal differences, whatever
the lines of the texts hold. It always consists of three lines, which show the number, the line of the
first text and the line of the second. A line that reads like the mark for an ended text is not shown
like one. -/
theorem message_unambiguous (d d' : Difference) :
    (d.message = d'.message ↔ d = d') ∧
      d.message.toList.count '\n' = 2 ∧
      d.message.toList.splitOn '\n' =
        [("first difference at line " ++ toString d.line ++ ":").toList,
          ("  expected: " ++ excerpt d.expected).toList,
          ("  actual:   " ++ excerpt d.actual).toList] ∧
      ∀ line, excerpt (some line) ≠ excerpt none := by
  refine ⟨⟨fun h => ?injective, congrArg message⟩, ?count, splitOn_message d, excerpt_some_ne_none⟩
  case injective =>
    have hlines := congrArg (fun text => text.toList.splitOn '\n') h
    simp only [splitOn_message] at hlines
    have hmap : Function.Injective (List.map String.toList) :=
      List.map_injective_iff.mpr fun _ _ => String.toList_inj.mp
    exact messageLines_injective (hmap hlines)
  case count =>
    have hcount := count_intercalate (newline_not_mem_messageLines d) (List.cons_ne_nil _ _)
    rw [← toList_message] at hcount
    exact Nat.succ.inj hcount

end Difference

end SnapshotSuite
