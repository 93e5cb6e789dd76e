import Mathlib.Data.Option.Basic
import Mathlib.Tactic.ByContra
import Mathlib.Tactic.Lemma
import SnapshotSuite.Snapshot.Difference

/-!
# The first difference is the first one

The lines of a text are its pieces between line feeds, and putting the line feeds back gives the text.
So the lines of different texts are different lists, and the search along two such lists stops
before both have ended: at the first line that the two texts do not share.
-/

namespace SnapshotSuite

/-- The lines of a text are its pieces between line feeds. -/
lemma lines_eq_splitOn (cs : List Char) : lines cs = cs.splitOn '\n' := by
  induction cs with
  | nil => rfl
  | cons c cs ih =>
    rw [List.splitOn, List.splitOnP_cons_eq_if_modifyHead, ← List.splitOn, ← ih, lines]
    by_cases hc : c = '\n'
    · simp [hc]
    · rw [if_neg hc, if_neg (by simpa using hc)]
      have hne : lines cs ≠ [] := ih ▸ List.splitOnP_ne_nil _ _
      obtain ⟨first, others, hlines⟩ := List.exists_cons_of_ne_nil hne
      rw [hlines]
      rfl

/-- A text is given by its lines. -/
lemma lines_injective : Function.Injective lines := by
  intro cs ds h
  rw [lines_eq_splitOn, lines_eq_splitOn] at h
  calc cs = ['\n'].intercalate (cs.splitOn '\n') := (List.intercalate_splitOn '\n').symm
    _ = ['\n'].intercalate (ds.splitOn '\n') := by rw [h]
    _ = ds := List.intercalate_splitOn '\n'

namespace Difference

variable {d d' : Difference} {expected actual : String}

/-- Two lists of lines that are not equal part behind some lines that they share, where one of them
has a line that the other has not. -/
lemma exists_among_eq {es as : List (List Char)} (h : es ≠ as) (line : Nat) :
    ∃ shared, among line es as =
        ⟨line + shared, es[shared]?.map String.ofList, as[shared]?.map String.ofList⟩ ∧
      (∀ i < shared, ∃ piece, es[i]? = some piece ∧ as[i]? = some piece) ∧
      es[shared]? ≠ as[shared]? := by
  induction es generalizing as line with
  | nil =>
    cases as with
    | nil => exact absurd rfl h
    | cons a as => exact ⟨0, rfl, by simp, by simp⟩
  | cons e es ih =>
    cases as with
    | nil => exact ⟨0, rfl, by simp, by simp⟩
    | cons a as =>
      by_cases hea : e = a
      · subst hea
        have hrest : es ≠ as := fun hrest => h (hrest ▸ rfl)
        obtain ⟨shared, hamong, hagree, hdiffer⟩ := ih hrest (line + 1)
        refine ⟨shared + 1, ?_, ?_, by simpa using hdiffer⟩
        · rw [among, if_pos rfl, hamong, Nat.add_assoc, Nat.add_comm 1]
          rfl
        · intro i hi
          cases i with
          | zero => exact ⟨e, rfl, rfl⟩
          | succ i => simpa using hagree i (Nat.lt_of_succ_lt_succ hi)
      · exact ⟨0, by rw [among, if_neg hea]; rfl, by simp, by simpa using hea⟩

/-- The difference names the first line at which two texts part. -/
structure IsFirst (d : Difference) (expected actual : String) : Prop where
  /-- Lines are counted from one. -/
  line_pos : 1 ≤ d.line
  /-- Every line before that one is there in both texts, and is the same in both. -/
  agree : ∀ i < d.line - 1, ∃ piece, (expected.toList.splitOn '\n')[i]? = some piece ∧
    (actual.toList.splitOn '\n')[i]? = some piece
  /-- The line of the first text, if it has so many. -/
  expected_eq : d.expected = (expected.toList.splitOn '\n')[d.line - 1]?.map String.ofList
  /-- The line of the second text, if it has so many. -/
  actual_eq : d.actual = (actual.toList.splitOn '\n')[d.line - 1]?.map String.ofList
  /-- The two are not the same; at most one of the texts has ended. -/
  differ : d.expected ≠ d.actual

namespace IsFirst

/-- No first difference lies behind another one. -/
lemma not_lt (h : d.IsFirst expected actual) (h' : d'.IsFirst expected actual) :
    ¬d.line < d'.line := by
  intro hlt
  have hbefore : d.line - 1 < d'.line - 1 := Nat.sub_lt_sub_right h.line_pos hlt
  obtain ⟨piece, hexpected, hactual⟩ := h'.agree _ hbefore
  apply h.differ
  rw [h.expected_eq, h.actual_eq, hexpected, hactual]

/-- Two texts have at most one first difference. -/
lemma unique (h : d.IsFirst expected actual) (h' : d'.IsFirst expected actual) : d = d' := by
  have hline : d.line = d'.line := Nat.le_antisymm (Nat.not_lt.mp (h'.not_lt h))
    (Nat.not_lt.mp (h.not_lt h'))
  have hexpected : d.expected = d'.expected := by rw [h.expected_eq, h'.expected_eq, hline]
  have hactual : d.actual = d'.actual := by rw [h.actual_eq, h'.actual_eq, hline]
  cases d
  cases d'
  rw [Difference.mk.injEq]
  exact ⟨hline, hexpected, hactual⟩

/-- Only different texts have a first difference. -/
lemma ne (h : d.IsFirst expected actual) : expected ≠ actual := by
  rintro rfl
  exact h.differ (h.expected_eq.trans h.actual_eq.symm)

end IsFirst

@[simp] lemma find?_self (text : String) : find? text text = none :=
  if_pos rfl

/-- Different texts have a first difference, and it is found. -/
lemma exists_find?_eq_some (h : expected ≠ actual) :
    ∃ d, find? expected actual = some d ∧ d.IsFirst expected actual := by
  have hlines : lines expected.toList ≠ lines actual.toList :=
    fun heq => h (String.toList_inj.mp (lines_injective heq))
  obtain ⟨shared, hamong, hagree, hdiffer⟩ := exists_among_eq hlines 1
  rw [lines_eq_splitOn, lines_eq_splitOn] at hagree hdiffer
  refine ⟨_, if_neg h, ?_⟩
  rw [hamong, lines_eq_splitOn, lines_eq_splitOn, Nat.add_comm 1]
  have hmap : Function.Injective (Option.map String.ofList) :=
    Option.map_injective fun _ _ => String.ofList_inj.mp
  exact ⟨Nat.le_add_left 1 shared, hagree, rfl, rfl, fun heq => hdiffer (hmap heq)⟩

/-- A first difference is the one that is found. -/
lemma IsFirst.find?_eq_some (h : d.IsFirst expected actual) : find? expected actual = some d := by
  obtain ⟨found, hfound, hfirst⟩ := exists_find?_eq_some h.ne
  rw [hfound, hfirst.unique h]

/-- The search finds nothing exactly if the texts are equal, and otherwise the first line at which
they part. -/
theorem find?_finds_first (expected actual : String) :
    (find? expected actual = none ↔ expected = actual) ∧
      ∀ d, find? expected actual = some d ↔ d.IsFirst expected actual := by
  refine ⟨⟨fun hnone => ?_, fun heq => heq ▸ find?_self expected⟩,
    fun d => ⟨fun hsome => ?_, IsFirst.find?_eq_some⟩⟩
  · by_contra hne
    obtain ⟨d, hfound, -⟩ := exists_find?_eq_some hne
    rw [hnone] at hfound
    cases hfound
  · have hne : expected ≠ actual := by
      rintro rfl
      rw [find?_self] at hsome
      cases hsome
    obtain ⟨d', hfound, hfirst⟩ := exists_find?_eq_some hne
    obtain rfl : d = d' := Option.some.inj (hsome.symm.trans hfound)
    exact hfirst

end Difference

end SnapshotSuite
