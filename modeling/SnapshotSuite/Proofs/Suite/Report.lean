import Mathlib.Data.List.Forall2
import SnapshotSuite.Proofs.Snapshot.Difference
import SnapshotSuite.Suite.Report

/-!
# A report accounts for every outcome

A report goes through the outcomes four times: for the entries, for the blocks, and for the two
numbers. `IsAccount` says what the four have to agree on, in terms of the results alone, and the
parts of a report are such an account.
-/

namespace SnapshotSuite

namespace Outcome

/-- How the entry of an outcome looks: it passed, it was recorded, or it failed with an error. -/
inductive Shows : Outcome → String → Prop where
  | matched (name : String) (call : Option Call) :
    Shows ⟨name, call, .ok .matched⟩ ("✅ " ++ name ++ "\n")
  | recorded (name : String) (call : Option Call) :
    Shows ⟨name, call, .ok .recorded⟩ ("📝 " ++ name ++ " (recorded)\n")
  | failed (name : String) (call : Option Call) (error : FixtureError) :
    Shows ⟨name, call, .error error⟩ ("❌ " ++ name ++ ": " ++ error.message ++ "\n")

/-- How a block for two texts ends: in the first line at which they part, as each of them has it, or
in nothing if they are the same. -/
inductive EndsIn (expected actual : String) : String → Prop where
  | parted (d : Difference) (hfirst : d.IsFirst expected actual) :
    EndsIn expected actual ("first difference at line " ++ toString d.line ++ ":\n  expected: " ++
      d.expected.elim "<end of file>" quoted ++ "\n  actual:   " ++
      d.actual.elim "<end of file>" quoted ++ "\n")
  | same (heq : expected = actual) : EndsIn expected actual ""

/-- How the block of an outcome looks whose snapshot does not match: the name of the fixture, the path
of the snapshot, both texts, and where they part. -/
inductive Details : Outcome → String → Prop where
  | mismatch (name : String) (call : Option Call) (path : Path) {expected actual ending : String}
      (hending : EndsIn expected actual ending) :
    Details ⟨name, call, .error (.mismatch path expected actual)⟩
      ("\n---- " ++ name ++ " ----\n--- expected (" ++ path ++ ")\n" ++ expected ++
        "\n+++ actual\n" ++ actual ++ "\n" ++ ending)

/-- Whether the snapshot of an outcome does not match. -/
def IsMismatch (outcome : Outcome) : Prop :=
  ∃ path expected actual, outcome.result = .error (.mismatch path expected actual)

variable {outcome : Outcome} {expected actual text : String}

/-- Every outcome shows its entry and nothing else. -/
lemma shows_iff : outcome.Shows text ↔ outcome.entry = text := by
  constructor
  · rintro (_ | _ | _) <;> rfl
  · rintro rfl
    obtain ⟨name, call, error | reconciled⟩ := outcome
    · exact .failed name call error
    · cases reconciled with
      | matched => exact .matched name call
      | recorded => exact .recorded name call

lemma excerpt_eq_elim (line : Option String) :
    Difference.excerpt line = line.elim "<end of file>" quoted := by
  cases line <;> rfl

/-- A block ends in one way, which the search for the first difference finds. -/
lemma endsIn_iff : EndsIn expected actual text ↔ differenceLine expected actual = text := by
  unfold differenceLine
  constructor
  · rintro (⟨d, hfirst⟩ | rfl)
    · rw [hfirst.find?_eq_some, ← excerpt_eq_elim, ← excerpt_eq_elim]
      rfl
    · rw [Difference.find?_self]
  · rintro rfl
    by_cases heq : expected = actual
    · subst heq
      rw [Difference.find?_self]
      exact .same rfl
    · obtain ⟨d, hfound, hfirst⟩ := Difference.exists_find?_eq_some heq
      have hparted := EndsIn.parted d hfirst
      rw [← excerpt_eq_elim, ← excerpt_eq_elim] at hparted
      rw [hfound]
      exact hparted

lemma details_iff : outcome.Details text ↔ outcome.block? = some text := by
  constructor
  · rintro ⟨name, call, path, hending⟩
    rw [← endsIn_iff.mp hending]
    rfl
  · obtain ⟨name, call, error | reconciled⟩ := outcome
    · cases error with
      | mismatch path expected actual =>
        intro h
        cases h
        exact .mismatch name call path (endsIn_iff.mpr rfl)
      | _ => exact fun h => (nomatch h)
    · exact fun h => (nomatch h)

lemma isMismatch_iff : outcome.IsMismatch ↔ outcome.block?.isSome = true := by
  obtain ⟨name, call, error | reconciled⟩ := outcome
  · cases error <;> simp [IsMismatch, block?]
  · simp [IsMismatch, block?]

instance : DecidablePred IsMismatch := fun _ => decidable_of_iff' _ isMismatch_iff

lemma passed_eq_isOk (outcome : Outcome) : outcome.passed = outcome.result.isOk := by
  obtain ⟨name, call, error | reconciled⟩ := outcome <;> rfl

end Outcome

/-- The parts of a report that accounts for some outcomes: one entry for each of them, one block for
each mismatch and for nothing else, both in order, and the numbers of those that are fine and of
those that are errors. -/
structure IsAccount (outcomes : List Outcome) (entries blocks : List String)
    (passed failed : Nat) : Prop where
  entries : List.Forall₂ Outcome.Shows outcomes entries
  blocks : List.Forall₂ Outcome.Details (outcomes.filter Outcome.IsMismatch) blocks
  passed : passed = outcomes.countP fun outcome => outcome.result.isOk
  failed : failed = outcomes.countP fun outcome => !outcome.result.isOk

variable {outcomes : List Outcome}

lemma forall₂_shows_map_entry (outcomes : List Outcome) :
    List.Forall₂ Outcome.Shows outcomes (outcomes.map Outcome.entry) := by
  rw [List.forall₂_map_right_iff, List.forall₂_same]
  exact fun outcome _ => Outcome.shows_iff.mpr rfl

/-- The pass for the blocks leaves none out and makes none up. -/
lemma forall₂_details_filterMap_block? (outcomes : List Outcome) :
    List.Forall₂ Outcome.Details (outcomes.filter Outcome.IsMismatch)
      (outcomes.filterMap Outcome.block?) := by
  induction outcomes with
  | nil => exact .nil
  | cons outcome outcomes ih =>
    cases hblock : outcome.block? with
    | none =>
      have hother : ¬outcome.IsMismatch := by simp [Outcome.isMismatch_iff, hblock]
      rwa [List.filter_cons_of_neg (by simpa using hother), List.filterMap_cons_none hblock]
    | some block =>
      have hmismatch : outcome.IsMismatch := by simp [Outcome.isMismatch_iff, hblock]
      rw [List.filter_cons_of_pos (by simpa using hmismatch), List.filterMap_cons_some hblock]
      exact .cons (Outcome.details_iff.mpr hblock) ih

/-- The parts of a report are an account of the outcomes. -/
theorem isAccount_report (outcomes : List Outcome) :
    IsAccount outcomes (outcomes.map Outcome.entry) (outcomes.filterMap Outcome.block?)
      (passedCount outcomes) (failedCount outcomes) where
  entries := forall₂_shows_map_entry outcomes
  blocks := forall₂_details_filterMap_block? outcomes
  passed := List.countP_congr fun outcome _ => by rw [Outcome.passed_eq_isOk]
  failed := List.countP_congr fun outcome _ => by rw [Outcome.passed_eq_isOk]

namespace IsAccount

variable {entries blocks : List String} {passed failed : Nat}

/-- Every outcome is counted once. -/
lemma passed_add_failed (h : IsAccount outcomes entries blocks passed failed) :
    passed + failed = outcomes.length := by
  rw [h.passed, h.failed,
    List.length_eq_countP_add_countP fun outcome : Outcome => outcome.result.isOk]
  simp only [Bool.not_eq_true, Bool.decide_eq_false]

/-- Nothing failed exactly if every result is fine. -/
lemma failed_eq_zero_iff (h : IsAccount outcomes entries blocks passed failed) :
    failed = 0 ↔ ∀ outcome ∈ outcomes, outcome.result.isOk = true := by
  rw [h.failed, List.countP_eq_zero]
  simp

end IsAccount

end SnapshotSuite
