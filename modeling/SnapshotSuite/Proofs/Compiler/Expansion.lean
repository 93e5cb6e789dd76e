import Mathlib.Data.List.Forall2
import SnapshotSuite.Compiler.Command
import SnapshotSuite.Proofs.Text.Replacement

/-!
# What becomes of the arguments of a command

An argument is a sequence of characters and placeholders. Replacing all placeholders at once puts the
two paths in their places and does not look at them again. Expansion replaces the placeholders of the
input first, and those of the configuration in what has come out. It gives the same exactly if the path
of the input, with the characters around it, brings no further placeholder of the configuration.
-/

namespace SnapshotSuite

namespace Command

open Occurrence

variable {input configPath : Path} {arg : String} {c : Char} {cs : List Char}

/-- A piece of an argument. -/
inductive Piece where
  /-- A character that stands for itself. -/
  | literal (c : Char)
  /-- The placeholder of the input. -/
  | input
  /-- The placeholder of the configuration file. -/
  | config
deriving DecidableEq, Repr

/-- What a piece comes to. -/
def Piece.text (input configPath : Path) : Piece → List Char
  | .literal c => [c]
  | .input => input.toList
  | .config => configPath.toList

/-- The pieces of an argument after `skip` characters. -/
def piecesFrom (skip : Nat) : List Char → List Piece
  | [] => []
  | c :: cs =>
    match skip with
    | skip + 1 => piecesFrom skip cs
    | 0 =>
      if inputPlaceholder.toList.isPrefixOf (c :: cs) then
        .input :: piecesFrom (inputPlaceholder.length - 1) cs
      else if configPlaceholder.toList.isPrefixOf (c :: cs) then
        .config :: piecesFrom (configPlaceholder.length - 1) cs
      else .literal c :: piecesFrom 0 cs

/-- The pieces of an argument. -/
def pieces (arg : String) : List Piece := piecesFrom 0 arg.toList

/-- An argument with the placeholders of both kinds replaced at once. -/
def substituted (input configPath : Path) (arg : String) : String :=
  String.ofList ((pieces arg).flatMap (Piece.text input configPath))

/-! ### Reading an argument -/

lemma toList_inputPlaceholder :
    inputPlaceholder.toList = '{' :: ['i', 'n', 'p', 'u', 't', '}'] := by decide

lemma toList_configPlaceholder :
    configPlaceholder.toList = '{' :: ['c', 'o', 'n', 'f', 'i', 'g', '}'] := by decide

/-- No placeholder is the beginning of the other. -/
lemma not_inputPlaceholder_prefix (cs : List Char) :
    ¬inputPlaceholder.toList <+: configPlaceholder.toList ++ cs := by
  rw [toList_inputPlaceholder, toList_configPlaceholder]
  simp

lemma not_configPlaceholder_prefix (cs : List Char) :
    ¬configPlaceholder.toList <+: inputPlaceholder.toList ++ cs := by
  rw [toList_inputPlaceholder, toList_configPlaceholder]
  simp

lemma piecesFrom_eq_drop (skip : Nat) (cs : List Char) :
    piecesFrom skip cs = piecesFrom 0 (cs.drop skip) := by
  induction cs generalizing skip with
  | nil => simp [piecesFrom]
  | cons c cs ih =>
    cases skip with
    | zero => rfl
    | succ skip => rw [piecesFrom, ih, List.drop_succ_cons]

lemma piecesFrom_input :
    piecesFrom 0 (inputPlaceholder.toList ++ cs) = .input :: piecesFrom 0 cs := by
  have hfound := isPrefixOf_append inputPlaceholder.toList cs
  rw [toList_inputPlaceholder, List.cons_append] at hfound ⊢
  rw [piecesFrom, toList_inputPlaceholder, if_pos hfound, piecesFrom_eq_drop]
  rfl

lemma piecesFrom_config :
    piecesFrom 0 (configPlaceholder.toList ++ cs) = .config :: piecesFrom 0 cs := by
  have hfound := isPrefixOf_append configPlaceholder.toList cs
  have hother := not_inputPlaceholder_prefix cs
  rw [toList_configPlaceholder, List.cons_append] at hfound hother ⊢
  rw [piecesFrom, if_neg (mt List.isPrefixOf_iff_prefix.mp hother), toList_configPlaceholder,
    if_pos hfound, piecesFrom_eq_drop]
  rfl

lemma piecesFrom_literal (hinput : ¬inputPlaceholder.toList <+: c :: cs)
    (hconfig : ¬configPlaceholder.toList <+: c :: cs) :
    piecesFrom 0 (c :: cs) = .literal c :: piecesFrom 0 cs := by
  rw [piecesFrom, if_neg (mt List.isPrefixOf_iff_prefix.mp hinput),
    if_neg (mt List.isPrefixOf_iff_prefix.mp hconfig)]

/-- An argument goes on with a placeholder or with a character at which there is none. -/
lemma argument_induction {motive : List Char → Prop} (nil : motive [])
    (input : ∀ cs, motive cs → motive (inputPlaceholder.toList ++ cs))
    (config : ∀ cs, motive cs → motive (configPlaceholder.toList ++ cs))
    (literal : ∀ c cs, ¬inputPlaceholder.toList <+: c :: cs →
      ¬configPlaceholder.toList <+: c :: cs → motive cs → motive (c :: cs)) : ∀ cs, motive cs
  | [] => nil
  | c :: cs => by
    by_cases hinput : inputPlaceholder.toList <+: c :: cs
    · obtain ⟨behind, hbehind⟩ := hinput
      have hshorter : behind.length ≤ cs.length := by
        have hlength := congrArg List.length hbehind
        simp only [List.length_append, toList_inputPlaceholder, List.length_cons] at hlength
        omega
      rw [← hbehind]
      exact input behind (argument_induction nil input config literal behind)
    by_cases hconfig : configPlaceholder.toList <+: c :: cs
    · obtain ⟨behind, hbehind⟩ := hconfig
      have hshorter : behind.length ≤ cs.length := by
        have hlength := congrArg List.length hbehind
        simp only [List.length_append, toList_configPlaceholder, List.length_cons] at hlength
        omega
      rw [← hbehind]
      exact config behind (argument_induction nil input config literal behind)
    · exact literal c cs hinput hconfig (argument_induction nil input config literal cs)
termination_by cs => cs.length

/-! ### The input first -/

/-- What a piece comes to while the places of the configuration file are open. -/
def Piece.places (input : Path) : Piece → List (Option Char)
  | .literal c => [some c]
  | .input => input.toList.map some
  | .config => [none]

/-- An argument with the path of the input in it and the places of the configuration file open. -/
def opened (input : Path) (cs : List Char) : List (Option Char) :=
  (piecesFrom 0 cs).flatMap (Piece.places input)

lemma fill_places (input configPath : Path) (piece : Piece) :
    fill configPath.toList (piece.places input) = piece.text input configPath := by
  cases piece with
  | literal c => rfl
  | input => rw [Piece.places, Piece.text, fill_map_some]
  | config => rw [Piece.places, Piece.text, fill_none_cons, fill_nil, List.append_nil]

/-- Filling the open places finishes the replacement. -/
lemma toList_substituted (input configPath : Path) (arg : String) :
    (substituted input configPath arg).toList = fill configPath.toList (opened input arg.toList) := by
  rw [substituted, String.toList_ofList, opened, pieces]
  induction piecesFrom 0 arg.toList with
  | nil => rfl
  | cons piece parts ih =>
    rw [List.flatMap_cons, List.flatMap_cons, fill_append, fill_places, ih]

lemma opened_input : opened input (inputPlaceholder.toList ++ cs) =
    input.toList.map some ++ opened input cs := by
  rw [opened, piecesFrom_input, List.flatMap_cons, Piece.places, opened]

lemma opened_config : opened input (configPlaceholder.toList ++ cs) = none :: opened input cs := by
  rw [opened, piecesFrom_config, List.flatMap_cons, Piece.places, opened, List.singleton_append]

lemma opened_literal (hinput : ¬inputPlaceholder.toList <+: c :: cs)
    (hconfig : ¬configPlaceholder.toList <+: c :: cs) :
    opened input (c :: cs) = some c :: opened input cs := by
  rw [opened, piecesFrom_literal hinput hconfig, List.flatMap_cons, Piece.places, opened,
    List.singleton_append]

/-- Replacing the placeholders of the input leaves those of the configuration file at the open
places. -/
lemma replaceFrom_input_eq_fill (input : Path) (cs : List Char) :
    replaceFrom inputPlaceholder.toList input.toList 0 cs =
      fill configPlaceholder.toList (opened input cs) := by
  induction cs using argument_induction with
  | nil => rfl
  | input cs ih =>
    have hscan : replaceFrom inputPlaceholder.toList input.toList 0
        (inputPlaceholder.toList ++ cs) =
          input.toList ++ replaceFrom inputPlaceholder.toList input.toList 0 cs := by
      rw [toList_inputPlaceholder, replaceFrom_pattern_append]
    rw [hscan, ih, opened_input, fill_append, fill_map_some]
  | config cs ih =>
    have hscan : replaceFrom inputPlaceholder.toList input.toList 0
        (configPlaceholder.toList ++ cs) =
          configPlaceholder.toList ++ replaceFrom inputPlaceholder.toList input.toList 0 cs := by
      have hother := not_inputPlaceholder_prefix cs
      rw [toList_configPlaceholder, List.cons_append] at hother ⊢
      rw [replaceFrom_cons hother, toList_inputPlaceholder, replaceFrom_append (by decide)]
      rfl
    rw [hscan, ih, opened_config, fill_none_cons]
  | literal c cs hinput hconfig ih =>
    rw [replaceFrom_cons hinput, ih, opened_literal hinput hconfig, fill_some_cons]

/-- There are as many open places as placeholders of the configuration file. -/
lemma count_none_opened (input : Path) (cs : List Char) :
    (opened input cs).count none = count configPlaceholder.toList cs := by
  induction cs using argument_induction with
  | nil => rfl
  | input cs ih =>
    have hnone : (input.toList.map some).count none = 0 := List.count_eq_zero.mpr (by simp)
    have hscan : count configPlaceholder.toList (inputPlaceholder.toList ++ cs) =
        count configPlaceholder.toList cs := by
      have hother := not_configPlaceholder_prefix cs
      rw [toList_inputPlaceholder, List.cons_append] at hother ⊢
      rw [count_cons hother, toList_configPlaceholder, count_append (by decide)]
    rw [hscan, opened_input, List.count_append, hnone, Nat.zero_add, ih]
  | config cs ih =>
    have hscan : count configPlaceholder.toList (configPlaceholder.toList ++ cs) =
        count configPlaceholder.toList cs + 1 := by
      rw [toList_configPlaceholder, count_pattern_append (by decide)]
    rw [hscan, opened_config, List.count_cons_self, ih]
  | literal c cs hinput hconfig ih =>
    rw [count_cons hconfig, opened_literal hinput hconfig, List.count_cons_of_ne (by simp), ih]

/-- Without a brace of its own and without one in the path of the input, an argument has no brace
outside the open places. -/
lemma brace_notMem_opened (hinput : '{' ∉ input.toList)
    (hliteral : Piece.literal '{' ∉ pieces arg) : some '{' ∉ opened input arg.toList := by
  intro hmem
  obtain ⟨piece, hpiece, hplace⟩ := List.mem_flatMap.mp hmem
  cases piece with
  | literal c =>
    obtain rfl : '{' = c := by simpa [Piece.places] using hplace
    exact hliteral hpiece
  | input => exact hinput (by simpa [Piece.places] using hplace)
  | config => simp [Piece.places] at hplace

/-- Replacing the placeholders of the input is replacing both, those of the configuration file by
themselves. -/
lemma replaceAll_input (input : Path) (arg : String) :
    replaceAll inputPlaceholder input arg = substituted input configPlaceholder arg := by
  rw [replaceAll, replaceFrom_input_eq_fill, ← toList_substituted, String.ofList_toList]

/-- Replacing the placeholders of the input and then those of the configuration file is replacing
both at once, exactly if the first brings no new ones of the second. -/
lemma replaceAll_eq_substituted_iff (input configPath : Path) (arg : String) :
    replaceAll configPlaceholder configPath (replaceAll inputPlaceholder input arg) =
        substituted input configPath arg ↔
      occurrences configPlaceholder (replaceAll inputPlaceholder input arg) =
          occurrences configPlaceholder arg ∨
        configPath = configPlaceholder := by
  have hexact : replaceFrom configPlaceholder.toList configPath.toList 0
      (fill configPlaceholder.toList (opened input arg.toList)) =
        fill configPath.toList (opened input arg.toList) ↔
      count configPlaceholder.toList (fill configPlaceholder.toList (opened input arg.toList)) =
          (opened input arg.toList).count none ∨
        configPath.toList = configPlaceholder.toList := by
    rw [toList_configPlaceholder]
    exact replaceFrom_fill_eq_fill_iff (by decide) _
  rw [← String.toList_inj, replaceAll_input, replaceAll, String.toList_ofList, toList_substituted,
    toList_substituted, hexact, count_none_opened, String.toList_inj, occurrences, occurrences,
    toList_substituted]

/-- A path and an argument without braces of their own make no new placeholder. -/
lemma occurrences_replaceAll_input (hinput : '{' ∉ input.toList)
    (hliteral : Piece.literal '{' ∉ pieces arg) :
    occurrences configPlaceholder (replaceAll inputPlaceholder input arg) =
      occurrences configPlaceholder arg := by
  have hbrace := brace_notMem_opened hinput hliteral
  have hcount : count configPlaceholder.toList
      (fill configPlaceholder.toList (opened input arg.toList)) =
        (opened input arg.toList).count none := by
    rw [toList_configPlaceholder]
    exact count_fill_of_notMem (by decide) hbrace
  rw [occurrences, occurrences, replaceAll_input, toList_substituted, hcount, count_none_opened]

/-- The arguments of a command. Each of them has both paths in the places of its placeholders exactly
if the path of the input, with the characters around it, brings no placeholder of the configuration
file; it brings none if there is no brace in it and none but those of placeholders in the argument. -/
theorem expand_substitutes_iff (command : Command) (input configPath : Path) :
    List.Forall₂ (fun arg expanded =>
      (expanded = substituted input configPath arg ↔
        occurrences configPlaceholder (replaceAll inputPlaceholder input arg) =
            occurrences configPlaceholder arg ∨
          configPath = configPlaceholder) ∧
      ('{' ∉ input.toList → Piece.literal '{' ∉ pieces arg →
        expanded = substituted input configPath arg))
      command.args (command.expand input configPath) := by
  rw [expand, List.forall₂_map_right_iff, List.forall₂_same]
  intro arg _
  have hexact := replaceAll_eq_substituted_iff input configPath arg
  refine ⟨hexact, fun hinput hliteral => hexact.mpr (.inl ?_)⟩
  exact occurrences_replaceAll_input hinput hliteral

/-- A path with a placeholder in it does not reach the program, and neither does a path that ends a
placeholder which the argument begins. (`\x7b` and `\x7d` are braces without a partner.) -/
theorem expand_not_substituted :
    (Command.mk "swc" ["{input}"]).expand "a/{config}/input.js" "/tmp/c.json" =
        ["a//tmp/c.json/input.js"] ∧
      substituted "a/{config}/input.js" "/tmp/c.json" "{input}" = "a/{config}/input.js" ∧
      (Command.mk "swc" ["\x7bcon{input}"]).expand "fig\x7d/input.js" "/tmp/c.json" =
        ["/tmp/c.json/input.js"] ∧
      substituted "fig\x7d/input.js" "/tmp/c.json" "\x7bcon{input}" = "{config}/input.js" := by
  decide +kernel

end Command

end SnapshotSuite
