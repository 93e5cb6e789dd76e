import Mathlib.Data.List.Infix
import SnapshotSuite.Text.Occurrence

/-!
# Replacing a pattern

The first character of a placeholder does not come back in it, so no two of its occurrences overlap
and each of them is replaced. A text with open places can be filled with placeholders, and these be
replaced after that. This gives what filling the places at once gives exactly if no placeholder stands
anywhere but at the places, or the placeholder is replaced by itself.
-/

namespace SnapshotSuite

namespace Occurrence

/-- How often a pattern stands in a text. -/
def count (pattern text : List Char) : Nat :=
  text.tails.countP pattern.isPrefixOf

/-- The text with something at each of its open places. -/
def fill (filler : List Char) (places : List (Option Char)) : List Char :=
  places.flatMap fun place => place.elim filler ([·])

variable {first c : Char} {rest front text pattern replacement filler : List Char}
  {places more : List (Option Char)}

/-! ### Scanning for a pattern -/

lemma isPrefixOf_append (pattern text : List Char) :
    pattern.isPrefixOf (pattern ++ text) = true :=
  List.isPrefixOf_iff_prefix.mpr (List.prefix_append pattern text)

lemma replaceFrom_eq_drop (skip : Nat) (text : List Char) :
    replaceFrom pattern replacement skip text =
      replaceFrom pattern replacement 0 (text.drop skip) := by
  induction text generalizing skip with
  | nil => simp [replaceFrom]
  | cons c cs ih =>
    cases skip with
    | zero => rfl
    | succ skip => rw [replaceFrom, ih, List.drop_succ_cons]

lemma replaceFrom_pattern_append :
    replaceFrom (first :: rest) replacement 0 (first :: rest ++ text) =
      replacement ++ replaceFrom (first :: rest) replacement 0 text := by
  have hfound := isPrefixOf_append (first :: rest) text
  rw [List.cons_append] at hfound ⊢
  rw [replaceFrom, if_pos hfound, replaceFrom_eq_drop, List.length_cons, Nat.add_sub_cancel,
    List.drop_left]

lemma replaceFrom_cons (h : ¬pattern <+: c :: text) :
    replaceFrom pattern replacement 0 (c :: text) =
      c :: replaceFrom pattern replacement 0 text := by
  rw [replaceFrom, if_neg (mt List.isPrefixOf_iff_prefix.mp h)]

/-- What a scan does holds of every text if it holds behind an occurrence and behind a character at
which there is none. -/
lemma scan_induction (first : Char) (rest : List Char) {motive : List Char → Prop}
    (nil : motive [])
    (found : ∀ text, motive text → motive (first :: rest ++ text))
    (other : ∀ c text, ¬first :: rest <+: c :: text → motive text → motive (c :: text)) :
    ∀ text, motive text
  | [] => nil
  | c :: text => by
    by_cases h : first :: rest <+: c :: text
    · obtain ⟨behind, hbehind⟩ := h
      have hshorter : behind.length ≤ text.length := by
        have hlength := congrArg List.length hbehind
        rw [List.cons_append, List.length_cons, List.length_cons, List.length_append] at hlength
        omega
      rw [← hbehind]
      exact found behind (scan_induction first rest nil found other behind)
    · exact other c text h (scan_induction first rest nil found other text)
termination_by text => text.length

lemma not_prefix_of_ne (h : c ≠ first) : ¬first :: rest <+: c :: text := fun hbegins =>
  h (List.cons_prefix_cons.mp hbegins).1.symm

/-! ### How often a pattern stands in a text -/

lemma count_nil : count (first :: rest) [] = 0 := by
  simp [count]

lemma count_cons (h : ¬pattern <+: c :: text) : count pattern (c :: text) = count pattern text := by
  rw [count, List.tails_cons, List.countP_cons_of_neg (mt List.isPrefixOf_iff_prefix.mp h), count]

lemma count_le_count_cons : count pattern text ≤ count pattern (c :: text) := by
  rw [count, count, List.tails_cons, List.countP_cons]
  exact Nat.le_add_right _ _

/-- A text without the first character of the pattern has no part in an occurrence that starts in
it. -/
lemma count_append (h : first ∉ front) :
    count (first :: rest) (front ++ text) = count (first :: rest) text := by
  induction front with
  | nil => rfl
  | cons c front ih =>
    obtain ⟨hc, hfront⟩ := List.ne_and_not_mem_of_not_mem_cons h
    rw [List.cons_append, count_cons (not_prefix_of_ne hc.symm), ih hfront]

lemma replaceFrom_append (h : first ∉ front) :
    replaceFrom (first :: rest) replacement 0 (front ++ text) =
      front ++ replaceFrom (first :: rest) replacement 0 text := by
  induction front with
  | nil => rfl
  | cons c front ih =>
    obtain ⟨hc, hfront⟩ := List.ne_and_not_mem_of_not_mem_cons h
    rw [List.cons_append, replaceFrom_cons (not_prefix_of_ne hc.symm), ih hfront, List.cons_append]

section Placeholders

variable (hfirst : first ∉ rest)

include hfirst

lemma count_pattern_append :
    count (first :: rest) (first :: rest ++ text) = count (first :: rest) text + 1 := by
  have hfound := isPrefixOf_append (first :: rest) text
  rw [List.cons_append] at hfound ⊢
  rw [count, List.tails_cons, List.countP_cons_of_pos hfound, ← count, count_append hfirst]

/-- Every occurrence of a placeholder is replaced. -/
lemma length_replaceFrom (replacement text : List Char) :
    (replaceFrom (first :: rest) replacement 0 text).length +
        count (first :: rest) text * (first :: rest).length =
      text.length + count (first :: rest) text * replacement.length := by
  induction text using scan_induction first rest with
  | nil => simp [replaceFrom, count_nil]
  | found text ih =>
    rw [replaceFrom_pattern_append, count_pattern_append hfirst, List.length_append,
      List.length_append, Nat.succ_mul, Nat.succ_mul]
    omega
  | other c text h ih =>
    rw [replaceFrom_cons h, count_cons h, List.length_cons (a := c), List.length_cons (a := c)]
    omega

end Placeholders

/-! ### Filling open places -/

@[simp] lemma fill_nil : fill filler [] = [] := rfl

@[simp] lemma fill_none_cons : fill filler (none :: places) = filler ++ fill filler places := rfl

@[simp] lemma fill_some_cons : fill filler (some c :: places) = c :: fill filler places := rfl

lemma fill_append : fill filler (places ++ more) = fill filler places ++ fill filler more :=
  List.flatMap_append

lemma fill_map_some (text : List Char) : fill filler (text.map some) = text := by
  induction text with
  | nil => rfl
  | cons c text ih => rw [List.map_cons, fill_some_cons, ih]

lemma length_fill (filler : List Char) (places : List (Option Char)) :
    (fill filler places).length = (fill [] places).length + places.count none * filler.length := by
  induction places with
  | nil => simp
  | cons place places ih =>
    cases place with
    | none =>
      rw [fill_none_cons, fill_none_cons, List.nil_append, List.length_append, ih,
        List.count_cons_self, Nat.succ_mul]
      omega
    | some c =>
      rw [fill_some_cons, fill_some_cons, List.length_cons, List.length_cons, ih,
        List.count_cons_of_ne (by simp)]
      omega

/-- What stands in a filled text without the first character of the filler has no open place. -/
lemma exists_eq_map_some (h : first ∉ front) (hbegins : front <+: fill (first :: rest) places) :
    ∃ behind, places = front.map some ++ behind := by
  induction front generalizing places with
  | nil => exact ⟨places, rfl⟩
  | cons c front ih =>
    obtain ⟨hc, hfront⟩ := List.ne_and_not_mem_of_not_mem_cons h
    cases places with
    | nil => simp at hbegins
    | cons place places =>
      cases place with
      | none => exact absurd (List.cons_prefix_cons.mp hbegins).1.symm hc
      | some d =>
        rw [fill_some_cons, List.cons_prefix_cons] at hbegins
        obtain ⟨rfl, hrest⟩ := hbegins
        obtain ⟨behind, rfl⟩ := ih hfront hrest
        exact ⟨behind, rfl⟩

section Exactness

variable (hfirst : first ∉ rest)

include hfirst

lemma count_none_le_count_fill (places : List (Option Char)) :
    places.count none ≤ count (first :: rest) (fill (first :: rest) places) := by
  induction places with
  | nil => simp
  | cons place places ih =>
    cases place with
    | none =>
      rw [List.count_cons_self, fill_none_cons, count_pattern_append hfirst]
      exact Nat.succ_le_succ ih
    | some c =>
      rw [List.count_cons_of_ne (by simp), fill_some_cons]
      exact ih.trans count_le_count_cons

/-- In a text without the first character of the placeholder there are none but at the places. -/
lemma count_fill_of_notMem (h : some first ∉ places) :
    count (first :: rest) (fill (first :: rest) places) = places.count none := by
  induction places with
  | nil => simp [count_nil]
  | cons place places ih =>
    obtain ⟨hplace, hplaces⟩ := List.ne_and_not_mem_of_not_mem_cons h
    cases place with
    | none =>
      rw [List.count_cons_self, fill_none_cons, count_pattern_append hfirst, ih hplaces]
    | some c =>
      have hc : c ≠ first := fun heq => hplace (congrArg some heq.symm)
      rw [List.count_cons_of_ne (by simp), fill_some_cons, count_cons (not_prefix_of_ne hc),
        ih hplaces]

/-- How a text with open places goes on: with one of them, with a placeholder of its own, or with a
character at which no placeholder stands once the places are filled. -/
lemma places_induction {motive : List (Option Char) → Prop} (nil : motive [])
    (place : ∀ places, motive places → motive (none :: places))
    (own : ∀ places, motive places → motive ((first :: rest).map some ++ places))
    (other : ∀ c places, ¬first :: rest <+: c :: fill (first :: rest) places → motive places →
      motive (some c :: places)) : ∀ places, motive places
  | [] => nil
  | none :: places => place places (places_induction nil place own other places)
  | some c :: places => by
    by_cases h : first :: rest <+: c :: fill (first :: rest) places
    · obtain ⟨rfl, hrest⟩ := List.cons_prefix_cons.mp h
      obtain ⟨behind, rfl⟩ := exists_eq_map_some hfirst hrest
      exact own behind (places_induction nil place own other behind)
    · exact other c places h (places_induction nil place own other places)
termination_by places => places.length

/-- A placeholder of the text's own is replaced although it is no open place: the length tells what
comes out from what filling gives, unless the placeholder is replaced by itself. -/
lemma replaceFrom_append_eq_iff :
    replacement ++ replaceFrom (first :: rest) replacement 0 (fill (first :: rest) places) =
      first :: rest ++ fill replacement places ↔
    replacement = first :: rest ∧
      replaceFrom (first :: rest) replacement 0 (fill (first :: rest) places) =
        fill replacement places := by
  refine ⟨fun h => List.append_inj h ?_, fun ⟨hsame, hrest⟩ => by rw [hrest, hsame]⟩
  obtain ⟨more, hmore⟩ := Nat.exists_eq_add_of_le (count_none_le_count_fill hfirst places)
  have hlength := congrArg List.length h
  have hreplaced := length_replaceFrom hfirst replacement (fill (first :: rest) places)
  have hplaceholders := length_fill (first :: rest) places
  have hfilled := length_fill replacement places
  rw [List.length_append, List.length_append] at hlength
  rw [hmore, Nat.add_mul, Nat.add_mul] at hreplaced
  have htimes : (more + 1) * replacement.length = (more + 1) * (first :: rest).length := by
    rw [Nat.succ_mul, Nat.succ_mul]
    omega
  exact Nat.eq_of_mul_eq_mul_left (Nat.succ_pos more) htimes

/-- Replacing the placeholders that open places were filled with is filling the places, exactly if
there are no others, or if a placeholder is replaced by itself. -/
theorem replaceFrom_fill_eq_fill_iff (places : List (Option Char)) :
    replaceFrom (first :: rest) replacement 0 (fill (first :: rest) places) =
        fill replacement places ↔
      count (first :: rest) (fill (first :: rest) places) = places.count none ∨
        replacement = first :: rest := by
  induction places using places_induction hfirst with
  | nil => simp [replaceFrom, count_nil]
  | place places ih =>
    rw [fill_none_cons, fill_none_cons, replaceFrom_pattern_append, List.append_cancel_left_eq, ih,
      count_pattern_append hfirst, List.count_cons_self, Nat.add_right_cancel_iff]
  | own places ih =>
    have hnone : ((first :: rest).map some).count none = 0 := List.count_eq_zero.mpr (by simp)
    have hmore : count (first :: rest) (fill (first :: rest) places) + 1 ≠ 0 + places.count none := by
      have hle := count_none_le_count_fill hfirst places
      omega
    rw [fill_append, fill_append, fill_map_some, fill_map_some, replaceFrom_pattern_append,
      replaceFrom_append_eq_iff hfirst, ih, count_pattern_append hfirst, List.count_append, hnone,
      or_iff_right hmore]
    exact ⟨And.left, fun hsame => ⟨hsame, .inr hsame⟩⟩
  | other c places h ih =>
    rw [fill_some_cons, fill_some_cons, replaceFrom_cons h, List.cons_inj_right, ih, count_cons h,
      List.count_cons_of_ne (by simp)]

end Exactness

end Occurrence

/-- How often `pattern` stands in `text`. -/
def occurrences (pattern text : String) : Nat :=
  Occurrence.count pattern.toList text.toList

end SnapshotSuite
