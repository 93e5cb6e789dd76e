import Mathlib.Logic.Function.Basic
import Mathlib.Tactic.Lemma
import Mathlib.Tactic.SplitIfs
import SnapshotSuite.Text.Quoted

/-!
# Quoted texts are told apart

A quoted text stands on one line, and no two texts are quoted alike. A character is written as itself,
as a backslash with a letter, or by its code point in braces; the first two characters tell which, and
the digits of a code point end at the brace. So whatever follows a written character, the character
can be read off the front, and a text is read character by character.
-/

namespace SnapshotSuite

/-! ### Separators and digits -/

/-- Two lists are cut alike at the first separator. -/
lemma append_separator_inj {α : Type} [DecidableEq α] {separator : α} {xs ys xs' ys' : List α}
    (hxs : separator ∉ xs) (hys : separator ∉ ys)
    (h : xs ++ separator :: xs' = ys ++ separator :: ys') : xs = ys ∧ xs' = ys' := by
  have hsplit := congrArg (List.splitOn separator) h
  rw [List.splitOn_append_cons_self_of_not_mem hxs, List.splitOn_append_cons_self_of_not_mem hys,
    List.cons.injEq] at hsplit
  refine ⟨hsplit.1, ?_⟩
  calc xs' = [separator].intercalate (xs'.splitOn separator) :=
        (List.intercalate_splitOn separator).symm
    _ = [separator].intercalate (ys'.splitOn separator) := by rw [hsplit.2]
    _ = ys' := List.intercalate_splitOn separator

/-- There is one separator less than there are lists between them. -/
lemma count_intercalate {α : Type} [DecidableEq α] {separator : α} {lists : List (List α)}
    (h : ∀ list ∈ lists, separator ∉ list) (hne : lists ≠ []) :
    ([separator].intercalate lists).count separator + 1 = lists.length := by
  induction lists with
  | nil => exact absurd rfl hne
  | cons list lists ih =>
    obtain ⟨hlist, hlists⟩ := List.forall_mem_cons.mp h
    have hnone : list.count separator = 0 := List.count_eq_zero.mpr hlist
    cases lists with
    | nil => rw [List.intercalate_singleton, hnone, List.length_singleton]
    | cons next lists =>
      rw [List.intercalate_cons_cons, List.count_append, List.count_append, hnone,
        List.count_singleton_self, List.length_cons, ← ih hlists (List.cons_ne_nil _ _)]
      omega

section Digits

variable {base m n : Nat} {c : Char}

lemma digitChar_inj (hm : m < 16) (hn : n < 16) (h : m.digitChar = n.digitChar) : m = n := by
  have hall : ∀ m < 16, ∀ n < 16, Nat.digitChar m = Nat.digitChar n → m = n := by decide
  exact hall m hm n hn h

/-- The characters of a numeral are digits. -/
lemma exists_of_mem_toDigits (hbase : 1 < base) (h : c ∈ Nat.toDigits base n) :
    ∃ digit < base, c = digit.digitChar := by
  induction n using Nat.base_induction base hbase with
  | single m hm =>
    rw [Nat.toDigits_of_lt_base hm, List.mem_singleton] at h
    exact ⟨m, hm, h⟩
  | digit m k hk hm ih =>
    rw [← Nat.toDigits_append_toDigits hbase hm hk, List.mem_append,
      Nat.toDigits_of_lt_base hk, List.mem_singleton] at h
    exact h.elim ih fun hc => ⟨k, hk, hc⟩

/-- A number is given by its digits. -/
lemma toDigits_injective (hbase : 1 < base) (hle : base ≤ 16) :
    Function.Injective (Nat.toDigits base) := by
  have hdigit : ∀ m < base, ∀ n < base, [m.digitChar] = [n.digitChar] → m = n :=
    fun m hm n hn h => digitChar_inj (Nat.lt_of_lt_of_le hm hle) (Nat.lt_of_lt_of_le hn hle)
      (List.singleton_inj.mp h)
  have hpos : 0 < base := Nat.zero_lt_of_lt hbase
  intro m
  induction m using Nat.strongRecOn with
  | ind m ih =>
    intro n h
    rw [Nat.toDigits_eq_if (n := m) hbase, Nat.toDigits_eq_if (n := n) hbase] at h
    split_ifs at h with hm hn hn
    · exact hdigit m hm n hn h
    · exact absurd (List.singleton_eq_append_iff.mp h) (by simp)
    · exact absurd (List.append_eq_singleton_iff.mp h) (by simp)
    · obtain ⟨hfront, hlast⟩ := List.append_inj' h rfl
      have hsmaller : m / base < m :=
        Nat.div_lt_self (Nat.lt_of_lt_of_le hpos (Nat.not_lt.mp hm)) hbase
      exact Nat.ext_div_mod (ih _ hsmaller hfront)
        (hdigit _ (Nat.mod_lt m hpos) _ (Nat.mod_lt n hpos) hlast)

end Digits

namespace Quoted

variable {c d : Char} {cs ds rest rest' : List Char}

/-! ### One character -/

/-- The character that a letter behind a backslash stands for. -/
def named (letter : Char) : Char :=
  if letter = '0' then '\x00'
  else if letter = 't' then '\t'
  else if letter = 'n' then '\n'
  else if letter = 'r' then '\r'
  else letter

/-- A character is written as itself, by a letter that stands for it, or by its code point. -/
lemma escape_cases (c : Char) :
    (escape c = [c] ∧ c ≠ '\\' ∧ c ≠ '\n') ∨
      (∃ letter ∈ ['0', 't', 'n', 'r', '"', '\\'], escape c = ['\\', letter] ∧ c = named letter) ∨
      escape c = codePoint c := by
  unfold escape
  split_ifs with hnul htab hfeed hreturn hquote hbackslash hhidden
  · exact .inr (.inl ⟨'0', by decide, rfl, hnul⟩)
  · exact .inr (.inl ⟨'t', by decide, rfl, htab⟩)
  · exact .inr (.inl ⟨'n', by decide, rfl, hfeed⟩)
  · exact .inr (.inl ⟨'r', by decide, rfl, hreturn⟩)
  · exact .inr (.inl ⟨'"', by decide, rfl, hquote⟩)
  · exact .inr (.inl ⟨'\\', by decide, rfl, hbackslash⟩)
  · exact .inr (.inr rfl)
  · exact .inl ⟨rfl, hbackslash, hfeed⟩

lemma codePoint_append (c : Char) (rest : List Char) :
    codePoint c ++ rest =
      '\\' :: 'u' :: '{' :: (Nat.toDigits 16 c.toNat ++ '}' :: rest) := by
  simp [codePoint]

/-- A hexadecimal numeral has neither a brace nor a line feed. -/
lemma not_mem_toDigits {n : Nat} (h : c = '}' ∨ c = '\n') : c ∉ Nat.toDigits 16 n := by
  intro hmem
  obtain ⟨digit, hdigit, rfl⟩ := exists_of_mem_toDigits (by decide) hmem
  have hall : ∀ digit < 16, ¬(Nat.digitChar digit = '}' ∨ Nat.digitChar digit = '\n') := by
    decide
  exact hall digit hdigit h

/-- A code point is read off the front of a text. -/
lemma codePoint_append_inj (h : codePoint c ++ rest = codePoint d ++ rest') :
    c = d ∧ rest = rest' := by
  rw [codePoint_append, codePoint_append] at h
  simp only [List.cons.injEq, true_and] at h
  obtain ⟨hdigits, hrest⟩ :=
    append_separator_inj (not_mem_toDigits (.inl rfl)) (not_mem_toDigits (.inl rfl)) h
  exact ⟨Char.toNat_inj.mp (toDigits_injective (by decide) (by decide) hdigits), hrest⟩

/-- Whatever follows a written character, the character is read off the front. -/
lemma escape_append_inj (h : escape c ++ rest = escape d ++ rest') : c = d ∧ rest = rest' := by
  rcases escape_cases c with ⟨hc, hplain, -⟩ | ⟨letter, hletter, hc, hnamed⟩ | hc <;>
    rcases escape_cases d with ⟨hd, hplain', -⟩ | ⟨letter', hletter', hd, hnamed'⟩ | hd <;>
    rw [hc, hd] at h
  -- A character written as itself is no backslash, and the letter of an escape is no `u`.
  · exact List.cons.inj h
  · exact absurd (List.cons.inj h).1 hplain
  · exact absurd (List.cons.inj h).1 hplain
  · exact absurd (List.cons.inj h).1.symm hplain'
  · obtain ⟨hsame, hrest⟩ := List.cons.inj (List.cons.inj h).2
    exact ⟨by rw [hnamed, hnamed', hsame], hrest⟩
  · obtain ⟨rfl, -⟩ := List.cons.inj (List.cons.inj h).2
    exact absurd hletter (by decide)
  · exact absurd (List.cons.inj h).1.symm hplain'
  · obtain ⟨rfl, -⟩ := List.cons.inj (List.cons.inj h).2
    exact absurd hletter' (by decide)
  · exact codePoint_append_inj h

lemma newline_not_mem_escape (c : Char) : '\n' ∉ escape c := by
  rcases escape_cases c with ⟨hc, -, hfeed⟩ | ⟨letter, hletter, hc, -⟩ | hc
  · rw [hc, List.mem_singleton]
    exact Ne.symm hfeed
  · have hfeed : '\n' ≠ letter := fun h => absurd (h ▸ hletter) (by decide)
    rw [hc]
    simp [hfeed]
  · have hdigits : '\n' ∉ Nat.toDigits 16 c.toNat := not_mem_toDigits (.inr rfl)
    rw [hc, codePoint]
    simp [hdigits]

/-! ### Whole texts -/

/-- Every character leaves a trace. -/
lemma escape_ne_nil (c : Char) : escape c ≠ [] := by
  rcases escape_cases c with ⟨hc, -⟩ | ⟨letter, -, hc, -⟩ | hc <;> simp [hc, codePoint]

/-- A text is read back from its escapes, one character after the other. -/
lemma flatMap_escape_inj (h : cs.flatMap escape = ds.flatMap escape) : cs = ds := by
  induction cs generalizing ds with
  | nil =>
    cases ds with
    | nil => rfl
    | cons d ds => exact absurd (List.append_eq_nil_iff.mp h.symm).1 (escape_ne_nil d)
  | cons c cs ih =>
    cases ds with
    | nil => exact absurd (List.append_eq_nil_iff.mp h).1 (escape_ne_nil c)
    | cons d ds =>
      rw [List.flatMap_cons, List.flatMap_cons] at h
      obtain ⟨rfl, hrest⟩ := escape_append_inj h
      rw [ih hrest]

end Quoted

/-- No two texts are quoted alike. -/
lemma quoted_injective : Function.Injective quoted := by
  intro s t h
  have hchars : Quoted.chars s.toList = Quoted.chars t.toList := String.ofList_inj.mp h
  exact String.toList_inj.mp (Quoted.flatMap_escape_inj
    (List.append_cancel_right (List.cons.inj hchars).2))

/-- A quoted text stands on one line. -/
lemma newline_not_mem_quoted (s : String) : '\n' ∉ (quoted s).toList := by
  have hescaped : '\n' ∉ s.toList.flatMap Quoted.escape := by
    rw [List.mem_flatMap]
    rintro ⟨c, -, hc⟩
    exact Quoted.newline_not_mem_escape c hc
  rw [quoted, String.toList_ofList, Quoted.chars]
  simp [hescaped]

/-- A quoted text begins with a quote. -/
lemma head?_quoted (s : String) : (quoted s).toList.head? = some '"' := by
  rw [quoted, String.toList_ofList]
  rfl

end SnapshotSuite
