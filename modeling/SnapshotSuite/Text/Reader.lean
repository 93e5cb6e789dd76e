/-!
# Reading from the front of a text

A reader takes a value off the front of a text and says what is left. `Parsed` keeps the fact that
something was taken, which is why a loop over a reader ends.
-/

namespace SnapshotSuite

/-- A value read off the front of `cs`, and the text after it. -/
structure Parsed (α : Type) (cs : List Char) where
  /-- What was read. -/
  value : α
  /-- What is left. -/
  rest : List Char
  /-- At least one character was taken. -/
  shorter : rest.length < cs.length

namespace Parsed

variable {α β : Type} {cs ds : List Char}

/-- The same reading with another value. -/
def map (f : α → β) (p : Parsed α cs) : Parsed β cs :=
  ⟨f p.value, p.rest, p.shorter⟩

/-- A reading of an end of `ds` is a reading of `ds`. -/
def widen (p : Parsed α cs) (h : cs.length ≤ ds.length) : Parsed α ds :=
  ⟨p.value, p.rest, Nat.lt_of_lt_of_le p.shorter h⟩

theorem le_cons (p : Parsed α cs) (c : Char) : p.rest.length ≤ (c :: cs).length :=
  Nat.le_succ_of_le (Nat.le_of_lt p.shorter)

@[simp] theorem value_map (f : α → β) (p : Parsed α cs) : (p.map f).value = f p.value := rfl

@[simp] theorem rest_map (f : α → β) (p : Parsed α cs) : (p.map f).rest = p.rest := rfl

@[simp] theorem value_widen (p : Parsed α cs) (h : cs.length ≤ ds.length) :
    (p.widen h).value = p.value := rfl

@[simp] theorem rest_widen (p : Parsed α cs) (h : cs.length ≤ ds.length) :
    (p.widen h).rest = p.rest := rfl

end Parsed

/-- A value read off the front of `cs`, perhaps off none of it, and the text after it. -/
structure Passed (α : Type) (cs : List Char) where
  /-- What was read. -/
  value : α
  /-- What is left. -/
  rest : List Char
  /-- Nothing was added. -/
  notLonger : rest.length ≤ cs.length

namespace Passed

variable {α β : Type} {cs ds : List Char}

/-- The same reading with another value. -/
def map (f : α → β) (p : Passed α cs) : Passed β cs :=
  ⟨f p.value, p.rest, p.notLonger⟩

/-- A reading of an end of `ds` is a reading of `ds`. -/
def widen (p : Passed α cs) (h : cs.length ≤ ds.length) : Passed α ds :=
  ⟨p.value, p.rest, Nat.le_trans p.notLonger h⟩

/-- With a character in front, something was taken. -/
def behind (p : Passed α cs) (c : Char) : Parsed α (c :: cs) :=
  ⟨p.value, p.rest, Nat.lt_succ_of_le p.notLonger⟩

@[simp] theorem value_map (f : α → β) (p : Passed α cs) : (p.map f).value = f p.value := rfl

@[simp] theorem rest_map (f : α → β) (p : Passed α cs) : (p.map f).rest = p.rest := rfl

@[simp] theorem value_widen (p : Passed α cs) (h : cs.length ≤ ds.length) :
    (p.widen h).value = p.value := rfl

@[simp] theorem rest_widen (p : Passed α cs) (h : cs.length ≤ ds.length) :
    (p.widen h).rest = p.rest := rfl

@[simp] theorem value_behind (p : Passed α cs) (c : Char) : (p.behind c).value = p.value := rfl

@[simp] theorem rest_behind (p : Passed α cs) (c : Char) : (p.behind c).rest = p.rest := rfl

end Passed

theorem length_dropWhile_le {α : Type} (p : α → Bool) (l : List α) :
    (l.dropWhile p).length ≤ l.length :=
  (List.dropWhile_sublist p).length_le

theorem length_lt_cons {α : Type} (a : α) (l : List α) : l.length < (a :: l).length :=
  Nat.lt_succ_self _

theorem length_le_cons {α : Type} (a : α) (l : List α) : l.length ≤ (a :: l).length :=
  Nat.le_succ _

theorem length_drop_lt {α : Type} (n : Nat) (a : α) (l : List α) :
    (l.drop n).length < (a :: l).length := by
  rw [List.length_drop, List.length_cons]
  exact Nat.lt_succ_of_le (Nat.sub_le _ _)

/-- The value of a digit in a base up to sixteen, in either case. -/
def digitValue? (base : Nat) (c : Char) : Option Nat :=
  let n := c.toNat
  let value? :=
    if 0x30 ≤ n ∧ n ≤ 0x39 then some (n - 0x30)
    else if 0x61 ≤ n ∧ n ≤ 0x66 then some (n - 0x61 + 10)
    else if 0x41 ≤ n ∧ n ≤ 0x46 then some (n - 0x41 + 10)
    else none
  value?.filter (· < base)

end SnapshotSuite
