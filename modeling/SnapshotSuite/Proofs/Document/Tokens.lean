import Mathlib.Data.List.Basic
import Mathlib.Tactic.IntervalCases
import Mathlib.Tactic.Lemma
import SnapshotSuite.Document.Printer
import SnapshotSuite.Document.Reader

/-!
# Quoted texts and whole numbers, read back

A reader gives a value and what is left of the text; `takeOff` keeps these two and forgets the proof
that something was taken. A text that was written in quotes is read back character by character,
each from its own escape. A whole number of 64 bits is read back from its digits, provided that what
follows cannot be a part of it.
-/

namespace SnapshotSuite

namespace Document

variable {α β : Type} {cs ds rest digits : List Char} {n : Nat}

/-- A value and the text that is left, or a fault. -/
def taken (result : Except Fault (Parsed α cs)) : Except Fault (α × List Char) :=
  result.map fun parsed => (parsed.value, parsed.rest)

@[simp] lemma taken_ok (parsed : Parsed α cs) :
    taken (.ok parsed) = .ok (parsed.value, parsed.rest) := rfl

@[simp] lemma taken_error (fault : Fault) :
    taken (.error fault : Except Fault (Parsed α cs)) = .error fault := rfl

@[simp] lemma taken_widen (result : Except Fault (Parsed α cs)) (h : cs.length ≤ ds.length) :
    taken (result.map (·.widen h)) = taken result := by
  cases result <;> rfl

/-- The same with another value. -/
def withValue (f : α → β) (result : Except Fault (α × List Char)) : Except Fault (β × List Char) :=
  result.map fun value => (f value.1, value.2)

@[simp] lemma withValue_ok (f : α → β) (value : α × List Char) :
    withValue f (.ok value) = .ok (f value.1, value.2) := rfl

@[simp] lemma withValue_error (f : α → β) (fault : Fault) :
    withValue f (.error fault) = .error fault := rfl

lemma taken_map (f : α → β) (result : Except Fault (Parsed α cs)) :
    taken (result.map (·.map f)) = withValue f (taken result) := by
  cases result <;> rfl

/-- What a reader takes off a text, and what it leaves. The type of the result does not depend on
the text, so that the text can be rewritten. -/
def takeOff (reader : Reader α) (cs : List Char) : Except Fault (α × List Char) :=
  taken (reader cs)

lemma takeOff_eq (reader : Reader α) (cs : List Char) : takeOff reader cs = taken (reader cs) := rfl

lemma exists_of_takeOff_eq_ok {reader : Reader α} {a : α} (h : takeOff reader cs = .ok (a, rest)) :
    ∃ parsed, reader cs = .ok parsed ∧ parsed.value = a ∧ parsed.rest = rest := by
  rw [takeOff_eq] at h
  cases hread : reader cs with
  | error fault =>
    rw [hread] at h
    cases h
  | ok parsed =>
    rw [hread, taken_ok, Except.ok.injEq, Prod.mk.injEq] at h
    exact ⟨parsed, rfl, h⟩

/-! ### Quoted texts -/

lemma digitValue?_hexDigit (h : n < 16) : digitValue? 16 (hexDigit n) = some n := by
  interval_cases n <;> decide

/-- A control character is read back from the two digits of its escape. -/
lemma takeOff_readEscape_unicode (h : n < 0x20) (cs : List Char) :
    takeOff readEscape ('u' :: '0' :: '0' :: hexDigit (n / 16) :: hexDigit (n % 16) :: cs) =
      .ok (Char.ofNat n, cs) := by
  have hzero : digitValue? 16 '0' = some 0 := by decide
  have hvalue : ((0 * 16 + 0) * 16 + n / 16) * 16 + n % 16 = n := by omega
  have hhigh : digitValue? 16 (hexDigit (n / 16)) = some (n / 16) :=
    digitValue?_hexDigit (by omega)
  have hlow : digitValue? 16 (hexDigit (n % 16)) = some (n % 16) :=
    digitValue?_hexDigit (by omega)
  simp only [takeOff_eq, readEscape, readQuad, hzero, hhigh, hlow, hvalue]
  rw [if_neg (by omega), if_neg (by omega)]
  rfl

lemma takeOff_readQuoted_quote (rest : List Char) :
    takeOff readQuoted ('"' :: rest) = .ok ([], rest) := by
  rw [takeOff_eq, readQuoted]
  rfl

/-- After an escape the reader goes on behind it. -/
lemma takeOff_readQuoted_of_escape {c : Char} (h : takeOff readEscape ds = .ok (c, cs)) :
    takeOff readQuoted ('\\' :: ds) = withValue (c :: ·) (takeOff readQuoted cs) := by
  obtain ⟨parsed, hescape, rfl, rfl⟩ := exists_of_takeOff_eq_ok h
  rw [takeOff_eq, takeOff_eq, readQuoted, hescape]
  dsimp only
  cases readQuoted parsed.rest <;> simp

/-- Any other character stands for itself. -/
lemma takeOff_readQuoted_of_ne {c : Char} (hquote : c ≠ '"') (hbackslash : c ≠ '\\')
    (hcontrol : ¬ c.toNat < 0x20) (cs : List Char) :
    takeOff readQuoted (c :: cs) = withValue (c :: ·) (takeOff readQuoted cs) := by
  rw [takeOff_eq, takeOff_eq, readQuoted, if_neg hcontrol]
  · cases readQuoted cs <;> simp
  · exact hquote
  · exact hbackslash

/-- One character is read back, however it was escaped. -/
lemma takeOff_readQuoted_escape (c : Char) (cs : List Char) :
    takeOff readQuoted (escape c ++ cs) = withValue (c :: ·) (takeOff readQuoted cs) := by
  unfold escape
  split_ifs with hquote hbackslash hb hf hn hr ht hcontrol
  · subst hquote
    exact takeOff_readQuoted_of_escape rfl
  · subst hbackslash
    exact takeOff_readQuoted_of_escape rfl
  · subst hb
    exact takeOff_readQuoted_of_escape rfl
  · subst hf
    exact takeOff_readQuoted_of_escape rfl
  · subst hn
    exact takeOff_readQuoted_of_escape rfl
  · subst hr
    exact takeOff_readQuoted_of_escape rfl
  · subst ht
    exact takeOff_readQuoted_of_escape rfl
  · refine takeOff_readQuoted_of_escape ?_
    refine (takeOff_readEscape_unicode hcontrol cs).trans ?_
    rw [Char.ofNat_toNat]
  · exact takeOff_readQuoted_of_ne hquote hbackslash hcontrol cs

/-- A text in quotes is read back, after its opening quote. -/
lemma takeOff_readQuoted (s rest : List Char) :
    takeOff readQuoted (s.flatMap escape ++ '"' :: rest) = .ok (s, rest) := by
  induction s with
  | nil => exact takeOff_readQuoted_quote rest
  | cons c s ih =>
    rw [List.flatMap_cons, List.append_assoc, takeOff_readQuoted_escape, ih, withValue_ok]

lemma takeOff_readToken_quote (array object : Reader Document) (cs : List Char) :
    takeOff (readToken array object) ('"' :: cs) =
      withValue (fun s => Document.string (String.ofList s)) (takeOff readQuoted cs) := by
  rw [takeOff_eq, takeOff_eq, readToken]
  cases readQuoted cs <;> rfl

/-- A text with both its quotes is read back. -/
lemma takeOff_readToken_string (array object : Reader Document) (value : String)
    (rest : List Char) :
    takeOff (readToken array object) (writeString value ++ rest) = .ok (.string value, rest) := by
  simp only [writeString, List.cons_append, List.append_assoc, List.nil_append]
  rw [takeOff_readToken_quote, takeOff_readQuoted, withValue_ok, String.ofList_toList]

/-! ### Whole numbers -/

/-- A text that cannot go on a number: its first character is no digit, no point and no `e`. -/
def EndsNumber (rest : List Char) : Prop :=
  ∀ c ∈ rest.head?, c.isDigit = false ∧ c ≠ '.' ∧ c ≠ 'e' ∧ c ≠ 'E'

lemma endsNumber_nil : EndsNumber [] := by
  simp [EndsNumber]

lemma digitValue?_of_isDigit {c : Char} (h : c.isDigit = true) :
    digitValue? 10 c = some (c.toNat - '0'.toNat) := by
  have hrange : 0x30 ≤ c.toNat ∧ c.toNat ≤ 0x39 := by
    simpa [Char.isDigit, UInt32.le_iff_toNat_le] using h
  have hsmall : c.toNat - 0x30 < 10 := by omega
  simp [digitValue?, hrange, Option.filter, hsmall]

lemma digitValue?_of_endsNumber {c : Char} (h : EndsNumber (c :: rest)) :
    digitValue? 10 c = none := by
  have hdigit : ¬ (0x30 ≤ c.toNat ∧ c.toNat ≤ 0x39) := by
    have := (h c rfl).1
    simpa [Char.isDigit, UInt32.le_iff_toNat_le] using this
  simp only [digitValue?, if_neg hdigit]
  split_ifs <;> simp [Option.filter]

lemma le_ofDigitChars (digits : List Char) (n : Nat) : n ≤ Nat.ofDigitChars 10 digits n := by
  rw [Nat.ofDigitChars_eq_ofDigitChars_zero]
  exact Nat.le_trans (Nat.le_mul_of_pos_left n (Nat.pow_pos (by decide))) (Nat.le_add_right _ _)

/-- Digits whose value fits the significand are all taken into it. -/
lemma readDigits_append (hdigits : ∀ c ∈ digits, c.isDigit = true) (hrest : EndsNumber rest)
    (significand : Nat) (hfits : Nat.ofDigitChars 10 digits significand < 0x10000000000000000) :
    (readDigits significand (digits ++ rest)).value.significand =
        Nat.ofDigitChars 10 digits significand ∧
      (readDigits significand (digits ++ rest)).value.dropped = 0 ∧
      (readDigits significand (digits ++ rest)).rest = rest := by
  induction digits generalizing significand with
  | nil =>
    rw [List.nil_append, Nat.ofDigitChars_nil]
    cases rest with
    | nil => exact ⟨rfl, rfl, rfl⟩
    | cons c rest => simp [readDigits, digitValue?_of_endsNumber hrest]
  | cons c digits ih =>
    obtain ⟨hc, hmore⟩ := List.forall_mem_cons.mp hdigits
    rw [Nat.ofDigitChars_cons, Nat.mul_comm 10] at hfits ⊢
    have hstep : significand * 10 + (c.toNat - '0'.toNat) < 0x10000000000000000 :=
      Nat.lt_of_le_of_lt (le_ofDigitChars digits _) hfits
    rw [List.cons_append, readDigits, digitValue?_of_isDigit hc]
    simp only [if_pos hstep]
    exact ih hmore _ hfits

lemma ne_of_isDigit {c d : Char} (hc : c.isDigit = true) (hd : d.isDigit = false) : c ≠ d := by
  rintro rfl
  exact Bool.false_ne_true (hd.symm.trans hc)

/-- A number has a first digit, and digits after it. -/
lemma exists_toDigits_eq_cons (n : Nat) :
    ∃ c digits, Nat.toDigits 10 n = c :: digits ∧ c.isDigit = true ∧
      ∀ d ∈ digits, d.isDigit = true := by
  obtain ⟨c, digits, hdigits⟩ := List.exists_cons_of_ne_nil (Nat.toDigits_ne_nil (n := n) (b := 10))
  have hall : ∀ d ∈ c :: digits, d.isDigit = true :=
    fun d hd => Nat.isDigit_of_mem_toDigits (by decide) (by decide) (hdigits ▸ hd)
  exact ⟨c, digits, hdigits, List.forall_mem_cons.mp hall⟩

/-- The first digit of a number other than zero is not zero. -/
lemma head?_toDigits_ne (h : n ≠ 0) : (Nat.toDigits 10 n).head? ≠ some '0' := by
  induction n using Nat.strongRecOn with
  | ind n ih =>
    rw [Nat.toDigits_eq_if (by decide)]
    split_ifs with hsmall
    · interval_cases n <;> simp_all
    · rw [List.head?_append_of_ne_nil _ Nat.toDigits_ne_nil]
      exact ih (n / 10) (by omega) (by omega)

lemma readNumberTail_of_endsNumber (hrest : EndsNumber rest) (negative : Bool)
    (significand : Nat) :
    readNumberTail negative significand 0 rest =
      .ok ⟨whole negative significand, rest, Nat.le_refl _⟩ := by
  cases rest with
  | nil => rfl
  | cons c rest =>
    obtain ⟨-, hpoint, hlower, hupper⟩ := hrest c rfl
    simp [readNumberTail, hpoint, hlower, hupper]

/-- The digits of a number of 64 bits are read back. -/
lemma takeOff_readNumber (negative : Bool) (h : n < 0x10000000000000000)
    (hrest : EndsNumber rest) :
    takeOff (readNumber negative) (Nat.toDigits 10 n ++ rest) = .ok (whole negative n, rest) := by
  by_cases hzero : n = 0
  · subst hzero
    rw [Nat.toDigits_zero, List.singleton_append]
    cases rest with
    | nil => rfl
    | cons c rest =>
      have hdigit := (hrest c rfl).1
      simp [takeOff_eq, readNumber, hdigit, readNumberTail_of_endsNumber hrest, Except.map]
  · obtain ⟨c, digits, hdigits, hc, hmore⟩ := exists_toDigits_eq_cons n
    have hfirst : c ≠ '0' := by
      have := head?_toDigits_ne hzero
      simpa [hdigits] using this
    have hvalue : Nat.ofDigitChars 10 digits (c.toNat - '0'.toNat) = n := by
      have := Nat.ofDigitChars_ten_toDigits (n := n)
      rwa [hdigits, Nat.ofDigitChars_cons, Nat.mul_zero, Nat.zero_add] at this
    obtain ⟨hsignificand, hdropped, hleft⟩ :=
      readDigits_append hmore hrest (c.toNat - '0'.toNat) (hvalue.symm ▸ h)
    rw [hdigits, List.cons_append, takeOff_eq, readNumber]
    · simp only [digitValue?_of_isDigit hc]
      generalize readDigits (c.toNat - '0'.toNat) (digits ++ rest) = read at *
      obtain ⟨⟨significand, taken, dropped⟩, left, hlength⟩ := read
      dsimp only at hsignificand hdropped hleft ⊢
      subst hdropped hleft
      rw [readNumberTail_of_endsNumber hrest, hsignificand, hvalue]
      rfl
    · exact hfirst

lemma takeOff_readToken_of_isDigit (array object : Reader Document) {c : Char}
    (h : c.isDigit = true) (cs : List Char) :
    takeOff (readToken array object) (c :: cs) =
      withValue Document.number (takeOff (readNumber false) (c :: cs)) := by
  rw [takeOff_eq, takeOff_eq, readToken, if_pos h, taken_map]
  all_goals exact ne_of_isDigit h (by decide)

lemma takeOff_readToken_minus (array object : Reader Document) (cs : List Char) :
    takeOff (readToken array object) ('-' :: cs) =
      withValue Document.number (takeOff (readNumber true) cs) := by
  rw [takeOff_eq, takeOff_eq, readToken]
  cases readNumber true cs <;> rfl

/-- A whole number of 64 bits is read back, with its sign. -/
lemma takeOff_readToken_integer (array object : Reader Document) {value : Int}
    (hleast : -0x8000000000000000 ≤ value) (hgreatest : value < 0x10000000000000000)
    (hrest : EndsNumber rest) :
    takeOff (readToken array object) (Number.writeInteger value ++ rest) =
      .ok (.number (.integer value), rest) := by
  have hsize : value.natAbs < 0x10000000000000000 := by omega
  unfold Number.writeInteger
  split_ifs with hnegative
  · have hwhole : whole true value.natAbs = .integer value := by
      rw [whole, if_pos rfl, if_neg (by omega)]
      congr 1
      omega
    rw [List.cons_append, takeOff_readToken_minus, takeOff_readNumber true hsize hrest, hwhole,
      withValue_ok]
  · have hwhole : whole false value.natAbs = .integer value := by
      rw [whole, if_neg (by decide)]
      congr 1
      omega
    have hread := takeOff_readNumber false hsize hrest
    obtain ⟨c, digits, hdigits, hc, -⟩ := exists_toDigits_eq_cons value.natAbs
    rw [hdigits, List.cons_append] at hread ⊢
    rw [takeOff_readToken_of_isDigit array object hc, hread, hwhole, withValue_ok]

end Document

end SnapshotSuite
