import SnapshotSuite.Text.Reader
/-!
# Quoted texts of a TOML file

A text stands in double quotes, with escapes, or in single quotes, without. Three quotes in place
of one let it run over several lines: a line end right behind them is dropped, every line end in
it counts as a line feed, and one or two quotes may stand inside, even right before the closing
three.
-/

namespace SnapshotSuite

namespace Toml

/-- Takes a value off the front of a text, or refuses it. -/
abbrev Reader (α : Type) := (cs : List Char) → Option (Parsed α cs)

/-- A space or a tab. -/
def isBlank (c : Char) : Bool :=
  c = ' ' || c = '\t'

/-- A character that may stand in a line: a tab, or none of the control characters. -/
def isPlain (c : Char) : Bool :=
  c = '\t' || (0x20 ≤ c.toNat && c.toNat ≠ 0x7F)

/-- The text from its first character that is neither a space nor a tab. -/
def skipBlanks (cs : List Char) : List Char :=
  cs.dropWhile isBlank

theorem length_skipBlanks_le (cs : List Char) : (skipBlanks cs).length ≤ cs.length :=
  length_dropWhile_le _ _

theorem length_le_of_skipBlanks {cs ds : List Char} (h : skipBlanks cs = ds) :
    ds.length ≤ cs.length :=
  h ▸ length_skipBlanks_le cs

/-- The text from its first character that is no blank and begins no line end. -/
def skipLineEnds : List Char → List Char
  | [] => []
  | c :: cs =>
    if isBlank c ∨ c = '\n' ∨ (c = '\r' ∧ cs.head? = some '\n') then skipLineEnds cs else c :: cs

theorem length_skipLineEnds_le (cs : List Char) : (skipLineEnds cs).length ≤ cs.length := by
  induction cs with
  | nil => simp [skipLineEnds]
  | cons c cs ih =>
    unfold skipLineEnds
    split
    · exact Nat.le_succ_of_le ih
    · exact Nat.le_refl _

/-- The text after a line end in first place, if there is one. -/
def dropLineEnd : List Char → List Char
  | '\n' :: cs => cs
  | '\r' :: '\n' :: cs => cs
  | cs => cs

theorem length_dropLineEnd_le (cs : List Char) : (dropLineEnd cs).length ≤ cs.length := by
  unfold dropLineEnd
  split
  · exact Nat.le_succ _
  · exact Nat.le_add_right _ 2
  · exact Nat.le_refl _

/-- The character with a code point in hexadecimal digits. -/
def ofHex? (cs : List Char) : Option Char := do
  let digits ← cs.mapM (digitValue? 16)
  let n := digits.foldl (fun value d => value * 16 + d) 0
  if n.isValidChar then some (Char.ofNat n) else none

/-- The character that a letter stands for after a backslash. -/
def unescape? (c : Char) : Option Char :=
  match c with
  | 'b' => some '\x08'
  | 't' => some '\t'
  | 'n' => some '\n'
  | 'f' => some '\x0c'
  | 'r' => some '\r'
  | '"' => some '"'
  | '\\' => some '\\'
  | _ => none

/-- How many hexadecimal digits follow a letter after a backslash. -/
def hexCount? (c : Char) : Option Nat :=
  if c = 'u' then some 4 else if c = 'U' then some 8 else none

/-- An escape, after its backslash. -/
def readEscape : Reader Char
  | [] => none
  | c :: cs =>
    match unescape? c, hexCount? c with
    | some d, _ => some ⟨d, cs, length_lt_cons c cs⟩
    | none, some n =>
      if n ≤ cs.length then (ofHex? (cs.take n)).map fun d => ⟨d, cs.drop n, length_drop_lt n c cs⟩
      else none
    | none, none => none

/-- The characters of a text on one line, after its opening quote. -/
def readLine (quote : Char) (escapes : Bool) (cs : List Char) : Option (Parsed (List Char) cs) :=
  match cs with
  | [] => none
  | c :: rest =>
    if c = quote then some ⟨[], rest, length_lt_cons c rest⟩
    else if c = '\\' ∧ escapes then
      match readEscape rest with
      | none => none
      | some d =>
        (readLine quote escapes d.rest).map fun p =>
          (p.map (d.value :: ·)).widen (d.le_cons c)
    else if isPlain c then
      (readLine quote escapes rest).map fun p => (p.map (c :: ·)).widen (length_le_cons c rest)
    else none
termination_by cs.length
decreasing_by
  · have := d.shorter
    simp only [List.length_cons]
    omega
  · simp

/-- The characters of a text over several lines, after its opening quotes. -/
def readLines (quote : Char) (escapes : Bool) (cs : List Char) : Option (Parsed (List Char) cs) :=
  match cs with
  | [] => none
  | c :: rest =>
    if c = quote then
      -- a run of three to five quotes ends the text, the surplus belongs to it
      let more := (rest.takeWhile (· = quote)).length
      if 2 ≤ more then
        let surplus := min (more - 2) 2
        some ⟨List.replicate surplus quote, rest.drop (surplus + 2), length_drop_lt _ c rest⟩
      else
        (readLines quote escapes rest).map fun p => (p.map (c :: ·)).widen (length_le_cons c rest)
    else if c = '\\' ∧ escapes then
      let blank := skipBlanks rest
      if blank ≠ dropLineEnd blank then
        -- a backslash at the end of a line joins it with the next line that has anything on it
        (readLines quote escapes (skipLineEnds blank)).map fun p => p.widen (by
          have h₁ : (skipLineEnds blank).length ≤ blank.length := length_skipLineEnds_le blank
          have h₂ : blank.length ≤ rest.length := length_skipBlanks_le rest
          simp only [List.length_cons]
          omega)
      else
        match readEscape rest with
        | none => none
        | some d =>
          (readLines quote escapes d.rest).map fun p =>
            (p.map (d.value :: ·)).widen (d.le_cons c)
    else if c = '\n' then
      (readLines quote escapes rest).map fun p => (p.map (c :: ·)).widen (length_le_cons c rest)
    else if c = '\r' ∧ rest.head? = some '\n' then
      (readLines quote escapes rest).map fun p => p.widen (length_le_cons c rest)
    else if isPlain c then
      (readLines quote escapes rest).map fun p => (p.map (c :: ·)).widen (length_le_cons c rest)
    else none
termination_by cs.length
decreasing_by
  · simp
  · have h₁ := length_skipLineEnds_le (skipBlanks rest)
    have h₂ := length_skipBlanks_le rest
    simp only [List.length_cons]
    omega
  · have := d.shorter
    simp only [List.length_cons]
    omega
  · simp
  · simp
  · simp

/-- A text on one line, from its opening quote on. -/
def readLineText : Reader String
  | [] => none
  | c :: cs =>
    if c = '"' ∨ c = '\x27' then
      (readLine c (c = '"') cs).map fun p => (p.map String.ofList).widen (length_le_cons c cs)
    else none

/-- A text, from its opening quotes on. -/
def readText : Reader String
  | [] => none
  | c :: cs =>
    if (c = '"' ∨ c = '\x27') ∧ cs.take 2 = [c, c] then
      (readLines c (c = '"') (dropLineEnd (cs.drop 2))).map fun p =>
        (p.map String.ofList).widen (Nat.le_trans (length_dropLineEnd_le (cs.drop 2))
          (Nat.le_of_lt (length_drop_lt 2 c cs)))
    else readLineText (c :: cs)

end Toml

end SnapshotSuite
