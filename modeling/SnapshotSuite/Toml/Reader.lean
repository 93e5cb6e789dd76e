import SnapshotSuite.Toml.Quoted
import SnapshotSuite.Toml.Scalar
import SnapshotSuite.Toml.Table
/-!
# Reading TOML files

A file is a list of statements, one a line: headers, which say where the keys after them belong,
and keys with their values. `Toml.read?` reads the statements and then carries them out on an empty
table.
-/

namespace SnapshotSuite

namespace Toml

/-- How many arrays and inline tables may stand inside one another, and how many parts a key may
have. -/
def maxDepth : Nat := 79

/-! ### Keys -/

/-- The characters of keys without quotes. -/
def isKeyChar (c : Char) : Bool :=
  c.isAlphanum || c = '_' || c = '-'

/-- A key without dots, blanks before it passed over. -/
def readSimpleKey (cs : List Char) : Option (Parsed String cs) :=
  match h : skipBlanks cs with
  | [] => none
  | c :: rest =>
    have notLonger : (c :: rest).length ≤ cs.length := length_le_of_skipBlanks h
    if isKeyChar c then
      some ⟨String.ofList (c :: rest.takeWhile isKeyChar), rest.dropWhile isKeyChar,
        Nat.lt_of_le_of_lt (length_dropWhile_le _ _) notLonger⟩
    else (readLineText (c :: rest)).map (·.widen notLonger)

theorem length_lt_of_skipBlanks {α : Type} {cs ds : List Char} (p : Parsed α cs)
    (h : skipBlanks p.rest = ds) : ds.length < cs.length :=
  Nat.lt_of_le_of_lt (length_le_of_skipBlanks h) p.shorter

/-- A key, dots between its parts; blanks after it are passed over. -/
def readKeyParts (cs : List Char) : Option (Parsed (List String) cs) :=
  match readSimpleKey cs with
  | none => none
  | some first =>
    match h : skipBlanks first.rest with
    | [] => some ⟨[first.value], [], length_lt_of_skipBlanks first h⟩
    | c :: rest =>
      if c = '.' then
        have smaller : rest.length < cs.length :=
          Nat.lt_trans (length_lt_cons c rest) (length_lt_of_skipBlanks first h)
        (readKeyParts rest).map fun p => (p.map (first.value :: ·)).widen (Nat.le_of_lt smaller)
      else some ⟨[first.value], c :: rest, length_lt_of_skipBlanks first h⟩
termination_by cs.length

/-- A key as the tables it leads through and its last part. -/
structure Key where
  /-- The parts before the last. -/
  path : List String
  /-- The last part. -/
  name : String

/-- The key with some parts, unless there are too many or none. -/
def Key.ofParts? (parts : List String) : Option Key :=
  if maxDepth < parts.length then none else parts.getLast?.map (⟨parts.dropLast, ·⟩)

/-- A key that is not too long. -/
def readKey (cs : List Char) : Option (Parsed Key cs) := do
  let p ← readKeyParts cs
  let key ← Key.ofParts? p.value
  return p.map fun _ => key

/-! ### Values -/

/-- The text from its first character that is no blank and belongs to no line end or comment. -/
def skipFiller (inComment : Bool) : List Char → List Char
  | [] => []
  | c :: cs =>
    if c = '\n' ∨ (c = '\r' ∧ cs.head? = some '\n') then skipFiller false cs
    else if inComment then
      if isPlain c then skipFiller true cs else c :: cs
    else if isBlank c then skipFiller false cs
    else if c = '#' then skipFiller true cs
    else c :: cs

theorem length_skipFiller_le (inComment : Bool) (cs : List Char) :
    (skipFiller inComment cs).length ≤ cs.length := by
  induction cs generalizing inComment with
  | nil => simp [skipFiller]
  | cons c cs ih =>
    unfold skipFiller
    split
    · exact Nat.le_succ_of_le (ih _)
    · split
      · split
        · exact Nat.le_succ_of_le (ih _)
        · exact Nat.le_refl _
      · split
        · exact Nat.le_succ_of_le (ih _)
        · split
          · exact Nat.le_succ_of_le (ih _)
          · exact Nat.le_refl _

theorem length_le_of_skipFiller {cs ds : List Char} (h : skipFiller false cs = ds) :
    ds.length ≤ cs.length :=
  h ▸ length_skipFiller_le false cs

/-- An unquoted value. A blank instead of a `T` may stand between a date and its time. -/
def readWord (cs : List Char) : Option (Parsed Value cs) :=
  let word := cs.takeWhile isWordChar
  let rest := cs.drop word.length
  match cs with
  | [] => none
  | c :: cs =>
    if word = [] then none
    else
      let time := (rest.drop 1).takeWhile isWordChar
      if isDate word ∧ rest.head? = some ' ' ∧ isTimeOfDate time then
        some ⟨.dateTime (String.ofList (word ++ ' ' :: time)), cs.drop (word.length + time.length),
          length_drop_lt _ c cs⟩
      else (scalar? word).map fun value => ⟨value, cs.drop (word.length - 1), length_drop_lt _ c cs⟩

/-- The items of an array, after its opening bracket or a comma. -/
def readItems (item : Reader Value) (cs : List Char) : Option (Parsed (List Value) cs) :=
  match h : skipFiller false cs with
  | [] => none
  | ']' :: rest => some ⟨[], rest, length_le_of_skipFiller h⟩
  | c :: rest =>
    match item (c :: rest) with
    | none => none
    | some first =>
      have smaller : first.rest.length < cs.length :=
        Nat.lt_of_lt_of_le first.shorter (length_le_of_skipFiller h)
      match h' : skipFiller false first.rest with
      | ']' :: rest =>
        some ⟨[first.value], rest, Nat.lt_trans (length_le_of_skipFiller h') smaller⟩
      | ',' :: rest =>
        have smaller : rest.length < cs.length :=
          Nat.lt_trans (length_le_of_skipFiller h') smaller
        (readItems item rest).map fun p => (p.map (first.value :: ·)).widen (Nat.le_of_lt smaller)
      | _ => none
termination_by cs.length

/-- The text after a key and an equals sign, blanks passed over. -/
def readAssignment (cs : List Char) : Option (Parsed Key cs) := do
  let key ← readKey cs
  match h : key.rest with
  | '=' :: rest =>
    some ⟨key.value, skipBlanks rest, by
      have h₁ := length_skipBlanks_le rest
      have h₂ := key.shorter
      rw [h] at h₂
      simp only [List.length_cons] at h₂
      omega⟩
  | _ => none

/-- The keys of an inline table, from the first or after a comma, added to a table. -/
def readInline (item : Reader Value) (draft : Draft) (cs : List Char) :
    Option (Parsed Draft cs) :=
  match readAssignment cs with
  | none => none
  | some key =>
    match item key.rest with
    | none => none
    | some value =>
      have smaller : value.rest.length < cs.length := Nat.lt_trans value.shorter key.shorter
      match draft.assign key.value.path key.value.name value.value with
      | none => none
      | some draft =>
        match h : skipBlanks value.rest with
        | '}' :: rest =>
          some ⟨draft, rest, Nat.lt_trans (length_le_of_skipBlanks h) smaller⟩
        | ',' :: rest =>
          have smaller : rest.length < cs.length :=
            Nat.lt_trans (length_le_of_skipBlanks h) smaller
          (readInline item draft rest).map (·.widen (Nat.le_of_lt smaller))
        | _ => none
termination_by cs.length

/-- An inline table, after its opening brace. -/
def readInlineTable (item : Reader Value) (cs : List Char) : Option (Parsed Value cs) :=
  match h : skipBlanks cs with
  | '}' :: rest => some ⟨.table [], rest, length_le_of_skipBlanks h⟩
  | _ =>
    (readInline item ⟨.header, []⟩ cs).map (·.map fun draft => .table (finishEntries draft.entries))

/-- A value from its first character on, in which at most `room` arrays and inline tables stand
inside one another. -/
def readValue (room : Nat) : Reader Value
  | [] => none
  | '[' :: cs =>
    match room with
    | 0 => none
    | room + 1 =>
      (readItems (readValue room) cs).map fun p => (p.map Value.array).widen (length_le_cons _ _)
  | '{' :: cs =>
    match room with
    | 0 => none
    | room + 1 => (readInlineTable (readValue room) cs).map (·.widen (length_le_cons _ _))
  | c :: cs =>
    if c = '"' ∨ c = '\x27' then (readText (c :: cs)).map (·.map Value.string)
    else readWord (c :: cs)

/-! ### Statements -/

/-- What a line of a file asks for. -/
inductive Statement where
  /-- The keys that follow belong to a new table. -/
  | table (key : Key)
  /-- The keys that follow belong to a new table at the end of a list. -/
  | item (key : Key)
  /-- A key and its value. -/
  | assign (key : Key) (value : Value)

/-- The text after the end of a line, which may have blanks and a comment before it. -/
def readLineEnd (cs : List Char) : Option (Passed Unit cs) :=
  let text := skipBlanks cs
  have h₁ : text.length ≤ cs.length := length_skipBlanks_le cs
  let rest := if text.head? = some '#' then text.dropWhile isPlain else text
  have h₂ : rest.length ≤ cs.length := by
    show (if text.head? = some '#' then text.dropWhile isPlain else text).length ≤ cs.length
    split
    · exact Nat.le_trans (length_dropWhile_le _ _) h₁
    · exact h₁
  match h : rest with
  | [] => some ⟨(), [], Nat.zero_le _⟩
  | '\n' :: rest => some ⟨(), rest, by simp at h₂; omega⟩
  | '\r' :: '\n' :: rest => some ⟨(), rest, by simp at h₂; omega⟩
  | _ => none

/-- A header, after its opening bracket. -/
def readHeader : Reader Statement
  | '[' :: cs => do
    let key ← readKey cs
    match h : key.rest with
    | ']' :: ']' :: rest =>
      some ⟨.item key.value, rest, by
        have shorter := key.shorter
        rw [h] at shorter
        simp only [List.length_cons] at shorter ⊢
        omega⟩
    | _ => none
  | cs => do
    let key ← readKey cs
    match h : key.rest with
    | ']' :: rest =>
      some ⟨.table key.value, rest, by
        have shorter := key.shorter
        rw [h] at shorter
        simp only [List.length_cons] at shorter
        omega⟩
    | _ => none

/-- A statement from its first character on. -/
def readStatement : Reader Statement
  | [] => none
  | c :: cs =>
    if c = '[' then (readHeader cs).map (·.widen (length_le_cons c cs))
    else do
      let key ← readAssignment (c :: cs)
      let value ← readValue maxDepth key.rest
      return ((value.map (Statement.assign key.value ·)).widen (Nat.le_of_lt key.shorter))

/-- The statements of a file, lines without one passed over. What ends a comment early is no
statement either. -/
def readStatements (cs : List Char) : Option (List Statement) :=
  match _h : skipBlanks cs with
  | [] => some []
  | '\n' :: rest => readStatements rest
  | '\r' :: '\n' :: rest => readStatements rest
  | '#' :: rest => readStatements (rest.dropWhile isPlain)
  | c :: rest =>
    match readStatement (c :: rest) with
    | none => none
    | some statement =>
      match readLineEnd statement.rest with
      | none => none
      | some line => (readStatements line.rest).map (statement.value :: ·)
termination_by cs.length
decreasing_by
  · exact length_le_of_skipBlanks _h
  · exact Nat.lt_of_succ_lt (length_le_of_skipBlanks _h)
  · exact Nat.lt_of_le_of_lt (length_dropWhile_le _ _) (length_le_of_skipBlanks _h)
  · exact Nat.lt_of_le_of_lt line.notLonger
      (Nat.lt_of_lt_of_le statement.shorter (length_le_of_skipBlanks _h))

/-- Carries statements out on a table; `place` is the table that keys belong to. -/
def carryOut (draft : Draft) (place : List String) : List Statement → Option Draft
  | [] => some draft
  | .table key :: statements => do
    carryOut (← draft.begin key.path key.name) (key.path ++ [key.name]) statements
  | .item key :: statements => do
    carryOut (← draft.beginItem key.path key.name) (key.path ++ [key.name]) statements
  | .assign key value :: statements => do
    carryOut (← draft.edit false (·.assign key.path key.name value) place) place statements

/-- The table that a whole file holds. A byte order mark in first place is passed over. -/
def read? (text : String) : Option Table := do
  let cs := text.toList
  let statements ← readStatements (if cs.head? = some '\uFEFF' then cs.tail else cs)
  let draft ← carryOut ⟨.header, []⟩ [] statements
  return finishEntries draft.entries

end Toml

end SnapshotSuite
