import SnapshotSuite.Document.Basic
import SnapshotSuite.Document.Fault
import SnapshotSuite.Text.Reader
/-!
# Reading documents

`Document.read` takes a whole text. Values nest by recursion on how many containers may still be
opened, and the items of one container by recursion on what is left of the text. Real numbers are
read with a significand of at most 64 bits: the first digit that does not fit it and all digits
after that one only move the point.
-/

namespace SnapshotSuite

namespace Document

/-- Takes a value off the front of a text. -/
abbrev Reader (α : Type) := (cs : List Char) → Except Fault (Parsed α cs)

/-- The characters that may stand between the parts of a document. -/
def isBlank (c : Char) : Bool :=
  c = ' ' || c = '\t' || c = '\n' || c = '\r'

/-- The text from its first character that is no blank. -/
def skipBlanks (cs : List Char) : List Char :=
  cs.dropWhile isBlank

theorem length_skipBlanks_le (cs : List Char) : (skipBlanks cs).length ≤ cs.length :=
  length_dropWhile_le _ _

theorem length_le_of_skipBlanks {cs ds : List Char} (h : skipBlanks cs = ds) :
    ds.length ≤ cs.length :=
  h ▸ length_skipBlanks_le cs

/-! ### Quoted texts -/

/-- Four hexadecimal digits. -/
def readQuad : Reader Nat
  | a :: b :: c :: d :: rest =>
    match digitValue? 16 a, digitValue? 16 b, digitValue? 16 c, digitValue? 16 d with
    | some a, some b, some c, some d =>
      .ok ⟨((a * 16 + b) * 16 + c) * 16 + d, rest, by simp; omega⟩
    | _, _, _, _ => .error ⟨.unknownEscape, a :: b :: c :: d :: rest, 4⟩
  | cs =>
    if Utf8.size cs < 4 then .error ⟨.endInString, [], 0⟩ else .error ⟨.unknownEscape, cs, 4⟩

/-- The character that a one-letter escape stands for. -/
def unescape? : Char → Option Char
  | '"' => some '"'
  | '\\' => some '\\'
  | '/' => some '/'
  | 'b' => some '\x08'
  | 'f' => some '\x0c'
  | 'n' => some '\n'
  | 'r' => some '\r'
  | 't' => some '\t'
  | _ => none

/-- The second escape of a pair, after a first one that carries `high`. -/
def readLowHalf (high : Nat) : Reader Char
  | [] => .error ⟨.endInString, [], 0⟩
  | ['\\'] => .error ⟨.endInString, [], 0⟩
  | '\\' :: 'u' :: rest =>
    match readQuad rest with
    | .error fault => .error fault
    | .ok low =>
      if 0xDC00 ≤ low.value ∧ low.value ≤ 0xDFFF then
        .ok ((low.map fun n => Char.ofNat (0x10000 + (high - 0xD800) * 0x400 + (n - 0xDC00))).widen
          (by simp; omega))
      else .error ⟨.loneSurrogate, low.rest, 0⟩
  | '\\' :: rest => .error ⟨.unfinishedPair, rest, 1⟩
  | rest => .error ⟨.unfinishedPair, rest, 1⟩

/-- An escape, after its backslash. -/
def readEscape : Reader Char
  | [] => .error ⟨.endInString, [], 0⟩
  | 'u' :: rest =>
    match readQuad rest with
    | .error fault => .error fault
    | .ok unit =>
      if 0xDC00 ≤ unit.value ∧ unit.value ≤ 0xDFFF then .error ⟨.loneSurrogate, unit.rest, 0⟩
      else if 0xD800 ≤ unit.value ∧ unit.value ≤ 0xDBFF then
        match readLowHalf unit.value unit.rest with
        | .error fault => .error fault
        | .ok c => .ok (c.widen (by have := unit.shorter; simp; omega))
      else .ok ((unit.map Char.ofNat).widen (length_le_cons _ _))
  | c :: rest =>
    match unescape? c with
    | some d => .ok ⟨d, rest, length_lt_cons _ rest⟩
    | none => .error ⟨.unknownEscape, c :: rest, 1⟩

/-- The characters of a quoted text, after its opening quote. -/
def readQuoted (cs : List Char) : Except Fault (Parsed (List Char) cs) :=
  match cs with
  | [] => .error ⟨.endInString, [], 0⟩
  | '"' :: rest => .ok ⟨[], rest, length_lt_cons _ rest⟩
  | '\\' :: rest =>
    match readEscape rest with
    | .error fault => .error fault
    | .ok c =>
      match readQuoted c.rest with
      | .error fault => .error fault
      | .ok p => .ok ((p.map (c.value :: ·)).widen (by have := c.shorter; simp; omega))
  | c :: rest =>
    if c.toNat < 0x20 then .error ⟨.controlCharacter, c :: rest, 1⟩
    else
      match readQuoted rest with
      | .error fault => .error fault
      | .ok p => .ok ((p.map (c :: ·)).widen (length_le_cons _ _))
termination_by cs.length
decreasing_by
  · have := c.shorter
    simp only [List.length_cons]
    omega
  · simp

/-! ### Numbers -/

/-- Digits at the front of a text, added to a significand while it fits 64 bits. -/
structure Digits where
  /-- The significand with the digits that fit. -/
  significand : Nat
  /-- How many digits fit. -/
  taken : Nat
  /-- How many digits after these were passed over. -/
  dropped : Nat

/-- Adds the digits at the front of a text to a significand. -/
def readDigits (significand : Nat) : (cs : List Char) → Passed Digits cs
  | [] => ⟨⟨significand, 0, 0⟩, [], Nat.le_refl _⟩
  | c :: cs =>
    match digitValue? 10 c with
    | none => ⟨⟨significand, 0, 0⟩, c :: cs, Nat.le_refl _⟩
    | some d =>
      if significand * 10 + d < 0x10000000000000000 then
        ((readDigits (significand * 10 + d) cs).map fun digits =>
          { digits with taken := digits.taken + 1 }).widen (length_le_cons _ _)
      else
        ⟨⟨significand, 0, ((c :: cs).takeWhile Char.isDigit).length⟩,
          (c :: cs).dropWhile Char.isDigit, length_dropWhile_le _ _⟩

/-- A power of ten as a double-precision number. -/
def tenTo (n : Nat) : Float :=
  Float.ofScientific 1 false n

/-- The product of a number and a power of ten, rounded at each step of at most 308 powers; `none`
if it is too large. -/
def scale? (x : Float) (exponent : Int) : Option Float :=
  if exponent.natAbs ≤ 308 then
    if 0 ≤ exponent then
      let product := x * tenTo exponent.natAbs
      if product.isInf then none else some product
    else some (x / tenTo exponent.natAbs)
  else if x == 0 then some x
  else if 0 ≤ exponent then none
  else scale? (x / tenTo 308) (exponent + 308)
termination_by exponent.natAbs
decreasing_by omega

/-- The number with a sign, a significand and a power of ten; `rest` is where its text ends. -/
def real (negative : Bool) (significand : Nat) (exponent : Int) (rest : List Char) :
    Except Fault Number :=
  match scale? (Float.ofNat significand) exponent with
  | some x => .ok (.real (.ofFloat (if negative then -x else x)))
  | none => .error ⟨.numberOutOfRange, rest, 0⟩

/-- A power of ten, or the text behind the digit with which it reaches `2^31`. -/
inductive Power where
  /-- A power below `2^31`. -/
  | fits (value : Nat)
  /-- A larger power. -/
  | tooLarge (stop : List Char)

/-- Adds the digits at the front of a text to a power of ten. -/
def readPower (power : Nat) : (cs : List Char) → Passed Power cs
  | [] => ⟨.fits power, [], Nat.le_refl _⟩
  | c :: cs =>
    match digitValue? 10 c with
    | none => ⟨.fits power, c :: cs, Nat.le_refl _⟩
    | some d =>
      if power * 10 + d < 0x80000000 then (readPower (power * 10 + d) cs).widen (length_le_cons _ _)
      else ⟨.tooLarge cs, cs.dropWhile Char.isDigit, Nat.le_succ_of_le (length_dropWhile_le _ _)⟩

/-- Whether a power of ten is negative, after its sign if it has one. -/
def readSign : (cs : List Char) → Passed Bool cs
  | '+' :: cs => ⟨false, cs, length_le_cons _ cs⟩
  | '-' :: cs => ⟨true, cs, length_le_cons _ cs⟩
  | cs => ⟨false, cs, Nat.le_refl _⟩

/-- The power of ten of a number, after the letter `e`. A power that does not fit makes zero of a
number with a zero significand or a negative power. -/
def readExponent (negative : Bool) (significand : Nat) (exponent : Int) (cs : List Char) :
    Except Fault (Passed Number cs) :=
  let sign := readSign cs
  match h : sign.rest with
  | [] => .error ⟨.endInValue, [], 0⟩
  | c :: rest =>
    match digitValue? 10 c with
    | none => .error ⟨.malformedNumber, c :: rest, 1⟩
    | some d =>
      let power := readPower d rest
      have notLonger : power.rest.length ≤ cs.length := by
        have h₁ := sign.notLonger
        have h₂ := power.notLonger
        rw [h] at h₁
        simp only [List.length_cons] at h₁
        omega
      match power.value with
      | .fits n =>
        let total := if sign.value then exponent - n else exponent + n
        (real negative significand total power.rest).map fun x => ⟨x, power.rest, notLonger⟩
      | .tooLarge stop =>
        if significand ≠ 0 ∧ sign.value = false then .error ⟨.numberOutOfRange, stop, 0⟩
        else (real negative 0 0 stop).map fun x => ⟨x, power.rest, notLonger⟩

/-- The rest of a number after the digits of its significand, where `exponent` is the power of ten
that these have: a power of ten of its own, or nothing. -/
def readScale (negative : Bool) (significand : Nat) (exponent : Int) :
    (cs : List Char) → Except Fault (Passed Number cs)
  | 'e' :: cs => (readExponent negative significand exponent cs).map (·.widen (length_le_cons _ _))
  | 'E' :: cs => (readExponent negative significand exponent cs).map (·.widen (length_le_cons _ _))
  | cs => (real negative significand exponent cs).map fun x => ⟨x, cs, Nat.le_refl _⟩

/-- The rest of a number after its point. -/
def readFraction (negative : Bool) (significand : Nat) (exponent : Int) (cs : List Char) :
    Except Fault (Passed Number cs) :=
  let digits := readDigits significand cs
  if digits.value.taken = 0 ∧ digits.value.dropped = 0 then
    match cs with
    | [] => .error ⟨.endInValue, [], 0⟩
    | cs => .error ⟨.malformedNumber, cs, 1⟩
  else
    (readScale negative digits.value.significand (exponent - digits.value.taken) digits.rest).map
      (·.widen digits.notLonger)

/-- The least and the greatest whole number of a document are those of 64 bits, signed and
unsigned. Other numbers are real, and so is a negative zero. -/
def whole (negative : Bool) (magnitude : Nat) : Number :=
  if negative then
    if magnitude = 0 ∨ 0x8000000000000000 < magnitude then .real (.ofFloat (-Float.ofNat magnitude))
    else .integer (-magnitude)
  else .integer magnitude

/-- The rest of a number after its first digits, of which the significand has all but `dropped`. -/
def readNumberTail (negative : Bool) (significand dropped : Nat) :
    (cs : List Char) → Except Fault (Passed Number cs)
  | '.' :: cs => (readFraction negative significand dropped cs).map (·.widen (length_le_cons _ _))
  | 'e' :: cs => (readExponent negative significand dropped cs).map (·.widen (length_le_cons _ _))
  | 'E' :: cs => (readExponent negative significand dropped cs).map (·.widen (length_le_cons _ _))
  | cs =>
    if dropped = 0 then .ok ⟨whole negative significand, cs, Nat.le_refl _⟩
    else (real negative significand dropped cs).map fun x => ⟨x, cs, Nat.le_refl _⟩

/-- A number from its first digit on. Nothing but a point or a power follows a leading zero. -/
def readNumber (negative : Bool) : Reader Number
  | [] => .error ⟨.endInValue, [], 0⟩
  | '0' :: cs =>
    match cs with
    | c :: ds =>
      if c.isDigit then .error ⟨.malformedNumber, c :: ds, 1⟩
      else (readNumberTail negative 0 0 (c :: ds)).map (·.behind '0')
    | [] => (readNumberTail negative 0 0 []).map (·.behind '0')
  | c :: cs =>
    match digitValue? 10 c with
    | none => .error ⟨.malformedNumber, c :: cs, 1⟩
    | some d =>
      let digits := readDigits d cs
      (readNumberTail negative digits.value.significand digits.value.dropped digits.rest).map
        fun p => (p.widen digits.notLonger).behind c

/-! ### Values -/

/-- The letters of a word, in order, and then its value. -/
def readWord (document : Document) :
    List Char → (cs : List Char) → Except Fault (Passed Document cs)
  | [], cs => .ok ⟨document, cs, Nat.le_refl _⟩
  | _ :: _, [] => .error ⟨.endInValue, [], 0⟩
  | l :: ls, c :: cs =>
    if l = c then (readWord document ls cs).map (·.widen (length_le_cons _ _))
    else .error ⟨.wordExpected, c :: cs, 1⟩

/-- The items after an item: a closing bracket, or a comma and one item more. -/
def readItems (item : Reader Document) (cs : List Char) :
    Except Fault (Parsed (List Document) cs) :=
  match h : skipBlanks cs with
  | [] => .error ⟨.endInList, [], 0⟩
  | ']' :: rest => .ok ⟨[], rest, length_le_of_skipBlanks h⟩
  | ',' :: rest =>
    match skipBlanks rest with
    | [] => .error ⟨.endInValue, [], 0⟩
    | ']' :: more => .error ⟨.trailingComma, ']' :: more, 1⟩
    | _ :: _ =>
      match item rest with
      | .error fault => .error fault
      | .ok first =>
        have smaller : first.rest.length < cs.length := by
          have h₁ := length_le_of_skipBlanks h
          have h₂ := first.shorter
          simp only [List.length_cons] at h₁
          omega
        match readItems item first.rest with
        | .error fault => .error fault
        | .ok others => .ok ((others.map (first.value :: ·)).widen (Nat.le_of_lt smaller))
  | c :: rest => .error ⟨.listContinuation, c :: rest, 1⟩
termination_by cs.length

/-- The items of an array, after its opening bracket. -/
def readArray (item : Reader Document) (cs : List Char) :
    Except Fault (Parsed (List Document) cs) :=
  match h : skipBlanks cs with
  | [] => .error ⟨.endInList, [], 0⟩
  | ']' :: rest => .ok ⟨[], rest, length_le_of_skipBlanks h⟩
  | _ :: _ =>
    match item cs with
    | .error fault => .error fault
    | .ok first =>
      match readItems item first.rest with
      | .error fault => .error fault
      | .ok others =>
        .ok ((others.map (first.value :: ·)).widen (Nat.le_of_lt first.shorter))

/-- A key, a colon and a value, after the opening quote of the key. -/
def readField (item : Reader Document) : Reader (String × Document) := fun cs =>
  match readQuoted cs with
  | .error fault => .error fault
  | .ok key =>
    match h : skipBlanks key.rest with
    | [] => .error ⟨.endInObject, [], 0⟩
    | ':' :: rest =>
      match item rest with
      | .error fault => .error fault
      | .ok value =>
        .ok ((value.map fun v => (String.ofList key.value, v)).widen (by
          have h₁ := length_le_of_skipBlanks h
          have h₂ := key.shorter
          simp only [List.length_cons] at h₁
          omega))
    | c :: rest => .error ⟨.colonExpected, c :: rest, 1⟩

/-- The fields after a field: a closing brace, or a comma and one field more. -/
def readFields (item : Reader Document) (cs : List Char) :
    Except Fault (Parsed (List (String × Document)) cs) :=
  match h : skipBlanks cs with
  | [] => .error ⟨.endInObject, [], 0⟩
  | '}' :: rest => .ok ⟨[], rest, length_le_of_skipBlanks h⟩
  | ',' :: rest =>
    match h' : skipBlanks rest with
    | [] => .error ⟨.endInValue, [], 0⟩
    | '}' :: more => .error ⟨.trailingComma, '}' :: more, 1⟩
    | '"' :: more =>
      match readField item more with
      | .error fault => .error fault
      | .ok first =>
        have smaller : first.rest.length < cs.length := by
          have h₁ := length_le_of_skipBlanks h
          have h₂ := length_le_of_skipBlanks h'
          have h₃ := first.shorter
          simp only [List.length_cons] at h₁ h₂
          omega
        match readFields item first.rest with
        | .error fault => .error fault
        | .ok others => .ok ((others.map (first.value :: ·)).widen (Nat.le_of_lt smaller))
    | c :: more => .error ⟨.keyNotString, c :: more, 1⟩
  | c :: rest => .error ⟨.objectContinuation, c :: rest, 1⟩
termination_by cs.length

/-- The fields of an object, after its opening brace. -/
def readObject (item : Reader Document) (cs : List Char) :
    Except Fault (Parsed (List (String × Document)) cs) :=
  match h : skipBlanks cs with
  | [] => .error ⟨.endInObject, [], 0⟩
  | '}' :: rest => .ok ⟨[], rest, length_le_of_skipBlanks h⟩
  | '"' :: rest =>
    match readField item rest with
    | .error fault => .error fault
    | .ok first =>
      match readFields item first.rest with
      | .error fault => .error fault
      | .ok others =>
        .ok ((others.map (first.value :: ·)).widen (by
          have h₁ := length_le_of_skipBlanks h
          have h₂ := first.shorter
          simp only [List.length_cons] at h₁
          omega))
  | c :: rest => .error ⟨.keyNotString, c :: rest, 1⟩

/-- A value from its first character on, where `array` and `object` read what follows an opening
bracket or brace. -/
def readToken (array object : Reader Document) : Reader Document
  | [] => .error ⟨.endInValue, [], 0⟩
  | 'n' :: cs => (readWord .null ['u', 'l', 'l'] cs).map (·.behind 'n')
  | 't' :: cs => (readWord (.bool true) ['r', 'u', 'e'] cs).map (·.behind 't')
  | 'f' :: cs => (readWord (.bool false) ['a', 'l', 's', 'e'] cs).map (·.behind 'f')
  | '"' :: cs =>
    (readQuoted cs).map fun p =>
      (p.map fun s => Document.string (String.ofList s)).widen (length_le_cons _ _)
  | '-' :: cs =>
    (readNumber true cs).map fun p => (p.map Document.number).widen (length_le_cons _ _)
  | '[' :: cs => (array cs).map (·.widen (length_le_cons _ _))
  | '{' :: cs => (object cs).map (·.widen (length_le_cons _ _))
  | c :: cs =>
    if c.isDigit then (readNumber false (c :: cs)).map (·.map Document.number)
    else .error ⟨.valueExpected, c :: cs, 1⟩

/-- A value, blanks before it passed over, in which at most `room` containers stand inside one
another. A repeated key keeps its first place and takes its last value. -/
def readValue (room : Nat) : Reader Document := fun cs =>
  let inner (read : Reader Document → Reader Document) : Reader Document := fun ds =>
    match room with
    | 0 => .error ⟨.tooDeep, ds, 0⟩
    | room + 1 => read (readValue room) ds
  let array : Reader Document :=
    inner fun item ds => (readArray item ds).map (·.map Document.array)
  let object : Reader Document :=
    inner fun item ds =>
      (readObject item ds).map (·.map fun fields => Document.object (Fields.overlay [] fields))
  (readToken array object (skipBlanks cs)).map (·.widen (length_skipBlanks_le cs))

/-- How many containers of a document may stand inside one another. -/
def maxDepth : Nat := 127

/-- The document that a whole text holds. -/
def read (text : String) : Except ReadError Document :=
  let cs := text.toList
  match readValue maxDepth cs with
  | .error fault => .error (fault.locate cs)
  | .ok p =>
    match skipBlanks p.rest with
    | [] => .ok p.value
    | rest => .error (Fault.locate ⟨.trailingText, rest, 1⟩ cs)

end Document

end SnapshotSuite
