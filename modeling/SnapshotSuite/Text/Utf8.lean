/-!
# Text as bytes

A text is written as UTF-8. Reading goes through `scan`, which splits any bytes into pieces: a
character that is written correctly, or a fault. A fault is the longest beginning of a correct
sequence that cannot be continued, or one byte that begins none. `decode?` accepts bytes without
a fault; `decodeLossy` shows each fault as the replacement character.
-/

namespace SnapshotSuite

/-- File contents and the output of programs. -/
abbrev Bytes := List UInt8

namespace Utf8

/-- The bytes that write a list of characters. -/
def encode (cs : List Char) : Bytes :=
  cs.flatMap String.utf8EncodeChar

@[simp] theorem encode_nil : encode [] = [] := rfl

@[simp] theorem encode_cons (c : Char) (cs : List Char) :
    encode (c :: cs) = String.utf8EncodeChar c ++ encode cs := rfl

theorem encode_append (cs ds : List Char) : encode (cs ++ ds) = encode cs ++ encode ds := by
  simp [encode]

/-- The number of bytes that write a list of characters. -/
def size (cs : List Char) : Nat :=
  (encode cs).length

/-- What a first byte announces: its own share of the code point, and the range of each byte that
has to follow. -/
structure Lead where
  /-- The bits of the code point that the first byte carries. -/
  bits : Nat
  /-- The least and the greatest value of each following byte. -/
  followers : List (Nat × Nat)

/-- The range of a following byte where the first byte sets no narrower one. -/
def follower : Nat × Nat := (0x80, 0xBF)

/-- The announcement of a first byte, or `none` if no sequence begins with it. The narrow ranges
keep out overlong forms, surrogates and values past the last code point. -/
def lead? (b : UInt8) : Option Lead :=
  let n := b.toNat
  if n < 0x80 then some ⟨n, []⟩
  else if n < 0xC2 then none
  else if n < 0xE0 then some ⟨n - 0xC0, [follower]⟩
  else if n = 0xE0 then some ⟨0x0, [(0xA0, 0xBF), follower]⟩
  else if n = 0xED then some ⟨0xD, [(0x80, 0x9F), follower]⟩
  else if n < 0xF0 then some ⟨n - 0xE0, [follower, follower]⟩
  else if n = 0xF0 then some ⟨0x0, [(0x90, 0xBF), follower, follower]⟩
  else if n < 0xF4 then some ⟨n - 0xF0, [follower, follower, follower]⟩
  else if n = 0xF4 then some ⟨0x4, [(0x80, 0x8F), follower, follower]⟩
  else none

/-- Reads the announced bytes, six bits each, and stops before the first one out of its range. -/
def follow (value : Nat) : List (Nat × Nat) → Bytes → Option Char × Bytes
  | [], bs => (some (Char.ofNat value), bs)
  | _ :: _, [] => (none, [])
  | r :: rs, b :: bs =>
    if r.1 ≤ b.toNat ∧ b.toNat ≤ r.2 then follow (value * 64 + (b.toNat - 0x80)) rs bs
    else (none, b :: bs)

theorem length_follow_le (value : Nat) (rs : List (Nat × Nat)) (bs : Bytes) :
    (follow value rs bs).2.length ≤ bs.length := by
  induction rs generalizing value bs with
  | nil => simp [follow]
  | cons r rs ih =>
    cases bs with
    | nil => simp [follow]
    | cons b bs =>
      unfold follow
      split
      · exact Nat.le_succ_of_le (ih _ _)
      · simp

/-- The pieces of a byte string, in order; `none` stands for a fault. -/
def scan : Bytes → List (Option Char)
  | [] => []
  | b :: bs =>
    match lead? b with
    | none => none :: scan bs
    | some l => (follow l.bits l.followers bs).1 :: scan (follow l.bits l.followers bs).2
termination_by bs => bs.length
decreasing_by
  · simp
  · have := length_follow_le l.bits l.followers bs
    simp only [List.length_cons]
    omega

/-- The characters that the bytes write, or `none` if there is a fault. -/
def decode? (bs : Bytes) : Option (List Char) :=
  (scan bs).mapM id

/-- The characters that the bytes write, with U+FFFD for each fault. -/
def decodeLossy (bs : Bytes) : List Char :=
  (scan bs).map (·.getD '\uFFFD')

/-- The UTF-8 bytes of a text. -/
def bytesOf (s : String) : Bytes :=
  encode s.toList

/-- The text that UTF-8 bytes write, or `none` if they are not UTF-8. -/
def text? (bs : Bytes) : Option String :=
  (decode? bs).map String.ofList

/-- The text that UTF-8 bytes write, with U+FFFD for each fault. -/
def lossyText (bs : Bytes) : String :=
  String.ofList (decodeLossy bs)

end Utf8

end SnapshotSuite
