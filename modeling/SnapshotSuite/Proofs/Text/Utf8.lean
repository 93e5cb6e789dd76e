import Mathlib.Data.List.Basic
import Mathlib.Data.Set.List
import Mathlib.Tactic.ByContra
import Mathlib.Tactic.Lemma
import Mathlib.Tactic.SplitIfs
import SnapshotSuite.Text.Utf8

/-!
# Reading back what was written

The bytes that write a character are one piece for `scan`: the first byte announces as many more as
there are, each of them lies in its range, and the bits that they carry are those of the code point.
So every text is read back from its bytes. The ranges let nothing else pass, and so bytes that are
read as a text are the bytes of that text. All other bytes have a fault, and it shows.
-/

namespace SnapshotSuite

namespace Utf8

variable {c : Char} {cs : List Char} {b : UInt8} {tail bs : Bytes} {lead : Lead}

lemma toNat_ofNat {n : Nat} (h : n < 256) : (UInt8.ofNat n).toNat = n :=
  UInt8.toNat_ofNat_of_lt' h

/-- A byte in its range adds six bits. -/
lemma follow_cons {value n : Nat} {range : Nat × Nat} (ranges : List (Nat × Nat)) (bs : Bytes)
    (hn : n < 64) (hleast : range.1 ≤ n + 128) (hgreatest : n + 128 ≤ range.2) :
    follow value (range :: ranges) (UInt8.ofNat (n + 128) :: bs) =
      follow (value * 64 + n) ranges bs := by
  have hbyte : (UInt8.ofNat (n + 128)).toNat = n + 128 := toNat_ofNat (by omega)
  rw [follow, hbyte, if_pos ⟨hleast, hgreatest⟩, Nat.add_sub_cancel]

/-- A first byte with all that it announces is one piece. -/
lemma scan_of_lead? (hlead : lead? b = some lead)
    (hfollow : follow lead.bits lead.followers (tail ++ bs) = (some c, bs)) :
    scan (b :: (tail ++ bs)) = some c :: scan bs := by
  rw [scan, hlead]
  simp only [hfollow]

/-! ### First bytes -/

lemma lead?_of_lt {n : Nat} (h : n < 0x80) : lead? (UInt8.ofNat n) = some ⟨n, []⟩ := by
  simp [lead?, toNat_ofNat (Nat.lt_trans h (by decide)), h]

lemma lead?_two {n : Nat} (hleast : 2 ≤ n) (hgreatest : n < 32) :
    lead? (UInt8.ofNat (n + 192)) = some ⟨n, [follower]⟩ := by
  have hbyte : (UInt8.ofNat (n + 192)).toNat = n + 192 := toNat_ofNat (by omega)
  simp only [lead?, hbyte]
  rw [if_neg (by omega), if_neg (by omega), if_pos (by omega), Nat.add_sub_cancel]

/-- The first of three bytes narrows the range of the second one to keep out overlong forms and
surrogates. -/
lemma lead?_three {n : Nat} (h : n < 16) :
    lead? (UInt8.ofNat (n + 224)) =
      some ⟨n, [(if n = 0 then 0xA0 else 0x80, if n = 13 then 0x9F else 0xBF), follower]⟩ := by
  have hbyte : (UInt8.ofNat (n + 224)).toNat = n + 224 := toNat_ofNat (by omega)
  simp only [lead?, hbyte]
  rw [if_neg (by omega), if_neg (by omega), if_neg (by omega)]
  by_cases hfirst : n = 0
  · subst hfirst
    rfl
  · by_cases hsurrogate : n = 13
    · subst hsurrogate
      rfl
    · rw [if_neg (by omega), if_neg (by omega), if_pos (by omega), if_neg hfirst,
        if_neg hsurrogate, Nat.add_sub_cancel]
      rfl

/-- The first of four bytes narrows the range of the second one to keep out overlong forms and
values past the last code point. -/
lemma lead?_four {n : Nat} (h : n < 5) :
    lead? (UInt8.ofNat (n + 240)) =
      some ⟨n, [(if n = 0 then 0x90 else 0x80, if n = 4 then 0x8F else 0xBF), follower,
        follower]⟩ := by
  have hcases : n = 0 ∨ n = 1 ∨ n = 2 ∨ n = 3 ∨ n = 4 := by omega
  rcases hcases with rfl | rfl | rfl | rfl | rfl <;> rfl

/-! ### Texts -/

/-- The bytes of a character are read back as that character. -/
lemma scan_utf8EncodeChar (c : Char) (bs : Bytes) :
    scan (String.utf8EncodeChar c ++ bs) = some c :: scan bs := by
  obtain ⟨v, hv⟩ : ∃ v, v = c.val.toNat := ⟨_, rfl⟩
  have hchar : Char.ofNat v = c := hv ▸ Char.ofNat_toNat c
  have hvalid : v < 0xD800 ∨ 0xDFFF < v ∧ v < 0x110000 := hv ▸ c.valid
  simp only [String.utf8EncodeChar, ← hv]
  split_ifs with hone htwo hthree
  · have hpiece : follow v [] ([] ++ bs) = (some c, bs) := by rw [← hchar]; rfl
    exact scan_of_lead? (lead?_of_lt (by omega)) hpiece
  · refine scan_of_lead? (lead?_two (by omega) (by omega)) ?_
    have hvalue : v / 64 % 32 * 64 + v % 64 = v := by omega
    rw [List.cons_append, follow_cons _ _ (by omega) (by simp [follower])
      (by simp only [follower]; omega), hvalue, follow, hchar]
    rfl
  · refine scan_of_lead? (lead?_three (by omega)) ?_
    have hvalue : (v / 4096 % 16 * 64 + v / 64 % 64) * 64 + v % 64 = v := by omega
    rw [List.cons_append, follow_cons _ _ (by omega) (by dsimp only; split_ifs <;> omega)
        (by dsimp only; split_ifs <;> omega),
      List.cons_append, follow_cons _ _ (by omega) (by simp [follower])
        (by simp only [follower]; omega), hvalue, follow, hchar]
    rfl
  · refine scan_of_lead? (lead?_four (by omega)) ?_
    have hvalue : ((v / 262144 % 8 * 64 + v / 4096 % 64) * 64 + v / 64 % 64) * 64 + v % 64 = v := by
      omega
    rw [List.cons_append, follow_cons _ _ (by omega) (by dsimp only; split_ifs <;> omega)
        (by dsimp only; split_ifs <;> omega),
      List.cons_append, follow_cons _ _ (by omega) (by simp [follower])
        (by simp only [follower]; omega),
      List.cons_append, follow_cons _ _ (by omega) (by simp [follower])
        (by simp only [follower]; omega), hvalue, follow, hchar]
    rfl

lemma scan_encode (cs : List Char) : scan (encode cs) = cs.map some := by
  induction cs with
  | nil => rw [encode_nil, scan, List.map_nil]
  | cons c cs ih => rw [encode_cons, scan_utf8EncodeChar, ih, List.map_cons]

lemma decode?_encode (cs : List Char) : decode? (encode cs) = some cs := by
  rw [decode?, scan_encode]
  induction cs with
  | nil => rfl
  | cons c cs ih =>
    rw [List.map_cons, List.mapM_cons, ih]
    rfl

/-- A text is read back from its bytes. -/
@[simp] theorem text?_bytesOf (s : String) : text? (bytesOf s) = some s := by
  rw [text?, bytesOf, decode?_encode, Option.map_some, String.ofList_toList]

theorem bytesOf_append (s t : String) : bytesOf (s ++ t) = bytesOf s ++ bytesOf t := by
  rw [bytesOf, bytesOf, bytesOf, String.toList_append, encode_append]

/-! ### Only texts are read -/

lemma eq_ofNat {n : Nat} (h : b.toNat = n) : b = UInt8.ofNat n := by
  rw [← h, UInt8.ofNat_toNat]

lemma utf8EncodeChar_ofNat {v : Nat} (h : v.isValidChar) :
    String.utf8EncodeChar (Char.ofNat v) =
      if v ≤ 0x7F then [UInt8.ofNat v]
      else if v ≤ 0x7FF then [UInt8.ofNat (v / 64 % 32 + 192), UInt8.ofNat (v % 64 + 128)]
      else if v ≤ 0xFFFF then
        [UInt8.ofNat (v / 4096 % 16 + 224), UInt8.ofNat (v / 64 % 64 + 128),
          UInt8.ofNat (v % 64 + 128)]
      else
        [UInt8.ofNat (v / 262144 % 8 + 240), UInt8.ofNat (v / 4096 % 64 + 128),
          UInt8.ofNat (v / 64 % 64 + 128), UInt8.ofNat (v % 64 + 128)] := by
  have hvalue : (Char.ofNat v).val.toNat = v := by
    rw [Char.ofNat, dif_pos h]
    rfl
  simp only [String.utf8EncodeChar, hvalue]

lemma utf8EncodeChar_one (h : b.toNat < 0x80) :
    String.utf8EncodeChar (Char.ofNat b.toNat) = [b] := by
  rw [utf8EncodeChar_ofNat (.inl (by omega)), if_pos (by omega), UInt8.ofNat_toNat]

lemma utf8EncodeChar_two {first second : UInt8} {k m : Nat} (hfirst : first.toNat = k + 192)
    (hsecond : second.toNat = m + 128) (hleast : 2 ≤ k) (hk : k < 32) (hm : m < 64) :
    String.utf8EncodeChar (Char.ofNat (k * 64 + m)) = [first, second] := by
  have hhigh : (k * 64 + m) / 64 % 32 = k := by omega
  have hlow : (k * 64 + m) % 64 = m := by omega
  rw [utf8EncodeChar_ofNat (.inl (by omega)), if_neg (by omega), if_pos (by omega), hhigh, hlow,
    eq_ofNat hfirst, eq_ofNat hsecond]

lemma utf8EncodeChar_three {first second third : UInt8} {k m n : Nat}
    (hfirst : first.toNat = k + 224) (hsecond : second.toNat = m + 128)
    (hthird : third.toNat = n + 128) (hk : k < 16) (hm : m < 64) (hn : n < 64)
    (hoverlong : k = 0 → 32 ≤ m) (hsurrogate : k = 13 → m < 32) :
    String.utf8EncodeChar (Char.ofNat ((k * 64 + m) * 64 + n)) = [first, second, third] := by
  obtain ⟨v, hv⟩ : ∃ v, v = (k * 64 + m) * 64 + n := ⟨_, rfl⟩
  have hvalid : v.isValidChar := by
    unfold Nat.isValidChar
    omega
  have hhigh : v / 4096 % 16 = k := by omega
  have hmiddle : v / 64 % 64 = m := by omega
  have hlow : v % 64 = n := by omega
  rw [← hv, utf8EncodeChar_ofNat hvalid, if_neg (by omega), if_neg (by omega), if_pos (by omega),
    hhigh, hmiddle, hlow, eq_ofNat hfirst, eq_ofNat hsecond, eq_ofNat hthird]

lemma utf8EncodeChar_four {first second third fourth : UInt8} {k l m n : Nat}
    (hfirst : first.toNat = k + 240) (hsecond : second.toNat = l + 128)
    (hthird : third.toNat = m + 128) (hfourth : fourth.toNat = n + 128) (hk : k < 5) (hl : l < 64)
    (hm : m < 64) (hn : n < 64) (hoverlong : k = 0 → 16 ≤ l) (hlast : k = 4 → l < 16) :
    String.utf8EncodeChar (Char.ofNat (((k * 64 + l) * 64 + m) * 64 + n)) =
      [first, second, third, fourth] := by
  obtain ⟨v, hv⟩ : ∃ v, v = ((k * 64 + l) * 64 + m) * 64 + n := ⟨_, rfl⟩
  have hvalid : v.isValidChar := by
    unfold Nat.isValidChar
    omega
  have hhighest : v / 262144 % 8 = k := by omega
  have hhigh : v / 4096 % 64 = l := by omega
  have hmiddle : v / 64 % 64 = m := by omega
  have hlow : v % 64 = n := by omega
  rw [← hv, utf8EncodeChar_ofNat hvalid, if_neg (by omega), if_neg (by omega), if_neg (by omega),
    hhighest, hhigh, hmiddle, hlow, eq_ofNat hfirst, eq_ofNat hsecond, eq_ofNat hthird,
    eq_ofNat hfourth]

/-- A byte that is taken lies in its range and adds six bits. -/
lemma exists_of_follow_cons_eq_some {value : Nat} {range : Nat × Nat} {ranges : List (Nat × Nat)}
    {rest : Bytes} (hleast : 128 ≤ range.1)
    (h : follow value (range :: ranges) bs = (some c, rest)) :
    ∃ b tail n, bs = b :: tail ∧ b.toNat = n + 128 ∧ range.1 ≤ n + 128 ∧ n + 128 ≤ range.2 ∧
      follow (value * 64 + n) ranges tail = (some c, rest) := by
  cases bs with
  | nil => cases h
  | cons b tail =>
    rw [follow] at h
    split_ifs at h with hrange
    · have hbyte : b.toNat = b.toNat - 128 + 128 := by omega
      exact ⟨b, tail, b.toNat - 128, rfl, hbyte, hbyte ▸ hrange.1, hbyte ▸ hrange.2, h⟩
    · cases h

/-- The first bytes are those of sequences of one to four bytes. -/
lemma lead?_cases (h : lead? b = some lead) :
    b.toNat < 0x80 ∧ lead = ⟨b.toNat, []⟩ ∨
      (∃ k, b.toNat = k + 192 ∧ 2 ≤ k ∧ k < 32 ∧ lead = ⟨k, [follower]⟩) ∨
      (∃ k, b.toNat = k + 224 ∧ k < 16 ∧ lead =
        ⟨k, [(if k = 0 then 0xA0 else 0x80, if k = 13 then 0x9F else 0xBF), follower]⟩) ∨
      ∃ k, b.toNat = k + 240 ∧ k < 5 ∧ lead =
        ⟨k, [(if k = 0 then 0x90 else 0x80, if k = 4 then 0x8F else 0xBF), follower,
          follower]⟩ := by
  have hrange : b.toNat < 0x80 ∨ 0xC2 ≤ b.toNat ∧ b.toNat < 0xE0 ∨
      0xE0 ≤ b.toNat ∧ b.toNat < 0xF0 ∨ 0xF0 ≤ b.toNat ∧ b.toNat < 0xF5 := by
    unfold lead? at h
    dsimp only at h
    split_ifs at h <;> omega
  rcases hrange with hone | ⟨htwo, htwo'⟩ | ⟨hthree, hthree'⟩ | ⟨hfour, hfour'⟩
  · have hlead := lead?_of_lt hone
    rw [UInt8.ofNat_toNat, h] at hlead
    exact .inl ⟨hone, Option.some.inj hlead⟩
  · have hbyte : b.toNat = b.toNat - 192 + 192 := by omega
    have hlead := lead?_two (n := b.toNat - 192) (by omega) (by omega)
    rw [← eq_ofNat hbyte, h] at hlead
    exact .inr (.inl ⟨_, hbyte, by omega, by omega, Option.some.inj hlead⟩)
  · have hbyte : b.toNat = b.toNat - 224 + 224 := by omega
    have hlead := lead?_three (n := b.toNat - 224) (by omega)
    rw [← eq_ofNat hbyte, h] at hlead
    exact .inr (.inr (.inl ⟨_, hbyte, by omega, Option.some.inj hlead⟩))
  · have hbyte : b.toNat = b.toNat - 240 + 240 := by omega
    have hlead := lead?_four (n := b.toNat - 240) (by omega)
    rw [← eq_ofNat hbyte, h] at hlead
    exact .inr (.inr (.inr ⟨_, hbyte, by omega, Option.some.inj hlead⟩))

/-- A piece without a fault is a character as it is written. -/
lemma eq_utf8EncodeChar_of_follow {rest : Bytes} (hlead : lead? b = some lead)
    (hfollow : follow lead.bits lead.followers tail = (some c, rest)) :
    b :: tail = String.utf8EncodeChar c ++ rest := by
  rcases lead?_cases hlead with ⟨hone, rfl⟩ | ⟨k, hb, hleast, hk, rfl⟩ | ⟨k, hb, hk, rfl⟩ |
    ⟨k, hb, hk, rfl⟩
  · cases hfollow
    rw [utf8EncodeChar_one hone, List.singleton_append]
  · obtain ⟨x, tail, m, rfl, hx, -, hm, hfollow⟩ :=
      exists_of_follow_cons_eq_some (by decide) hfollow
    cases hfollow
    rw [utf8EncodeChar_two hb hx hleast hk (by simp only [follower] at hm; omega)]
    rfl
  · obtain ⟨x, tail, m, rfl, hx, hm, hm', hfollow⟩ :=
      exists_of_follow_cons_eq_some (by dsimp only; split_ifs <;> decide) hfollow
    obtain ⟨y, tail, n, rfl, hy, -, hn, hfollow⟩ :=
      exists_of_follow_cons_eq_some (by decide) hfollow
    cases hfollow
    dsimp only [follower] at hm hm' hn
    rw [utf8EncodeChar_three hb hx hy hk (by split_ifs at hm' <;> omega) (by omega)
      (by split_ifs at hm <;> omega) (by split_ifs at hm' <;> omega)]
    rfl
  · obtain ⟨x, tail, l, rfl, hx, hl, hl', hfollow⟩ :=
      exists_of_follow_cons_eq_some (by dsimp only; split_ifs <;> decide) hfollow
    obtain ⟨y, tail, m, rfl, hy, -, hm, hfollow⟩ :=
      exists_of_follow_cons_eq_some (by decide) hfollow
    obtain ⟨z, tail, n, rfl, hz, -, hn, hfollow⟩ :=
      exists_of_follow_cons_eq_some (by decide) hfollow
    cases hfollow
    dsimp only [follower] at hl hl' hm hn
    rw [utf8EncodeChar_four hb hx hy hz hk (by split_ifs at hl' <;> omega) (by omega) (by omega)
      (by split_ifs at hl <;> omega) (by split_ifs at hl' <;> omega)]
    rfl

/-- Bytes without a fault are the bytes of their characters. -/
lemma encode_of_scan (h : scan bs = cs.map some) : encode cs = bs := by
  induction cs generalizing bs with
  | nil =>
    cases bs with
    | nil => rfl
    | cons b tail =>
      rw [scan] at h
      split at h <;> cases h
  | cons c cs ih =>
    cases bs with
    | nil => rw [scan] at h; cases h
    | cons b tail =>
      rw [scan] at h
      split at h
      · cases h
      · next lead hlead =>
        obtain ⟨hfirst, hrest⟩ := List.cons.inj h
        rw [encode_cons, ih hrest, ← eq_utf8EncodeChar_of_follow hlead (Prod.ext hfirst rfl)]

lemma decode?_eq_some_iff : decode? bs = some cs ↔ encode cs = bs := by
  constructor
  · intro h
    refine encode_of_scan ?_
    rw [decode?] at h
    generalize scan bs = pieces at h ⊢
    induction pieces generalizing cs with
    | nil => cases h; rfl
    | cons piece pieces ih =>
      cases piece with
      | none => cases h
      | some c =>
        cases hrest : pieces.mapM id with
        | none => simp [hrest] at h
        | some rest =>
          obtain rfl : c :: rest = cs := by simpa [hrest] using h
          rw [List.map_cons, ← ih hrest]
  · rintro rfl
    exact decode?_encode cs

/-- Bytes are read as a text exactly if they are the bytes of that text. -/
theorem text?_eq_some_iff {s : String} : text? bs = some s ↔ bytesOf s = bs := by
  rw [text?, Option.map_eq_some_iff, bytesOf]
  constructor
  · rintro ⟨cs, hcs, rfl⟩
    rw [String.toList_ofList]
    exact decode?_eq_some_iff.mp hcs
  · intro h
    exact ⟨s.toList, decode?_eq_some_iff.mpr h, String.ofList_toList⟩

/-- The bytes are UTF-8: they write some text. -/
def IsText (bs : Bytes) : Prop :=
  ∃ s, bytesOf s = bs

/-- Bytes write a text exactly if they are valid for the standard library. -/
lemma isText_iff_isValidUTF8 : IsText bs ↔ bs.toByteArray.IsValidUTF8 := by
  constructor
  · rintro ⟨s, rfl⟩
    exact ⟨s.toList, rfl⟩
  · rintro ⟨cs, hcs⟩
    refine ⟨String.ofList cs, ?_⟩
    rw [bytesOf, String.toList_ofList]
    exact (List.toByteArray_inj.mp hcs).symm

theorem text?_eq_none_iff : text? bs = none ↔ ¬IsText bs := by
  rw [Option.eq_none_iff_forall_ne_some, IsText, not_exists]
  exact forall_congr' fun s => not_congr text?_eq_some_iff

/-! ### Faults that show -/

/-- A text has no fault, so nothing in it is replaced. -/
@[simp] theorem lossyText_bytesOf (s : String) : lossyText (bytesOf s) = s := by
  have hkept : (·.getD '\uFFFD') ∘ (some : Char → Option Char) = id := rfl
  rw [lossyText, decodeLossy, bytesOf, scan_encode, List.map_map, hkept, List.map_id,
    String.ofList_toList]

/-- Bytes that are no text have a fault. -/
lemma none_mem_scan (h : ¬IsText bs) : none ∈ scan bs := by
  by_contra hnone
  have hpieces : scan bs ∈ Set.range (List.map (some : Char → Option Char)) := by
    rw [Set.range_list_map]
    intro piece hpiece
    cases piece with
    | none => exact absurd hpiece hnone
    | some c => exact ⟨c, rfl⟩
  obtain ⟨cs, hcs⟩ := hpieces
  refine h ⟨String.ofList cs, ?_⟩
  rw [bytesOf, String.toList_ofList]
  exact encode_of_scan hcs.symm

/-- A fault shows as the replacement character. -/
lemma replacement_mem_lossyText (h : ¬IsText bs) : '\uFFFD' ∈ (lossyText bs).toList := by
  rw [lossyText, String.toList_ofList]
  exact List.mem_map.mpr ⟨none, none_mem_scan h, rfl⟩

end Utf8

end SnapshotSuite
