import Mathlib.Data.String.Basic
import SnapshotSuite.Proofs.Text.Utf8

/-!
# The order of bytes

The first byte of a longer code is the greater one, and codes of one length have the digits of their
code points in order. So texts are in the same order by their bytes as by their code points.
-/

namespace SnapshotSuite

namespace Utf8

variable {c d : Char} {cs ds : List Char} {xs ys : Bytes} {m n v w : Nat}

/-- Bytes are compared digit by digit. -/
lemma cons_ofNat_lt (hn : n < 256) (h : m < n ∨ m = n ∧ xs < ys) :
    UInt8.ofNat m :: xs < UInt8.ofNat n :: ys := by
  rw [List.cons_lt_cons_iff]
  rcases h with hdigit | ⟨rfl, hrest⟩
  · left
    rw [UInt8.lt_iff_toNat_lt, toNat_ofNat (Nat.lt_trans hdigit hn), toNat_ofNat hn]
    exact hdigit
  · exact .inr ⟨rfl, hrest⟩

/-! ### Digits that follow the first byte

Each lemma compares the last digits of two numbers that have the same digits in front of them. -/

lemma digit_lt (h : v < w) (hfront : v / 64 = w / 64) (xs ys : Bytes) :
    UInt8.ofNat (v % 64 + 128) :: xs < UInt8.ofNat (w % 64 + 128) :: ys :=
  cons_ofNat_lt (by omega) (.inl (by omega))

lemma two_digits_lt (h : v < w) (hfront : v / 4096 = w / 4096) (xs ys : Bytes) :
    UInt8.ofNat (v / 64 % 64 + 128) :: UInt8.ofNat (v % 64 + 128) :: xs <
      UInt8.ofNat (w / 64 % 64 + 128) :: UInt8.ofNat (w % 64 + 128) :: ys := by
  rcases Nat.lt_or_ge (v / 64) (w / 64) with hdigit | hdigit
  · exact cons_ofNat_lt (by omega) (.inl (by omega))
  · exact cons_ofNat_lt (by omega) (.inr ⟨by omega, digit_lt h (by omega) xs ys⟩)

lemma three_digits_lt (h : v < w) (hfront : v / 262144 = w / 262144) (xs ys : Bytes) :
    UInt8.ofNat (v / 4096 % 64 + 128) :: UInt8.ofNat (v / 64 % 64 + 128) ::
        UInt8.ofNat (v % 64 + 128) :: xs <
      UInt8.ofNat (w / 4096 % 64 + 128) :: UInt8.ofNat (w / 64 % 64 + 128) ::
        UInt8.ofNat (w % 64 + 128) :: ys := by
  rcases Nat.lt_or_ge (v / 4096) (w / 4096) with hdigit | hdigit
  · exact cons_ofNat_lt (by omega) (.inl (by omega))
  · exact cons_ofNat_lt (by omega) (.inr ⟨by omega, two_digits_lt h (by omega) xs ys⟩)

/-! ### Codes and texts -/

/-- The code of a character is less than that of a greater one, whatever follows the two. -/
lemma utf8EncodeChar_append_lt (h : c < d) (xs ys : Bytes) :
    String.utf8EncodeChar c ++ xs < String.utf8EncodeChar d ++ ys := by
  obtain ⟨v, hv⟩ : ∃ v, v = c.val.toNat := ⟨_, rfl⟩
  obtain ⟨w, hw⟩ : ∃ w, w = d.val.toNat := ⟨_, rfl⟩
  have hlt : v < w := hv ▸ hw ▸ h
  have hvalid : w < 0xD800 ∨ 0xDFFF < w ∧ w < 0x110000 := hw ▸ d.valid
  have hlast : w < 0x110000 := by omega
  simp only [String.utf8EncodeChar, ← hv, ← hw]
  clear h hv hw hvalid
  -- the code of the lesser character is as long as the other one or shorter; if it is shorter, the
  -- first bytes decide
  by_cases hone : v ≤ 0x7F
  · rw [if_pos hone]
    split_ifs <;> exact cons_ofNat_lt (by omega) (.inl (by omega))
  rw [if_neg hone, if_neg (show ¬w ≤ 0x7F by omega)]
  by_cases htwo : v ≤ 0x7FF
  · rw [if_pos htwo]
    split_ifs
    · rcases Nat.lt_or_ge (v / 64) (w / 64) with hfirst | hfirst
      · exact cons_ofNat_lt (by omega) (.inl (by omega))
      · exact cons_ofNat_lt (by omega) (.inr ⟨by omega, digit_lt hlt (by omega) xs ys⟩)
    · exact cons_ofNat_lt (by omega) (.inl (by omega))
    · exact cons_ofNat_lt (by omega) (.inl (by omega))
  rw [if_neg htwo, if_neg (show ¬w ≤ 0x7FF by omega)]
  by_cases hthree : v ≤ 0xFFFF
  · rw [if_pos hthree]
    split_ifs
    · rcases Nat.lt_or_ge (v / 4096) (w / 4096) with hfirst | hfirst
      · exact cons_ofNat_lt (by omega) (.inl (by omega))
      · exact cons_ofNat_lt (by omega) (.inr ⟨by omega, two_digits_lt hlt (by omega) xs ys⟩)
    · exact cons_ofNat_lt (by omega) (.inl (by omega))
  rw [if_neg hthree, if_neg (show ¬w ≤ 0xFFFF by omega)]
  rcases Nat.lt_or_ge (v / 262144) (w / 262144) with hfirst | hfirst
  · exact cons_ofNat_lt (by omega) (.inl (by omega))
  · exact cons_ofNat_lt (by omega) (.inr ⟨by omega, three_digits_lt hlt (by omega) xs ys⟩)

/-- A text has lesser bytes than one that is greater by its code points. -/
lemma encode_lt_encode (h : cs < ds) : encode cs < encode ds := by
  induction cs generalizing ds with
  | nil =>
    cases ds with
    | nil => exact absurd h (List.lt_irrefl [])
    | cons d ds =>
      obtain ⟨first, others, hcode⟩ :=
        List.exists_cons_of_ne_nil (String.utf8EncodeChar_ne_nil (c := d))
      rw [encode_nil, encode_cons, hcode]
      exact List.nil_lt_cons first _
  | cons c cs ih =>
    cases ds with
    | nil => exact absurd h (List.not_lt_nil _)
    | cons d ds =>
      rcases List.cons_lt_cons_iff.mp h with hchar | ⟨rfl, hrest⟩
      · exact utf8EncodeChar_append_lt hchar _ _
      · exact List.append_left_lt (ih hrest)

/-- Texts are in the order of their bytes exactly if they are in the order of their code points. -/
theorem bytesOf_lt_bytesOf_iff {s t : String} : bytesOf s < bytesOf t ↔ s < t := by
  have hmono : ∀ {s t : String}, s < t → bytesOf s < bytesOf t :=
    fun h => encode_lt_encode (String.lt_iff.mp h)
  refine ⟨fun h => ?_, hmono⟩
  rcases lt_trichotomy s t with hlt | rfl | hgt
  · exact hlt
  · exact absurd h (List.lt_irrefl _)
  · exact absurd h (List.lt_asymm (hmono hgt))

end Utf8

end SnapshotSuite
