import Mathlib.Data.List.Basic

/-!
# Texts of ASCII

To decode a text is what takes longest in computing with it. A text of ASCII need not be decoded:
its bytes are the numbers of its characters (`Text.charsOf_eq`).
-/

namespace ModeLexer

namespace Text

/-- The characters of a text, read off its bytes where these are all of ASCII. -/
def charsOf (s : String) : List Char :=
  let bytes := s.toByteArray.data.toList
  if bytes.all (· < 128) then bytes.map fun b ↦ Char.ofNat b.toNat else s.toList

theorem not_lt_of_lead {n : Nat} (hle : 128 ≤ n) (hlt : n < 256) : ¬UInt8.ofNat n < 128 := by
  rw [UInt8.lt_iff_toNat_lt, UInt8.toNat_ofNat', Nat.mod_eq_of_lt hlt]
  exact Nat.not_lt.2 hle

/-- A character that has bytes of ASCII only has one byte, which is its number. -/
theorem map_utf8EncodeChar {c : Char} (h : ∀ b ∈ String.utf8EncodeChar c, b < 128) :
    (String.utf8EncodeChar c).map (fun b ↦ Char.ofNat b.toNat) = [c] := by
  have hval : c.val.toNat ≤ 127 := by
    by_contra hlarge
    simp only [String.utf8EncodeChar, if_neg hlarge] at h
    split at h
    · exact not_lt_of_lead (by omega) (by omega) (h _ (List.mem_cons_self ..))
    · split at h
      · exact not_lt_of_lead (by omega) (by omega) (h _ (List.mem_cons_self ..))
      · exact not_lt_of_lead (by omega) (by omega) (h _ (List.mem_cons_self ..))
  have hbyte : (UInt8.ofNat c.val.toNat).toNat = c.toNat := by
    rw [UInt8.toNat_ofNat', Nat.mod_eq_of_lt (by omega)]
    rfl
  rw [String.utf8EncodeChar, if_pos hval, List.map_singleton, hbyte, Char.ofNat_toNat]

theorem charsOf_eq (s : String) : charsOf s = s.toList := by
  have hbytes : s.toByteArray.data.toList = s.toList.flatMap String.utf8EncodeChar := by
    rw [← String.utf8Encode_toList, List.utf8Encode, List.data_toByteArray]
  rw [charsOf, hbytes]
  split
  · next hascii =>
    have hlt : ∀ c ∈ s.toList, ∀ b ∈ String.utf8EncodeChar c, b < 128 := by simpa using hascii
    rw [List.map_flatMap]
    calc
      s.toList.flatMap (fun c ↦ (String.utf8EncodeChar c).map fun b ↦ Char.ofNat b.toNat) =
          s.toList.flatMap fun c ↦ [c] := by
        simp only [List.flatMap_def]
        exact congrArg _ (List.map_congr_left fun c hc ↦ map_utf8EncodeChar (hlt c hc))
      _ = s.toList := List.flatMap_singleton' _
  · rfl

end Text

end ModeLexer
