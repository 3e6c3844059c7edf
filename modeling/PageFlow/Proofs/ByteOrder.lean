import PageFlow.Text.Utf8

/-! The order of texts is that of their bytes: the encoding of a character begins with a byte that
grows with the number of bytes, and characters of equally many bytes differ first where a larger one
has the larger byte. -/
namespace PageFlow
namespace Text

theorem encode_eq (s : String) : encode s = s.toList.flatMap String.utf8EncodeChar := by
  have hs : s.toByteArray = s.toList.utf8Encode := by
    rw [← String.toByteArray_ofList, String.ofList_toList]
  rw [encode, String.toUTF8, hs, List.utf8Encode, List.toList_data_toByteArray]

theorem ofNat_cons_lt_iff {a b : Nat} {x y : Bytes} (ha : a < 256) (hb : b < 256) :
    UInt8.ofNat a :: x < UInt8.ofNat b :: y ↔ a < b ∨ a = b ∧ x < y := by
  have hinj : UInt8.ofNat a = UInt8.ofNat b ↔ a = b := by
    rw [← UInt8.toNat_inj, UInt8.toNat_ofNat_of_lt' ha, UInt8.toNat_ofNat_of_lt' hb]
  rw [List.cons_lt_cons_iff, UInt8.lt_iff_toNat_lt, UInt8.toNat_ofNat_of_lt' ha,
    UInt8.toNat_ofNat_of_lt' hb, hinj]

/-- A smaller character has smaller bytes, whatever follows. -/
theorem utf8EncodeChar_append_lt {c d : Char} (h : c < d) (x y : Bytes) :
    String.utf8EncodeChar c ++ x < String.utf8EncodeChar d ++ y := by
  have hlt : c.val.toNat < d.val.toNat := h
  have hd : d.val.toNat < 0x110000 := by
    have hvalid : d.val.toNat.isValidChar := d.valid
    simp only [Nat.isValidChar] at hvalid
    omega
  simp only [String.utf8EncodeChar]
  generalize c.val.toNat = m at *
  generalize d.val.toNat = n at *
  -- Digits to the base 64: each is what the next quotient leaves.
  have hdigits (k : Nat) (hk : k < 0x110000) :
      k / 64 / 64 = k / 4096 ∧ k / 4096 / 64 = k / 262144 ∧ k / 262144 / 8 = 0 := by omega
  have hm := hdigits m (Nat.lt_trans hlt hd)
  have hn := hdigits n hd
  repeat' split
  all_goals
    simp (disch := omega) only [List.cons_append, List.nil_append, ofNat_cons_lt_iff]
    omega

theorem flatMap_utf8EncodeChar_lt {s t : List Char} (h : s < t) :
    s.flatMap String.utf8EncodeChar < t.flatMap String.utf8EncodeChar := by
  induction h with
  | @nil d t =>
    rw [List.flatMap_nil, List.flatMap_cons]
    cases he : String.utf8EncodeChar d with
    | nil => exact absurd he (by simp)
    | cons b more => exact List.nil_lt_cons b _
  | rel hcd => exact utf8EncodeChar_append_lt hcd _ _
  | cons _ ih => exact List.append_left_lt ih

/-- A text that comes first in the order of texts comes first in the order of bytes. -/
theorem encode_lt {s t : String} (h : s < t) : encode s < encode t := by
  rw [encode_eq, encode_eq]
  exact flatMap_utf8EncodeChar_lt h

end Text
end PageFlow
