import Mathlib.Data.List.Basic

/-! The order of texts is that of their bytes.  Texts are compared character by character, and of
two characters the smaller one has the smaller UTF-8 form, whatever stands behind it. -/

namespace Stimulus.Text

theorem cons_lt_cons_iff {a b : Nat} {s t : List UInt8} (ha : a < 256) (hb : b < 256) :
    UInt8.ofNat a :: s < UInt8.ofNat b :: t ↔ a < b ∨ a = b ∧ s < t := by
  rw [List.cons_lt_cons_iff, UInt8.lt_iff_toNat_lt, ← UInt8.toNat_inj, UInt8.toNat_ofNat',
    UInt8.toNat_ofNat', Nat.mod_eq_of_lt ha, Nat.mod_eq_of_lt hb]

theorem digits_eq {n : Nat} (h : n < 0x110000) :
    n = ((n / 262144 % 8 * 64 + n / 4096 % 64) * 64 + n / 64 % 64) * 64 + n % 64 := by
  omega

theorem digits_lt {a b c d a' b' c' d' : Nat} (hb : b < 64) (hc : c < 64) (hd : d < 64)
    (hb' : b' < 64) (hc' : c' < 64) (hd' : d' < 64)
    (h : ((a * 64 + b) * 64 + c) * 64 + d < ((a' * 64 + b') * 64 + c') * 64 + d') :
    a < a' ∨ a = a' ∧ (b < b' ∨ b = b' ∧ (c < c' ∨ c = c' ∧ d < d')) := by
  omega

-- The cases are those of the lengths of both forms: forms of different lengths differ in the first
-- byte, and forms of one length are numbers in base 64.
theorem utf8EncodeChar_append_lt {c d : Char} (h : c < d) (s t : List UInt8) :
    String.utf8EncodeChar c ++ s < String.utf8EncodeChar d ++ t := by
  have hlt : c.val.toNat < d.val.toNat := h
  have hd : d.val.toNat < 0x110000 := by
    have hvalid : d.val.toNat.isValidChar := d.valid
    unfold Nat.isValidChar at hvalid
    omega
  simp only [String.utf8EncodeChar]
  generalize c.val.toNat = v at *
  generalize d.val.toNat = w at *
  by_cases hv1 : v ≤ 0x7F
  · rw [if_pos hv1]
    by_cases hw1 : w ≤ 0x7F
    · rw [if_pos hw1]
      exact (cons_lt_cons_iff (by omega) (by omega)).mpr (.inl hlt)
    · rw [if_neg hw1]
      split
      · exact (cons_lt_cons_iff (by omega) (by omega)).mpr (.inl (by omega))
      · split <;> exact (cons_lt_cons_iff (by omega) (by omega)).mpr (.inl (by omega))
  · rw [if_neg hv1, if_neg (show ¬w ≤ 0x7F by omega)]
    by_cases hv2 : v ≤ 0x7FF
    · rw [if_pos hv2]
      by_cases hw2 : w ≤ 0x7FF
      · rw [if_pos hw2]
        simp only [List.cons_append, List.nil_append]
        rw [cons_lt_cons_iff (by omega) (by omega), cons_lt_cons_iff (by omega) (by omega)]
        omega
      · rw [if_neg hw2]
        split <;> exact (cons_lt_cons_iff (by omega) (by omega)).mpr (.inl (by omega))
    · rw [if_neg hv2, if_neg (show ¬w ≤ 0x7FF by omega)]
      by_cases hv3 : v ≤ 0xFFFF
      · rw [if_pos hv3]
        by_cases hw3 : w ≤ 0xFFFF
        · rw [if_pos hw3]
          simp only [List.cons_append, List.nil_append]
          rw [cons_lt_cons_iff (by omega) (by omega), cons_lt_cons_iff (by omega) (by omega),
            cons_lt_cons_iff (by omega) (by omega)]
          omega
        · rw [if_neg hw3]
          exact (cons_lt_cons_iff (by omega) (by omega)).mpr (.inl (by omega))
      · rw [if_neg hv3, if_neg (show ¬w ≤ 0xFFFF by omega)]
        simp only [List.cons_append, List.nil_append]
        rw [cons_lt_cons_iff (by omega) (by omega), cons_lt_cons_iff (by omega) (by omega),
          cons_lt_cons_iff (by omega) (by omega), cons_lt_cons_iff (by omega) (by omega)]
        rw [digits_eq (show v < 0x110000 by omega), digits_eq hd] at hlt
        have hdigits := digits_lt (Nat.mod_lt _ (by decide)) (Nat.mod_lt _ (by decide))
          (Nat.mod_lt _ (by decide)) (Nat.mod_lt _ (by decide)) (Nat.mod_lt _ (by decide))
          (Nat.mod_lt _ (by decide)) hlt
        simp only [Nat.add_lt_add_iff_right, Nat.add_right_cancel_iff]
        omega

theorem toUTF8_toList (text : String) :
    text.toUTF8.data.toList = text.toList.flatMap String.utf8EncodeChar := by
  rw [String.toUTF8_eq_toByteArray, ← String.utf8Encode_toList, List.utf8Encode,
    List.data_toByteArray]

theorem utf8_lt_of_lt {first second : String} (h : first < second) :
    first.toUTF8.data.toList < second.toUTF8.data.toList := by
  have hchars : ∀ {s t : List Char}, s < t →
      s.flatMap String.utf8EncodeChar < t.flatMap String.utf8EncodeChar := by
    intro s t h
    induction h with
    | rel h => exact utf8EncodeChar_append_lt h _ _
    | cons h ih => exact List.append_left_lt ih
    | @nil c s =>
      have hne : String.utf8EncodeChar c ++ s.flatMap String.utf8EncodeChar ≠ [] :=
        List.append_ne_nil_of_left_ne_nil String.utf8EncodeChar_ne_nil _
      obtain ⟨b, rest, hcons⟩ := List.exists_cons_of_ne_nil hne
      rw [List.flatMap_nil, List.flatMap_cons, hcons]
      exact List.nil_lt_cons b rest
  rw [toUTF8_toList, toUTF8_toList]
  exact hchars h

end Stimulus.Text
