import Stimulus.Url.Path

/-! Percent encoding read back.  Encoded text that contains `%` only in codes decodes to the UTF-8
form of what was encoded, so `text?` gives it back.  A segment that is encoded holds no character
that ends a segment or a path, and is a dot segment only when it was one before. -/

namespace Stimulus.Url.Percent

/-- The text that an encoded text stands for, if its bytes are a text. -/
def text? (encoded : List Char) : Option String :=
  String.fromUTF8? (decode encoded).toByteArray

/-! ### Digits -/

theorem value?_digit {n : Nat} (h : n < 16) : value? (digit n) = some n := by
  revert n
  decide

theorem digit_ne {n : Nat} (h : n < 16) :
    digit n ≠ '/' ∧ digit n ≠ '?' ∧ digit n ≠ '#' ∧ digit n ≠ '\\' := by
  revert n
  decide

theorem eq_of_digit_eq {n m : Nat} {c : Char} (h : n < 16) (hdigit : digit n = c)
    (hvalue : value? c = some m) : n = m := by
  have hn := value?_digit h
  rw [hdigit, hvalue] at hn
  exact (Option.some.inj hn).symm

/-! ### Decoding -/

theorem decode_ofByte (b : UInt8) (rest : List Char) :
    decode (ofByte b ++ rest) = b :: decode rest := by
  have hb : b.toNat < 256 := b.toNat_lt
  have hhigh := value?_digit (n := b.toNat / 16) (by omega)
  have hlow := value?_digit (n := b.toNat % 16) (by omega)
  have hsum : b.toNat / 16 * 16 + b.toNat % 16 = b.toNat := by omega
  simp [ofByte, decode, hhigh, hlow, hsum]

theorem decode_flatMap_ofByte (bytes : List UInt8) (rest : List Char) :
    decode (bytes.flatMap ofByte ++ rest) = bytes ++ decode rest := by
  induction bytes with
  | nil => rfl
  | cons b bytes ih => rw [List.flatMap_cons, List.append_assoc, decode_ofByte, ih]; rfl

theorem decode_cons {c : Char} (h : c ≠ '%') (rest : List Char) :
    decode (c :: rest) = String.utf8EncodeChar c ++ decode rest := by
  rw [decode]
  intro a b _ hc
  exact absurd hc h

/-- Decoding gives the UTF-8 form of what was encoded. -/
theorem decode_encode {inSet : Char → Bool} (hpercent : inSet '%' = true) (s : List Char) :
    decode (encode inSet s) = s.flatMap String.utf8EncodeChar := by
  induction s with
  | nil => rfl
  | cons c s ih =>
    rw [encode, List.flatMap_cons, ← encode, List.flatMap_cons, encodeChar]
    split
    · rw [decode_flatMap_ofByte, ih]
    · rename_i hc
      have hne : c ≠ '%' := fun h => hc (h ▸ hpercent)
      rw [List.singleton_append, decode_cons hne, ih]

/-- An encoded text reads as what was encoded. -/
theorem text?_encode {inSet : Char → Bool} (hpercent : inSet '%' = true) (s : List Char) :
    text? (encode inSet s) = some (String.ofList s) := by
  have hbytes : (decode (encode inSet s)).toByteArray = (String.ofList s).toByteArray := by
    rw [decode_encode hpercent, String.toByteArray_ofList, List.utf8Encode]
  rw [text?, hbytes, String.fromUTF8?, dif_pos (String.ofList s).isValidUTF8]
  rfl

theorem encode_injective {inSet : Char → Bool} (hpercent : inSet '%' = true) {s t : List Char}
    (h : encode inSet s = encode inSet t) : s = t := by
  have hs := text?_encode hpercent s
  rw [h, text?_encode hpercent t] at hs
  exact String.ofList_injective (Option.some.inj hs).symm

/-! ### Characters -/

theorem mem_encode {inSet : Char → Bool} {c : Char} {s : List Char} (h : c ∈ encode inSet s) :
    inSet c = false ∨ c = '%' ∨ ∃ n < 16, c = digit n := by
  obtain ⟨d, -, hc⟩ := List.mem_flatMap.mp h
  rw [encodeChar] at hc
  split at hc
  · obtain ⟨b, -, hc⟩ := List.mem_flatMap.mp hc
    have hb : b.toNat < 256 := b.toNat_lt
    simp only [ofByte, List.mem_cons, List.not_mem_nil, or_false] at hc
    rcases hc with rfl | rfl | rfl
    · exact .inr (.inl rfl)
    · exact .inr (.inr ⟨_, by omega, rfl⟩)
    · exact .inr (.inr ⟨_, by omega, rfl⟩)
  · rename_i hd
    obtain rfl := List.mem_singleton.mp hc
    exact .inl (by simpa using hd)

/-- An encoded segment holds nothing that ends a segment or a path. -/
theorem not_mem_encode_inSegment (s : List Char) :
    ∀ c ∈ encode inSegment s, c ≠ '/' ∧ c ≠ '?' ∧ c ≠ '#' ∧ c ≠ '\\' := by
  intro c hc
  rcases mem_encode hc with h | rfl | ⟨n, hn, rfl⟩
  · refine ⟨?_, ?_, ?_, ?_⟩ <;> rintro rfl <;> revert h <;> decide
  · decide
  · exact digit_ne hn

/-! ### Dots -/

/-- Only the dot has a UTF-8 form that starts with the byte of the dot. -/
theorem utf8EncodeChar_eq_cons (c : Char) :
    ∃ b rest, String.utf8EncodeChar c = b :: rest ∧ (b.toNat = 0x2E → c = '.') := by
  have hc : c.val.toNat = 0x2E → c = '.' := fun h => Char.ext (UInt32.toNat_inj.mp h)
  simp only [String.utf8EncodeChar]
  split
  · exact ⟨_, _, rfl, fun h => hc (by rw [UInt8.toNat_ofNat'] at h; omega)⟩
  · split
    · exact ⟨_, _, rfl, fun h => by simp at h; omega⟩
    · split
      · exact ⟨_, _, rfl, fun h => by simp at h; omega⟩
      · exact ⟨_, _, rfl, fun h => by simp at h; omega⟩

end Stimulus.Url.Percent

namespace Stimulus.Url.Path

open Percent

/-- The code of a byte is no dot, unless the byte is the dot's. -/
theorem dot?_ofByte {b : UInt8} (hb : b.toNat ≠ 0x2E) (rest : List Char) :
    dot? (ofByte b ++ rest) = none := by
  have hlt : b.toNat < 256 := b.toNat_lt
  simp only [ofByte, List.cons_append, List.nil_append]
  generalize hhigh : digit (b.toNat / 16) = high
  generalize hlow : digit (b.toNat % 16) = low
  have hne : ¬(high = '2' ∧ (low = 'e' ∨ low = 'E')) := by
    rintro ⟨rfl, hlow'⟩
    have h2 := eq_of_digit_eq (m := 2) (by omega) hhigh (by decide)
    have h14 : b.toNat % 16 = 14 := by
      rcases hlow' with rfl | rfl <;> exact eq_of_digit_eq (by omega) hlow (by decide)
    omega
  rw [dot?] <;> grind

/-- An encoded segment starts with a dot only when the segment does. -/
theorem dot?_encode_cons {c : Char} (hc : c ≠ '.') (rest : List Char) :
    dot? (encode inSegment (c :: rest)) = none := by
  rw [encode, List.flatMap_cons, encodeChar]
  split
  · obtain ⟨b, bytes, hbytes, hb⟩ := utf8EncodeChar_eq_cons c
    rw [hbytes, List.flatMap_cons, List.append_assoc, dot?_ofByte fun h => hc (hb h)]
  · rename_i hset
    have hpercent : c ≠ '%' := by
      rintro rfl
      exact hset (by decide)
    rw [List.singleton_append, dot?] <;> grind

theorem dot?_encode_dot (rest : List Char) :
    dot? (encode inSegment ('.' :: rest)) = some (encode inSegment rest) := rfl

theorem encode_ne_nil (c : Char) (rest : List Char) : encode inSegment (c :: rest) ≠ [] := by
  intro h
  cases encode_injective (t := []) (by decide) h

theorem step_eq_of_dot? {segment rest : List Char} (h : dot? segment = some rest)
    (hrest : rest ≠ []) :
    step segment = if dot? rest = some [] then .up else .down := by
  obtain ⟨x, xs, rfl⟩ := List.exists_cons_of_ne_nil hrest
  simp only [step, h]
  match dot? (x :: xs) with
  | none | some [] | some (_ :: _) => simp

/-- What an encoded segment does to a path: only `.` and `..` are not one more segment. -/
theorem step_encode (s : List Char) :
    step (encode inSegment s) =
      if s = ['.'] then .stay else if s = ['.', '.'] then .up else .down := by
  rcases s with _ | ⟨c, s⟩
  · rfl
  by_cases hc : c = '.'
  · subst hc
    rcases s with _ | ⟨d, s⟩
    · rfl
    rw [step_eq_of_dot? (dot?_encode_dot (d :: s)) (encode_ne_nil d s)]
    by_cases hd : d = '.'
    · subst hd
      rcases s with _ | ⟨e, s⟩
      · rfl
      simp [dot?_encode_dot, encode_ne_nil]
    · simp [dot?_encode_cons hd, hd]
  · simp [step, dot?_encode_cons hc, hc]

end Stimulus.Url.Path
