/-!
Bytes as text where some of them may be no text: a beginning that no character continues becomes
the replacement character.
-/

namespace Stimulus.Text

/-- The character that stands for bytes without a meaning. -/
def replacement : Char := '\uFFFD'

/-- A character some of whose bytes are read. -/
structure Begun where
  /-- How many bytes are still to come. -/
  needed : Nat
  /-- The least next byte. -/
  low : Nat
  /-- The greatest next byte. -/
  high : Nat
  /-- The value of the bits read so far. -/
  value : Nat

/-- What the first byte of a character gives: the character, or what has to follow. -/
def firstByte (n : Nat) : Char ⊕ Begun :=
  if n < 0x80 then .inl (Char.ofNat n)
  else if n < 0xC2 then .inl replacement
  else if n < 0xE0 then .inr ⟨1, 0x80, 0xBF, n - 0xC0⟩
  else if n < 0xF0 then
    .inr ⟨2, if n = 0xE0 then 0xA0 else 0x80, if n = 0xED then 0x9F else 0xBF, n - 0xE0⟩
  else if n < 0xF5 then
    .inr ⟨3, if n = 0xF0 then 0x90 else 0x80, if n = 0xF4 then 0x8F else 0xBF, n - 0xF0⟩
  else .inl replacement

/-- The characters of bytes that follow a begun one, if there is one. -/
def lossyFrom : Option Begun → List UInt8 → List Char
  | none, [] => []
  | some _, [] => [replacement]
  | none, b :: rest =>
    match firstByte b.toNat with
    | .inl c => c :: lossyFrom none rest
    | .inr begun => lossyFrom (some begun) rest
  | some begun, b :: rest =>
    if begun.low ≤ b.toNat ∧ b.toNat ≤ begun.high then
      let value := begun.value * 64 + (b.toNat - 0x80)
      if begun.needed ≤ 1 then Char.ofNat value :: lossyFrom none rest
      else lossyFrom (some ⟨begun.needed - 1, 0x80, 0xBF, value⟩) rest
    else
      match firstByte b.toNat with
      | .inl c => replacement :: c :: lossyFrom none rest
      | .inr next => replacement :: lossyFrom (some next) rest

/-- The text of bytes, without a byte order mark at its front. -/
def lossy (bytes : List UInt8) : String :=
  match lossyFrom none bytes with
  | '\uFEFF' :: text => String.ofList text
  | text => String.ofList text

end Stimulus.Text
