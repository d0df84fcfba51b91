import Mathlib.Data.List.TakeWhile
import Stimulus.Proofs.Url.Domain

/-! Addresses, written and read again.  The text of an address of either version names the address:
its numbers are read digit by digit, and the gap in one of version 6 stands for as many zeros as
were left out. -/

namespace Stimulus

/-! ### Numbers -/

namespace Decimal

theorem digit?_digitChar {b d : Nat} (hb : b ≤ 16) (hd : d < b) :
    digit? b (Nat.digitChar d) = some d := by
  have hvalue : ∀ d < 16, digitValue? (Nat.digitChar d) = some d := by decide
  rw [digit?, hvalue d (by omega), Option.filter_some, if_pos (by simpa using hd)]

theorem foldlM_toDigits {b : Nat} (hb : 1 < b) (hb16 : b ≤ 16) (n : Nat) :
    (Nat.toDigits b n).foldlM (fun n c => (digit? b c).map (n * b + ·)) 0 = some n := by
  induction n using Nat.strong_induction_on with
  | _ n ih =>
    rw [Nat.toDigits_eq_if hb]
    split
    · rename_i hn
      simp [digit?_digitChar hb16 hn]
    · have hmod : n % b < b := Nat.mod_lt _ (by omega)
      rw [List.foldlM_append, ih (n / b) (Nat.div_lt_self (by omega) hb)]
      simp [digit?_digitChar hb16 hmod, Nat.div_add_mod']

/-- The digits of a number in a base have its value. -/
theorem value?_toDigits {b : Nat} (hb : 1 < b) (hb16 : b ≤ 16) (n : Nat) :
    value? b (Nat.toDigits b n) = some n := by
  obtain ⟨c, rest, hdigits⟩ := List.exists_cons_of_ne_nil (Nat.toDigits_ne_nil (n := n) (b := b))
  have hfold := foldlM_toDigits hb hb16 n
  rw [hdigits] at hfold ⊢
  exact hfold

theorem foldlM_lt {b : Nat} {digits : List Char} {m n : Nat}
    (h : digits.foldlM (fun n c => (digit? b c).map (n * b + ·)) m = some n) :
    n < (m + 1) * b ^ digits.length := by
  induction digits generalizing m with
  | nil =>
    obtain rfl := Option.some.inj h
    simp
  | cons c digits ih =>
    rw [List.foldlM_cons] at h
    obtain ⟨next, hnext, h⟩ := Option.bind_eq_some_iff.mp h
    obtain ⟨d, hd, rfl⟩ := Option.map_eq_some_iff.mp hnext
    have hlt : d < b := by
      have := (Option.filter_eq_some_iff.mp hd).2
      simpa using this
    calc n < (m * b + d + 1) * b ^ digits.length := ih h
      _ ≤ ((m + 1) * b) * b ^ digits.length := by
        refine Nat.mul_le_mul_right _ ?_
        rw [Nat.succ_mul]
        omega
      _ = (m + 1) * b ^ (c :: digits).length := by
        rw [List.length_cons, Nat.pow_succ, Nat.mul_assoc, Nat.mul_comm b]

/-- The value of digits is less than the power of their number. -/
theorem lt_of_value? {b n : Nat} {digits : List Char} (h : value? b digits = some n) :
    n < b ^ digits.length := by
  cases digits with
  | nil => cases h
  | cons c rest => simpa using foldlM_lt h

theorem ofNat_ne_nil (n : Nat) : ofNat n ≠ [] :=
  Nat.toDigits_ne_nil

/-- The digits of a number in base ten. -/
theorem mem_ofNat {n : Nat} {c : Char} (h : c ∈ ofNat n) : ∃ d < 10, c = Nat.digitChar d :=
  exists_digitChar_of_mem_toDigits (by decide) h

end Decimal

namespace Url

/-! ### Version 4 -/

namespace Ipv4

open Decimal (ofNat mem_ofNat ofNat_ne_nil)

/-- The byte of an address that `k` bytes follow. -/
def byte (address k : Nat) : Nat :=
  address / 256 ^ k % 256

/-- The four numbers of an address. -/
def numbers (address : Nat) : List (List Char) :=
  [ofNat (byte address 3), ofNat (byte address 2), ofNat (byte address 1), ofNat (byte address 0)]

theorem text_eq (address : Nat) : text address = ['.'].intercalate (numbers address) := by
  simp [text, numbers, byte, List.intercalate]

theorem numbers_spec {address : Nat} {number : List Char} (h : number ∈ numbers address) :
    ∃ n < 256, number = ofNat n := by
  simp only [numbers, List.mem_cons, List.not_mem_nil, or_false] at h
  rcases h with rfl | rfl | rfl | rfl <;> exact ⟨_, Nat.mod_lt _ (by decide), rfl⟩

theorem number?_ofNat : ∀ n < 256, number? (ofNat n) = some n := by
  decide +kernel

theorem parts_text (address : Nat) : parts (text address) = numbers address := by
  rw [text_eq, parts, List.splitOn_intercalate '.' ?_ (by simp [numbers])]
  intro number hmem hdot
  obtain ⟨n, -, rfl⟩ := numbers_spec hmem
  obtain ⟨d, hd, hc⟩ := mem_ofNat hdot
  revert hc
  revert d
  decide

theorem numberParts_text (address : Nat) : numberParts (text address) = numbers address := by
  simp [numberParts, parts_text, numbers, ofNat_ne_nil]

/-- The text of an address is taken for one. -/
theorem looksNumeric_text (address : Nat) : looksNumeric (text address) = true := by
  have hdigit : ∀ d < 10, (Nat.digitChar d).isDigit = true := by decide
  have hdigits : (ofNat (byte address 0)).all Char.isDigit = true := by
    rw [List.all_eq_true]
    intro c hc
    obtain ⟨d, hd, rfl⟩ := mem_ofNat hc
    exact hdigit d hd
  simp [looksNumeric, parts_text, numberParts_text, numbers, hdigits, ofNat_ne_nil]

/-- An address is read from its text. -/
theorem parse?_text {address : Nat} (h : address < 256 ^ 4) :
    parse? (text address) = some address := by
  have hread (k : Nat) : number? (ofNat (byte address k)) = some (byte address k) :=
    number?_ofNat _ (Nat.mod_lt _ (by decide))
  have hsmall (k : Nat) : ¬255 < byte address k :=
    Nat.not_lt.mpr (Nat.le_of_lt_succ (Nat.mod_lt _ (by decide)))
  have hlast : byte address 0 < 256 := Nat.mod_lt _ (by decide)
  have hsum : byte address 0 + byte address 3 * 16777216 + byte address 2 * 65536 +
      byte address 1 * 256 = address := by
    simp only [byte]
    omega
  simp [parse?, numberParts_text, numbers, hread, ofNumbers?, hsmall, hlast, hsum, List.zipIdx]

/-- Bytes from place `k` on take what a greatest number in their places leaves. -/
theorem sum_le {leading : List Nat} {k : Nat} (hlength : k + leading.length ≤ 4)
    (hsmall : ∀ n ∈ leading, n ≤ 255) (sum : Nat) :
    (leading.zipIdx k).foldl (fun sum pair => sum + pair.1 * 256 ^ (3 - pair.2)) sum +
      256 ^ (4 - k - leading.length) ≤ sum + 256 ^ (4 - k) := by
  induction leading generalizing k sum with
  | nil => simp
  | cons n leading ih =>
    rw [List.length_cons] at hlength
    have hplaces : 4 - k - (n :: leading).length = 4 - (k + 1) - leading.length := by
      rw [List.length_cons]
      omega
    have hplace : 256 ^ (4 - k) = 256 * 256 ^ (3 - k) := by
      rw [← Nat.pow_succ', show 4 - k = (3 - k).succ by omega]
    have hfirst : n * 256 ^ (3 - k) ≤ 255 * 256 ^ (3 - k) :=
      Nat.mul_le_mul_right _ (hsmall n (.head _))
    have hothers := ih (k := k + 1) (by omega) (fun m hm => hsmall m (.tail _ hm))
      (sum + n * 256 ^ (3 - k))
    rw [show 4 - (k + 1) = 3 - k by omega] at hplaces hothers
    rw [List.zipIdx_cons, List.foldl_cons, hplaces, hplace]
    dsimp only
    omega

theorem lt_of_parse? {name : List Char} {address : Nat} (h : parse? name = some address) :
    address < 256 ^ 4 := by
  obtain ⟨numbers, -, h⟩ := Option.bind_eq_some_iff.mp h
  unfold ofNumbers? at h
  split at h
  · cases h
  · rename_i last _
    dsimp only at h
    split at h
    · cases h
    · rename_i hbounds
      rw [← Option.some.inj h]
      simp only [not_or, Nat.not_lt, Nat.not_le, Bool.not_eq_true, List.any_eq_false,
        decide_eq_true_eq] at hbounds
      obtain ⟨hlength, hsmall, hlast⟩ := hbounds
      have hsum := sum_le (k := 0) (by omega) hsmall last
      rw [Nat.sub_zero] at hsum
      simp only [Nat.pow_eq] at hlast ⊢
      omega

/-- The text of an address is a domain name in its ASCII form. -/
theorem toAscii?_text (address : Nat) :
    Domain.toAscii? (Percent.decode (text address)) = some (text address) := by
  have hdigit : ∀ d < 10, Domain.isAscii (Nat.digitChar d) = true ∧
      Domain.stays (Nat.digitChar d) = true ∧ Nat.digitChar d ≠ '.' ∧ Nat.digitChar d ≠ 'x' := by
    decide +kernel
  have hnumber : ∀ number ∈ numbers address,
      (∀ c ∈ number, Domain.isAscii c = true) ∧ Domain.isSound number = true ∧
        Domain.Reads number number := by
    intro number hmem
    obtain ⟨n, -, rfl⟩ := numbers_spec hmem
    have hchars : ∀ c ∈ ofNat n, Domain.isAscii c = true ∧ Domain.stays c = true ∧ c ≠ '.' ∧
        c ≠ 'x' := by
      intro c hc
      obtain ⟨d, hd, rfl⟩ := mem_ofNat hc
      exact hdigit d hd
    refine ⟨fun c hc => (hchars c hc).1, Domain.reads_self (fun c hc => (hchars c hc).1)
      (fun c hc => (hchars c hc).2.1) (fun h => (hchars _ h).2.2.1 rfl) fun h => ?_⟩
    exact (hchars 'x' (h.subset (by simp))).2.2.2 rfl
  have hmixed : (numbers address).any (·.any Domain.runsLeft) = false := by
    rw [List.any_eq_false]
    intro number hmem
    rw [Bool.not_eq_true, List.any_eq_false]
    intro c hc
    rw [Domain.runsLeft_of_isAscii ((hnumber number hmem).1 c hc)]
    exact Bool.false_ne_true
  have hreads : List.Forall₂ Domain.Reads (numbers address) (numbers address) :=
    List.forall₂_same.mpr fun number hmem => (hnumber number hmem).2.2
  rw [text_eq]
  refine Domain.toAscii?_intercalate hreads (by simp [numbers]) ?_
  rw [Domain.AreSound, hmixed, List.all_eq_true]
  intro number hmem
  simp [(hnumber number hmem).2.1]

end Ipv4

/-! ### Version 6 -/

namespace Ipv6

theorem pieceText_ne_nil (piece : Nat) : pieceText piece ≠ [] :=
  Nat.toDigits_ne_nil

theorem isHex_of_mem_pieceText {piece : Nat} {c : Char} (h : c ∈ pieceText piece) :
    (Decimal.digit? 16 c).isSome = true := by
  obtain ⟨d, hd, rfl⟩ := exists_digitChar_of_mem_toDigits (by decide) h
  rw [Decimal.digit?_digitChar (by decide) hd]
  rfl

theorem length_pieceText_le {piece : Nat} (h : piece < 65536) : (pieceText piece).length ≤ 4 :=
  (Nat.length_toDigits_le_iff (by decide) (by decide)).mpr h

@[simp] theorem piecesText_nil : piecesText [] = [] :=
  rfl

@[simp] theorem piecesText_singleton (piece : Nat) : piecesText [piece] = pieceText piece := by
  simp [piecesText]

@[simp] theorem piecesText_cons_cons (piece next : Nat) (rest : List Nat) :
    piecesText (piece :: next :: rest) = pieceText piece ++ ':' :: piecesText (next :: rest) := by
  simp [piecesText, List.intercalate]

theorem length_le_piecesText (pieces : List Nat) : pieces.length ≤ (piecesText pieces).length := by
  induction pieces with
  | nil => simp
  | cons piece rest ih =>
    have hpiece := List.length_pos_iff.mpr (pieceText_ne_nil piece)
    cases rest with
    | nil =>
      rw [piecesText_singleton, List.length_singleton]
      omega
    | cons next rest =>
      simp only [piecesText_cons_cons, List.length_append, List.length_cons] at ih ⊢
      omega

/-! #### Reading pieces -/

variable {draft : Draft} {fuel piece : Nat} {rest : List Char}

/-- The text of a piece is taken off as far as its digits go. -/
theorem takeWhile_pieceText (hpiece : piece < 65536)
    (hrest : ∀ c ∈ rest.head?, (Decimal.digit? 16 c).isSome = false) :
    ((pieceText piece ++ rest).take 4).takeWhile (fun c => (Decimal.digit? 16 c).isSome) =
      pieceText piece := by
  rw [List.take_append, List.take_of_length_le (length_pieceText_le hpiece),
    List.takeWhile_append_of_pos fun c hc => isHex_of_mem_pieceText hc]
  have hnone : (rest.take (4 - (pieceText piece).length)).takeWhile
      (fun c => (Decimal.digit? 16 c).isSome) = [] := by
    cases rest with
    | nil => simp
    | cons c rest =>
      cases 4 - (pieceText piece).length with
      | zero => rfl
      | succ n => rw [List.take_succ_cons, List.takeWhile_cons_of_neg (by simp [hrest c rfl])]
  rw [hnone, List.append_nil]

theorem value?_pieceText (piece : Nat) : Decimal.value? 16 (pieceText piece) = some piece :=
  Decimal.value?_toDigits (by decide) (by decide) piece

/-- The text of a piece starts with no colon, and behind its digits stands what followed it. -/
theorem exists_cons_pieceText (hpiece : piece < 65536) (rest : List Char)
    (hrest : ∀ c ∈ rest.head?, (Decimal.digit? 16 c).isSome = false) :
    ∃ c others, pieceText piece ++ rest = c :: others ∧ c ≠ ':' ∧
      ((c :: others).take 4).takeWhile (fun c => (Decimal.digit? 16 c).isSome) = pieceText piece ∧
      (c :: others).drop (pieceText piece).length = rest := by
  obtain ⟨c, digits, hdigits⟩ := List.exists_cons_of_ne_nil (pieceText_ne_nil piece)
  have htext : pieceText piece ++ rest = c :: (digits ++ rest) := by
    rw [hdigits, List.cons_append]
  refine ⟨c, digits ++ rest, htext, ?_, ?_, ?_⟩
  · rintro rfl
    exact absurd (isHex_of_mem_pieceText (by rw [hdigits]; exact .head _)) (by decide)
  · rw [← htext]
    exact takeWhile_pieceText hpiece hrest
  · rw [← htext]
    exact List.drop_left

theorem read_piece (hlength : draft.pieces.length < 8) (hpiece : piece < 65536) :
    read draft (fuel + 1) (pieceText piece) =
      some { draft with pieces := piece :: draft.pieces } := by
  obtain ⟨c, others, htext, hcolon, htake, hdrop⟩ :=
    exists_cons_pieceText hpiece [] (by simp)
  rw [List.append_nil] at htext
  rw [htext, read, if_neg (by omega), if_neg hcolon]
  simp only [htake, value?_pieceText, hdrop, Option.getD_some]

theorem read_piece_colon (hlength : draft.pieces.length < 8) (hpiece : piece < 65536)
    (hrest : rest ≠ []) :
    read draft (fuel + 1) (pieceText piece ++ ':' :: rest) =
      read { draft with pieces := piece :: draft.pieces } fuel rest := by
  have hend : ∀ c ∈ (':' :: rest).head?, (Decimal.digit? 16 c).isSome = false := by
    simp only [List.head?_cons, Option.mem_some_iff, forall_eq']
    decide
  obtain ⟨c, others, htext, hcolon, htake, hdrop⟩ := exists_cons_pieceText hpiece _ hend
  rw [htext, read, if_neg (by omega), if_neg hcolon]
  simp only [htake, value?_pieceText, hdrop, Option.getD_some, List.isEmpty_iff, hrest, if_false]

theorem read_gap (hlength : draft.pieces.length < 8) (hgap : draft.gap = none) :
    read draft (fuel + 1) (':' :: rest) =
      read ⟨0 :: draft.pieces, some (draft.pieces.length + 1)⟩ fuel rest := by
  rw [read, if_neg (by omega), if_pos rfl, hgap]
  rfl

/-- Pieces are read to the end of their text. -/
theorem read_piecesText (draft : Draft) {pieces : List Nat}
    (hlength : draft.pieces.length + pieces.length ≤ 8)
    (hpieces : ∀ piece ∈ pieces, piece < 65536) (hfuel : pieces.length < fuel) :
    read draft fuel (piecesText pieces) =
      some { draft with pieces := pieces.reverse ++ draft.pieces } := by
  induction pieces generalizing draft fuel with
  | nil =>
    obtain ⟨fuel, rfl⟩ := Nat.exists_eq_add_of_lt hfuel
    rfl
  | cons piece rest ih =>
    obtain ⟨fuel, rfl⟩ : ∃ n, fuel = n + 1 := ⟨fuel - 1, by omega⟩
    rw [List.length_cons] at hlength hfuel
    have hpiece := hpieces piece (.head _)
    cases rest with
    | nil => simpa using read_piece (by omega) hpiece
    | cons next rest =>
      have hopen : piecesText (next :: rest) ≠ [] := by
        have := length_le_piecesText (next :: rest)
        rintro hnil
        simp [hnil] at this
      rw [piecesText_cons_cons, read_piece_colon (by omega) hpiece hopen,
        ih _ (by rw [List.length_cons]; omega) (fun p hp => hpieces p (.tail _ hp)) (by omega)]
      simp

/-- Pieces are read up to a colon. -/
theorem read_piecesText_colon {pieces : List Nat} (hne : pieces ≠ [])
    (hlength : draft.pieces.length + pieces.length ≤ 8)
    (hpieces : ∀ piece ∈ pieces, piece < 65536) (hrest : rest ≠ []) :
    read draft (fuel + pieces.length) (piecesText pieces ++ ':' :: rest) =
      read { draft with pieces := pieces.reverse ++ draft.pieces } fuel rest := by
  induction pieces generalizing draft with
  | nil => exact absurd rfl hne
  | cons piece others ih =>
    rw [List.length_cons] at hlength
    have hpiece := hpieces piece (.head _)
    cases others with
    | nil => simpa using read_piece_colon (by omega) hpiece hrest
    | cons next others =>
      rw [piecesText_cons_cons, List.append_assoc, List.cons_append, List.length_cons,
        ← Nat.add_assoc, read_piece_colon (by omega) hpiece (by simp),
        ih (by simp) (by rw [List.length_cons]; omega) fun p hp => hpieces p (.tail _ hp)]
      simp

/-! #### The gap -/

/-- The longest run of zeros is one. -/
theorem replicate_prefix_drop (pieces : List Nat) :
    List.replicate (longestRun pieces).2 0 <+: pieces.drop (longestRun pieces).1 := by
  have hzeros (items : List Nat) : List.replicate (zeros items) 0 <+: items := by
    have hrun : items.takeWhile (· = 0) = List.replicate (zeros items) 0 := by
      refine List.eq_replicate_iff.mpr ⟨rfl, fun n hn => ?_⟩
      simpa using List.mem_takeWhile_imp hn
    rw [← hrun]
    exact List.takeWhile_prefix _
  have hfold (places : List Nat) (best : Nat × Nat)
      (hbest : List.replicate best.2 0 <+: pieces.drop best.1) :
      let last := places.foldl (fun best k =>
        let length := zeros (pieces.drop k)
        if best.2 < length then (k, length) else best) best
      List.replicate last.2 0 <+: pieces.drop last.1 := by
    induction places generalizing best with
    | nil => exact hbest
    | cons k places ih =>
      refine ih _ ?_
      dsimp only
      split
      · exact hzeros _
      · exact hbest
  exact hfold _ _ List.nil_prefix

theorem piecesText_append_ne {pieces : List Nat} (hne : pieces ≠ []) (behind rest : List Char) :
    piecesText pieces ++ behind ≠ ':' :: rest := by
  obtain ⟨piece, others, rfl⟩ := List.exists_cons_of_ne_nil hne
  obtain ⟨c, digits, hdigits⟩ := List.exists_cons_of_ne_nil (pieceText_ne_nil piece)
  have hcolon : c ≠ ':' := by
    rintro rfl
    exact absurd (isHex_of_mem_pieceText (by rw [hdigits]; exact .head _)) (by decide)
  cases others <;> simp [hdigits, hcolon]

theorem fill?_gap (front back : List Nat) :
    (⟨back.reverse ++ 0 :: front.reverse, some (front.length + 1)⟩ : Draft).fill? =
      some (front ++ 0 :: List.replicate (7 - (front.length + back.length)) 0 ++ back) := by
  have hplaces : 8 - (front.length + (back.length + 1)) = 7 - (front.length + back.length) := by
    omega
  simp [Draft.fill?, List.take_append, List.drop_append, hplaces,
    List.take_of_length_le (show front.length ≤ front.length + 1 by omega),
    List.drop_eq_nil_of_le (show front.length ≤ front.length + 1 by omega)]

theorem parse?_eq_bind {text : List Char} (hcolon : ∀ rest, text ≠ ':' :: rest)
    (hlength : 2 ≤ text.length) :
    parse? text = (read ⟨[], none⟩ (text.length + 1) text).bind Draft.fill? := by
  unfold parse?
  split
  · exact absurd rfl (hcolon _)
  · exact absurd rfl (hcolon _)
  · cases hlength
  · simp at hlength
  · rfl

/-- The pieces around a gap are read from their texts. -/
theorem parse?_gap {front back : List Nat} (hlength : front.length + back.length < 8)
    (hfront : ∀ piece ∈ front, piece < 65536) (hback : ∀ piece ∈ back, piece < 65536) :
    parse? (piecesText front ++ ':' :: ':' :: piecesText back) =
      some (front ++ 0 :: List.replicate (7 - (front.length + back.length)) 0 ++ back) := by
  have hfuel := length_le_piecesText back
  by_cases hne : front = []
  · subst hne
    simp only [List.length_nil, Nat.zero_add] at hlength
    rw [piecesText_nil, List.nil_append, parse?,
      read_piecesText ⟨[0], some 1⟩ (by rw [List.length_singleton]; omega) hback (by omega)]
    exact fill?_gap [] back
  · have hfrontFuel := length_le_piecesText front
    obtain ⟨fuel, htext⟩ :
        ∃ fuel, (piecesText front ++ ':' :: ':' :: piecesText back).length + 1 =
          fuel + 1 + front.length := by
      simp only [List.length_append, List.length_cons]
      exact ⟨(piecesText front).length - front.length + (piecesText back).length + 2, by omega⟩
    have hfuel : back.length < fuel := by
      simp only [List.length_append, List.length_cons] at htext
      omega
    rw [parse?_eq_bind (piecesText_append_ne hne _) (by simp; omega), htext,
      read_piecesText_colon hne (by simp; omega) hfront (by simp),
      read_gap (by simp; omega) rfl, read_piecesText _ (by simp; omega) hback hfuel]
    simpa using fill?_gap front back

/-- An address is read from its text. -/
theorem parse?_text {pieces : List Nat} (hlength : pieces.length = 8)
    (hpieces : ∀ piece ∈ pieces, piece < 65536) : parse? (text pieces) = some pieces := by
  have hne : pieces ≠ [] := by
    rintro rfl
    cases hlength
  rw [text]
  obtain ⟨back, hback⟩ := replicate_prefix_drop pieces
  generalize longestRun pieces = run at hback
  obtain ⟨start, length⟩ := run
  dsimp only at hback ⊢
  split
  · have hfuel := length_le_piecesText pieces
    have hcolon := piecesText_append_ne hne []
    rw [List.append_nil] at hcolon
    rw [parse?_eq_bind hcolon (by omega), read_piecesText _ (by simp [hlength]) hpieces (by omega)]
    simp [Draft.fill?, hlength]
  · rename_i hlong
    have hsplit : pieces = pieces.take start ++ (List.replicate length 0 ++ back) := by
      rw [hback, List.take_append_drop]
    have hdrop : pieces.drop (start + length) = back := by
      rw [← List.drop_drop, ← hback, List.drop_left' List.length_replicate]
    have hsum := congrArg List.length hsplit
    simp only [List.length_append, List.length_replicate, hlength] at hsum
    have hzeros : List.replicate length 0 =
        0 :: List.replicate (7 - ((pieces.take start).length + back.length)) 0 := by
      rw [← List.replicate_succ]
      congr 1
      omega
    have hfront : ∀ piece ∈ pieces.take start, piece < 65536 :=
      fun piece h => hpieces piece (List.mem_of_mem_take h)
    have hbehind : ∀ piece ∈ back, piece < 65536 := by
      intro piece h
      rw [← hdrop] at h
      exact hpieces piece (List.mem_of_mem_drop h)
    rw [hdrop, parse?_gap (by omega) hfront hbehind, List.append_assoc, ← hzeros, ← hsplit]

/-! #### What is read -/

/-- A draft of an address: no more than eight numbers of sixteen bits, and a gap among them. -/
structure Draft.Sound (draft : Draft) : Prop where
  length : draft.pieces.length ≤ 8
  small : ∀ piece ∈ draft.pieces, piece < 65536
  gap : ∀ gap ∈ draft.gap, gap ≤ draft.pieces.length

theorem Draft.Sound.push {draft : Draft} (h : draft.Sound) {piece : Nat}
    (hlength : draft.pieces.length < 8) (hpiece : piece < 65536) :
    Draft.Sound { draft with pieces := piece :: draft.pieces } := by
  refine ⟨hlength, fun p hp => ?_, fun gap hgap => Nat.le_succ_of_le (h.gap gap hgap)⟩
  rcases List.mem_cons.mp hp with rfl | hp
  · exact hpiece
  · exact h.small p hp

theorem byte?_le {digits : List Char} {n : Nat} (h : byte? digits = some n) : n ≤ 255 := by
  unfold byte? at h
  split at h
  · cases h
  · simpa using (Option.filter_eq_some_iff.mp h).2

theorem embedded?_lt {text : List Char} {high low : Nat} (h : embedded? text = some (high, low)) :
    high < 65536 ∧ low < 65536 := by
  obtain ⟨bytes, hbytes, h⟩ := Option.bind_eq_some_iff.mp h
  have hsmall : ∀ n ∈ bytes, n ≤ 255 := by
    intro n hn
    obtain ⟨digits, -, hdigits⟩ := exists_of_mem_mapM_eq_some hbytes hn
    exact byte?_le hdigits
  split at h
  · cases h
    simp only [List.mem_cons, List.not_mem_nil, or_false, forall_eq_or_imp, forall_eq] at hsmall
    omega
  · cases h

/-- Up to four digits have a value of sixteen bits. -/
theorem value_take_lt (text : List Char) (p : Char → Bool) :
    (Decimal.value? 16 ((text.take 4).takeWhile p)).getD 0 < 65536 := by
  cases hvalue : Decimal.value? 16 ((text.take 4).takeWhile p) with
  | none => decide
  | some n =>
    have hlength : ((text.take 4).takeWhile p).length ≤ 4 :=
      (List.takeWhile_sublist _).length_le.trans (List.length_take_le _ _)
    exact (Decimal.lt_of_value? hvalue).trans_le (Nat.pow_le_pow_right (by decide) hlength)

theorem Draft.Sound.read {draft last : Draft} {fuel : Nat} {text : List Char} (h : draft.Sound)
    (hread : Ipv6.read draft fuel text = some last) : last.Sound := by
  induction fuel generalizing draft text with
  | zero => cases hread
  | succ fuel ih =>
    cases text with
    | nil =>
      cases hread
      exact h
    | cons c rest =>
      rw [Ipv6.read] at hread
      split at hread
      · cases hread
      · rename_i hfull
        have hlength : draft.pieces.length < 8 := by
          have := h.length
          omega
        split at hread
        · split at hread
          · cases hread
          · refine ih ?_ hread
            refine ⟨hlength, (h.push hlength (by decide)).small, fun gap hgap => ?_⟩
            rw [← Option.some.inj hgap]
        · have hvalue := value_take_lt (c :: rest) fun c => (Decimal.digit? 16 c).isSome
          dsimp only at hread
          split at hread
          · cases hread
            exact h.push hlength hvalue
          · split at hread
            · cases hread
            · exact ih (h.push hlength hvalue) hread
          · split at hread
            · cases hread
            · rename_i hopen
              obtain ⟨⟨high, low⟩, hembedded, hread⟩ := Option.bind_eq_some_iff.mp hread
              obtain ⟨hhigh, hlow⟩ := embedded?_lt hembedded
              cases hread
              refine (h.push hlength hhigh).push ?_ hlow
              simp only [not_or] at hopen
              simp only [List.length_cons]
              omega
          · cases hread

theorem Draft.Sound.fill? {draft : Draft} {pieces : List Nat} (h : draft.Sound)
    (hfill : draft.fill? = some pieces) :
    pieces.length = 8 ∧ ∀ piece ∈ pieces, piece < 65536 := by
  have hlength := h.length
  unfold Draft.fill? at hfill
  dsimp only at hfill
  split at hfill
  · split at hfill
    · rename_i hfull
      cases hfill
      exact ⟨hfull, fun piece hmem => h.small piece (List.mem_reverse.mp hmem)⟩
    · cases hfill
  · rename_i gap hgap
    have hle := h.gap gap hgap
    cases hfill
    refine ⟨by simp; omega, fun piece hmem => ?_⟩
    rcases List.mem_append.mp hmem with hmem | hmem
    · rcases List.mem_append.mp hmem with hmem | hmem
      · exact h.small piece (List.mem_reverse.mp (List.mem_of_mem_take hmem))
      · rw [List.eq_of_mem_replicate hmem]
        decide
    · exact h.small piece (List.mem_reverse.mp (List.mem_of_mem_drop hmem))

/-- An address that is read is eight numbers of sixteen bits. -/
theorem sound_of_parse? {text : List Char} {pieces : List Nat} (h : parse? text = some pieces) :
    pieces.length = 8 ∧ ∀ piece ∈ pieces, piece < 65536 := by
  have hsound {start : Draft} {fuel : Nat} {text : List Char} (hstart : start.Sound)
      (h : (read start fuel text).bind Draft.fill? = some pieces) :
      pieces.length = 8 ∧ ∀ piece ∈ pieces, piece < 65536 := by
    obtain ⟨draft, hdraft, hfill⟩ := Option.bind_eq_some_iff.mp h
    exact (hstart.read hdraft).fill? hfill
  unfold parse? at h
  split at h
  · exact hsound ⟨by decide, by simp, by simp⟩ h
  · cases h
  · cases h
  · cases h
  · exact hsound ⟨by decide, by simp, by simp⟩ h

end Ipv6

end Url

end Stimulus
