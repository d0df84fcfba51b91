import Mathlib.Algebra.Order.Field.Power
import Mathlib.Algebra.Order.Ring.Rat
import Mathlib.Tactic.GCongr
import Mathlib.Tactic.Linarith
import Mathlib.Tactic.NormNum
import Mathlib.Tactic.Positivity
import Mathlib.Tactic.Ring
import Stimulus.Decimal.Binary64

/-! Rounding to floating point numbers, over the rationals.  A fraction has no number exactly from
`limit` on, halfway between the greatest number and the next power of two; a whole number below it
becomes the nearest one with 53 binary digits. -/

namespace Stimulus.Decimal.Binary64

/-- The value without its sign. -/
def magnitude (x : Binary64) : ℚ :=
  x.significand * 2 ^ x.exponent

/-- The least magnitude that rounds beyond the greatest number, `2 ^ 1024 - 2 ^ 970`. -/
def limit : Nat :=
  (2 ^ 54 - 1) * 2 ^ 970

/-- A whole number rounded to 53 binary digits, its first one included: to the nearest, and of two to
the one whose last digit is even. -/
def nearest (n : Nat) : Nat :=
  roundHalfEven n (2 ^ (n.log2 - 52)) * 2 ^ (n.log2 - 52)

variable {num den : Nat} {negative : Bool}

/-! ### Fractions -/

theorem scale_den_pos {base : Nat} (hden : 0 < den) (hbase : 0 < base) (power : Int) :
    0 < (scale num den base power).2 := by
  rw [scale]
  split
  · exact hden
  · exact Nat.mul_pos hden (Nat.pow_pos hbase)

theorem scale_div (base : Nat) (power : Int) :
    ((scale num den base power).1 : ℚ) / (scale num den base power).2 =
      num / den * base ^ power := by
  rw [scale]
  split
  case isTrue hpower =>
    obtain ⟨k, rfl⟩ := Int.eq_ofNat_of_zero_le hpower
    simp only [Int.toNat_natCast, Nat.pow_eq, Nat.cast_mul, Nat.cast_pow, zpow_natCast]
    ring
  case isFalse hpower =>
    obtain ⟨k, rfl⟩ : ∃ k : Nat, power = -k := ⟨(-power).toNat, by omega⟩
    simp only [neg_neg, Int.toNat_natCast, Nat.pow_eq, Nat.cast_mul, Nat.cast_pow, zpow_neg,
      zpow_natCast]
    rw [div_mul_eq_div_div, div_eq_mul_inv (_ / _)]

theorem ratio_div (x : Binary64) : (x.ratio.1 : ℚ) / x.ratio.2 = x.magnitude := by
  rw [ratio, scale_div, Nat.cast_one, div_one, magnitude, Nat.cast_ofNat]

theorem ratio_den_pos (x : Binary64) : 0 < x.ratio.2 :=
  scale_den_pos Nat.one_pos Nat.two_pos _

/-- The logarithm of a fraction from those of its two parts, of which it is at most one below the
difference. -/
theorem floorLog2_spec (hnum : num ≠ 0) (hden : 0 < den) :
    (2 : ℚ) ^ floorLog2 num den ≤ num / den ∧ (num / den : ℚ) < 2 ^ (floorLog2 num den + 1) := by
  have hdenQ : (0 : ℚ) < den := by exact_mod_cast hden
  have hnumLow : (2 : ℚ) ^ num.log2 ≤ num := by exact_mod_cast Nat.log2_self_le hnum
  have hnumHigh : (num : ℚ) < 2 ^ (num.log2 + 1) := by exact_mod_cast Nat.lt_log2_self
  have hdenLow : (2 : ℚ) ^ den.log2 ≤ den := by exact_mod_cast Nat.log2_self_le hden.ne'
  have hdenHigh : (den : ℚ) < 2 ^ (den.log2 + 1) := by exact_mod_cast Nat.lt_log2_self
  set k : Int := (num.log2 : Int) - den.log2
  have hlow : (2 : ℚ) ^ (k - 1) < num / den := by
    have hpow : (2 : ℚ) ^ (k - 1) * 2 ^ (den.log2 + 1) = 2 ^ num.log2 := by
      rw [← zpow_natCast, ← zpow_natCast, ← zpow_add₀ two_ne_zero]
      congr 1
      omega
    rw [lt_div_iff₀ hdenQ]
    calc (2 : ℚ) ^ (k - 1) * den < 2 ^ (k - 1) * 2 ^ (den.log2 + 1) := by gcongr
      _ = 2 ^ num.log2 := hpow
      _ ≤ num := hnumLow
  have hhigh : (num / den : ℚ) < 2 ^ (k + 1) := by
    have hpow : (2 : ℚ) ^ (k + 1) * 2 ^ den.log2 = 2 ^ (num.log2 + 1) := by
      rw [← zpow_natCast, ← zpow_natCast, ← zpow_add₀ two_ne_zero]
      congr 1
      omega
    rw [div_lt_iff₀ hdenQ]
    calc (num : ℚ) < 2 ^ (num.log2 + 1) := hnumHigh
      _ = 2 ^ (k + 1) * 2 ^ den.log2 := hpow.symm
      _ ≤ 2 ^ (k + 1) * den := by gcongr
  have hreaches : (scale num den 2 (-k)).2 ≤ (scale num den 2 (-k)).1 ↔
      (2 : ℚ) ^ k ≤ num / den := by
    have hscaled : (0 : ℚ) < (scale num den 2 (-k)).2 := by
      exact_mod_cast scale_den_pos hden Nat.two_pos _
    rw [← @Nat.cast_le ℚ, ← one_le_div hscaled, scale_div, Nat.cast_ofNat, zpow_neg,
      ← div_eq_mul_inv, one_le_div (by positivity)]
  have hfloor : floorLog2 num den = if (2 : ℚ) ^ k ≤ num / den then k else k - 1 := by
    simp only [← hreaches]
    rfl
  rw [hfloor]
  split
  case isTrue hle => exact ⟨hle, hhigh⟩
  case isFalse hlt => exact ⟨hlow.le, by rwa [sub_add_cancel, ← not_le]⟩

/-! ### Rounding to a whole number -/

/-- The rounded value lies within a half, and exactly half away only if it is even. -/
theorem roundHalfEven_spec (num : Nat) (hden : 0 < den) :
    |(num / den : ℚ) - roundHalfEven num den| ≤ 1 / 2 ∧
      (|(num / den : ℚ) - roundHalfEven num den| = 1 / 2 → roundHalfEven num den % 2 = 0) := by
  have hdenQ : (0 : ℚ) < den := by exact_mod_cast hden
  obtain ⟨rest, hrest⟩ : ∃ rest : ℚ, rest = (num % den : Nat) / den := ⟨_, rfl⟩
  have hquotient : (num / den : ℚ) = (num / den : Nat) + rest := by
    have hdivision : (den : ℚ) * (num / den : Nat) + (num % den : Nat) = num := by
      exact_mod_cast Nat.div_add_mod num den
    rw [hrest, ← hdivision, add_div, mul_div_cancel_left₀ _ hdenQ.ne']
  have hbelow : 2 * (num % den) < den ↔ rest < 1 / 2 := by
    rw [hrest, div_lt_iff₀ hdenQ, ← @Nat.cast_lt ℚ, Nat.cast_mul, Nat.cast_ofNat]
    constructor <;> intro h <;> linarith
  have habove : den < 2 * (num % den) ↔ 1 / 2 < rest := by
    rw [hrest, lt_div_iff₀ hdenQ, ← @Nat.cast_lt ℚ, Nat.cast_mul, Nat.cast_ofNat]
    constructor <;> intro h <;> linarith
  have hnonneg : 0 ≤ rest := hrest ▸ by positivity
  have hlt : rest < 1 := by
    rw [hrest, div_lt_one hdenQ]
    exact_mod_cast Nat.mod_lt num hden
  have hkept (q : Nat) : (q + rest - q : ℚ) = rest := by ring
  have hraised (q : Nat) : (q + rest - (q + 1 : Nat) : ℚ) = -(1 - rest) := by
    push_cast
    ring
  rw [hquotient]
  simp only [roundHalfEven, hbelow, habove]
  -- A rest of less or more than a half decides alone; at a half the last digit of the quotient does.
  split
  case isTrue hdown =>
    rw [hkept, abs_of_nonneg hnonneg]
    exact ⟨hdown.le, fun htie => absurd htie hdown.ne⟩
  case isFalse hdown =>
    split
    case isTrue hup =>
      rw [hraised, abs_neg, abs_of_pos (by linarith)]
      exact ⟨by linarith, fun htie => absurd htie (by linarith)⟩
    case isFalse hup =>
      obtain rfl := le_antisymm (not_lt.mp hup) (not_lt.mp hdown)
      split
      case isTrue heven =>
        rw [hkept]
        exact ⟨by norm_num, fun _ => heven⟩
      case isFalse hodd =>
        rw [hraised]
        exact ⟨by norm_num, fun _ => by omega⟩

theorem le_roundHalfEven {n : Nat} (hden : 0 < den) (h : (n : ℚ) ≤ num / den) :
    n ≤ roundHalfEven num den := by
  have hnear := (abs_le.mp (roundHalfEven_spec num hden).1).2
  have hlt : (n : ℚ) < (roundHalfEven num den + 1 : Nat) := by
    push_cast
    linarith
  exact Nat.lt_succ_iff.mp (by exact_mod_cast hlt)

theorem roundHalfEven_le {n : Nat} (hden : 0 < den) (h : (num / den : ℚ) ≤ n) :
    roundHalfEven num den ≤ n := by
  have hnear := (abs_le.mp (roundHalfEven_spec num hden).1).1
  have hlt : (roundHalfEven num den : ℚ) < (n + 1 : Nat) := by
    push_cast
    linarith
  exact Nat.lt_succ_iff.mp (by exact_mod_cast hlt)

theorem roundHalfEven_eq {n : Nat} (hden : 0 < den) (h : (num / den : ℚ) = n) :
    roundHalfEven num den = n :=
  le_antisymm (roundHalfEven_le hden h.le) (le_roundHalfEven hden h.ge)

/-- An even bound is reached from half below it on. -/
theorem le_roundHalfEven_iff_of_even {n : Nat} (hden : 0 < den) (heven : n % 2 = 0) :
    n ≤ roundHalfEven num den ↔ (n - 1 / 2 : ℚ) ≤ num / den := by
  obtain ⟨hnear, htie⟩ := roundHalfEven_spec num hden
  obtain ⟨hlow, hhigh⟩ := abs_le.mp hnear
  constructor
  · intro h
    have : (n : ℚ) ≤ roundHalfEven num den := by exact_mod_cast h
    linarith
  · intro h
    by_contra hlt
    have hle : ((roundHalfEven num den + 1 : Nat) : ℚ) ≤ n := by
      exact_mod_cast Nat.succ_le_of_lt (not_le.mp hlt)
    push_cast at hle
    -- Only the number just below the bound is left, and a tie would have to be even there.
    have hhalf : (num / den : ℚ) - roundHalfEven num den = 1 / 2 := by linarith
    have hbelow : n = roundHalfEven num den + 1 := by
      have : (n : ℚ) = (roundHalfEven num den + 1 : Nat) := by
        push_cast
        linarith
      exact_mod_cast this
    have := htie (by rw [hhalf, abs_of_pos one_half_pos])
    omega

/-! ### Rounding to a number -/

/-- The exponent of the last digit that is kept of a fraction. -/
def unitExponent (num den : Nat) : Int :=
  max (floorLog2 num den - 52) leastExponent

/-- A fraction in whole units of its last digit. -/
def rounded (num den : Nat) : Nat :=
  roundHalfEven (scale num den 2 (-unitExponent num den)).1
    (scale num den 2 (-unitExponent num den)).2

theorem roundRatio_eq (hnum : num ≠ 0) :
    roundRatio negative num den =
      if rounded num den = 2 * leastNormal then
        if greatestExponent < unitExponent num den + 1 then none
        else some ⟨negative, leastNormal, unitExponent num den + 1⟩
      else if greatestExponent < unitExponent num den then none
      else some ⟨negative, rounded num den, unitExponent num den⟩ := by
  by_cases hcarry : rounded num den = 2 * leastNormal
  · rw [if_pos hcarry]
    rw [rounded, unitExponent] at hcarry
    rw [roundRatio, if_neg hnum]
    simp only [if_pos hcarry]
    rfl
  · rw [if_neg hcarry]
    rw [rounded, unitExponent] at hcarry
    rw [roundRatio, if_neg hnum]
    simp only [if_neg hcarry]
    rfl

theorem scaled_div (num den : Nat) :
    ((scale num den 2 (-unitExponent num den)).1 : ℚ) /
        (scale num den 2 (-unitExponent num den)).2 = num / den / 2 ^ unitExponent num den := by
  rw [scale_div, Nat.cast_ofNat, zpow_neg, ← div_eq_mul_inv]

theorem rounded_le (hnum : num ≠ 0) (hden : 0 < den) : rounded num den ≤ 2 * leastNormal := by
  refine roundHalfEven_le (scale_den_pos hden Nat.two_pos _) ?_
  rw [scaled_div, div_le_iff₀ (by positivity)]
  have hlog := (floorLog2_spec hnum hden).2.le
  refine hlog.trans ?_
  have hunit : ((2 * leastNormal : Nat) : ℚ) = 2 ^ (53 : Int) := by
    rw [leastNormal]
    norm_num
  rw [hunit, ← zpow_add₀ two_ne_zero]
  refine zpow_le_zpow_right₀ one_le_two ?_
  rw [unitExponent]
  omega

/-- A carry to the next power of two changes the significand and the exponent, not the value. -/
theorem roundRatio_spec {x : Binary64} (hnum : num ≠ 0) (hden : 0 < den)
    (h : roundRatio negative num den = some x) :
    x.magnitude = rounded num den * 2 ^ unitExponent num den ∧
      x.significand < 2 * leastNormal ∧ x.exponent ≤ greatestExponent := by
  have hle := rounded_le hnum hden
  rw [roundRatio_eq hnum] at h
  split at h
  case isTrue hcarry =>
    split at h
    case isTrue => cases h
    case isFalse hexponent =>
      obtain rfl := Option.some.inj h
      refine ⟨?_, show leastNormal < 2 * leastNormal by decide, not_lt.mp hexponent⟩
      rw [magnitude, hcarry, zpow_add_one₀ two_ne_zero]
      push_cast
      ring
  case isFalse hcarry =>
    split at h
    case isTrue => cases h
    case isFalse hexponent =>
      obtain rfl := Option.some.inj h
      exact ⟨rfl, lt_of_le_of_ne hle hcarry, not_lt.mp hexponent⟩

theorem roundRatio_eq_none_iff_unitExponent (hnum : num ≠ 0) (hden : 0 < den) :
    roundRatio negative num den = none ↔
      greatestExponent < unitExponent num den ∨
        unitExponent num den = greatestExponent ∧ 2 * leastNormal ≤ rounded num den := by
  have hle := rounded_le hnum hden
  rw [roundRatio_eq hnum]
  grind

/-! ### The range -/

theorem cast_limit : (limit : ℚ) = (2 ^ 53 - 1 / 2) * 2 ^ greatestExponent := by
  have hgreatest : (2 : ℚ) ^ greatestExponent = 2 * 2 ^ 970 := by
    rw [greatestExponent, show (971 : Int) = (970 : Nat) + 1 from rfl, zpow_add_one₀ two_ne_zero,
      zpow_natCast, mul_comm]
  have hfactor : ((2 ^ 54 - 1 : Nat) : ℚ) = (2 ^ 53 - 1 / 2) * 2 := by norm_num
  rw [limit, hgreatest, Nat.cast_mul, Nat.cast_pow, Nat.cast_ofNat, hfactor, mul_assoc]

theorem limit_pos : (0 : ℚ) < limit := by
  rw [cast_limit]
  exact mul_pos (by norm_num) (by positivity)

/-- A fraction has no number exactly from the limit on. -/
theorem roundRatio_eq_none_iff (hden : 0 < den) :
    roundRatio negative num den = none ↔ (limit : ℚ) ≤ num / den := by
  rcases eq_or_ne num 0 with rfl | hnum
  · rw [Nat.cast_zero, zero_div, iff_false_right limit_pos.not_ge]
    exact Option.some_ne_none _
  obtain ⟨hlow, hhigh⟩ := floorLog2_spec hnum hden
  rw [roundRatio_eq_none_iff_unitExponent hnum hden]
  rcases lt_trichotomy (unitExponent num den) greatestExponent with hunit | hunit | hunit
  · -- The fraction stays below the power of two under the greatest exponent.
    have hlt : (num / den : ℚ) < limit := by
      refine hhigh.trans_le ?_
      have hexponent : floorLog2 num den + 1 ≤ 52 + greatestExponent := by
        rw [unitExponent] at hunit
        omega
      calc (2 : ℚ) ^ (floorLog2 num den + 1) ≤ 2 ^ (52 + greatestExponent) :=
            zpow_le_zpow_right₀ one_le_two hexponent
        _ = 2 ^ (52 : Int) * 2 ^ greatestExponent := zpow_add₀ two_ne_zero ..
        _ ≤ limit := by
          rw [cast_limit]
          gcongr
          norm_num
    rw [iff_false_right hlt.not_ge]
    omega
  · -- At the greatest exponent only a carry leaves the range.
    rw [or_iff_right hunit.not_gt, and_iff_right hunit, rounded,
      le_roundHalfEven_iff_of_even (scale_den_pos hden Nat.two_pos _) rfl, scaled_div, hunit,
      le_div_iff₀ (by positivity), cast_limit, leastNormal]
    norm_num
  · have hle : (limit : ℚ) ≤ num / den := by
      refine le_trans ?_ hlow
      have hexponent : 53 + greatestExponent ≤ floorLog2 num den := by
        rw [unitExponent, leastExponent] at hunit
        rw [greatestExponent] at *
        omega
      calc (limit : ℚ) ≤ 2 ^ (53 : Int) * 2 ^ greatestExponent := by
            rw [cast_limit]
            gcongr
            norm_num
        _ = 2 ^ (53 + greatestExponent) := (zpow_add₀ two_ne_zero ..).symm
        _ ≤ 2 ^ floorLog2 num den := zpow_le_zpow_right₀ one_le_two hexponent
    rw [iff_true_right hle]
    exact .inl hunit

theorem magnitude_lt_limit {x : Binary64} (hden : 0 < den)
    (h : roundRatio negative num den = some x) : x.magnitude < limit := by
  rcases eq_or_ne num 0 with rfl | hnum
  · obtain rfl := Option.some.inj h
    rw [magnitude, zero, Nat.cast_zero, zero_mul]
    exact limit_pos
  obtain ⟨-, hsignificand, hexponent⟩ := roundRatio_spec hnum hden h
  have hgreatest : (x.significand : ℚ) ≤ 2 ^ 53 - 1 := by
    have hle : x.significand ≤ 2 ^ 53 - 1 := by
      rw [leastNormal] at hsignificand
      omega
    calc (x.significand : ℚ) ≤ (2 ^ 53 - 1 : Nat) := by exact_mod_cast hle
      _ = 2 ^ 53 - 1 := by norm_num
  calc x.magnitude = x.significand * 2 ^ x.exponent := rfl
    _ ≤ (2 ^ 53 - 1) * 2 ^ greatestExponent := by
      gcongr
      exact one_le_two
    _ < (2 ^ 53 - 1 / 2) * 2 ^ greatestExponent := by
      gcongr
      norm_num
    _ = limit := cast_limit.symm

/-! ### Whole numbers -/

theorem unitExponent_one {n : Nat} (hn : n ≠ 0) : unitExponent n 1 = n.log2 - 52 := by
  obtain ⟨hlow, hhigh⟩ := floorLog2_spec hn Nat.one_pos
  rw [Nat.cast_one, div_one] at hlow hhigh
  have hself : (2 : ℚ) ^ (n.log2 : Int) ≤ n := by
    rw [zpow_natCast]
    exact_mod_cast Nat.log2_self_le hn
  have hnext : (n : ℚ) < 2 ^ ((n.log2 : Int) + 1) := by
    rw [show (n.log2 : Int) + 1 = (n.log2 + 1 : Nat) from rfl, zpow_natCast]
    exact_mod_cast Nat.lt_log2_self
  have hle := (zpow_lt_zpow_iff_right₀ one_lt_two).mp (hlow.trans_lt hnext)
  have hge := (zpow_lt_zpow_iff_right₀ one_lt_two).mp (hself.trans_lt hhigh)
  rw [unitExponent, leastExponent]
  omega

theorem nearest_eq_self {n : Nat} (h : n.log2 ≤ 52) : nearest n = n := by
  rw [nearest, Nat.sub_eq_zero_of_le h, pow_zero, mul_one]
  exact roundHalfEven_eq Nat.one_pos (by rw [Nat.cast_one, div_one])

theorem nearest_pos {n : Nat} (hn : n ≠ 0) : 0 < nearest n := by
  refine Nat.mul_pos (le_roundHalfEven (Nat.two_pow_pos _) ?_) (Nat.two_pow_pos _)
  have hunit : 2 ^ (n.log2 - 52) ≤ n :=
    (Nat.pow_le_pow_right Nat.two_pos (Nat.sub_le ..)).trans (Nat.log2_self_le hn)
  rw [le_div_iff₀ (by positivity), Nat.cast_one, one_mul]
  exact_mod_cast hunit

theorem nearest_eq_zero_iff {n : Nat} : nearest n = 0 ↔ n = 0 := by
  constructor
  · contrapose
    exact fun hn => (nearest_pos hn).ne'
  · rintro rfl
    exact nearest_eq_self (by decide)

theorem magnitude_of_ofNat {n : Nat} {x : Binary64} (h : ofNat n = some x) :
    x.magnitude = nearest n := by
  rcases eq_or_ne n 0 with rfl | hn
  · obtain rfl := Option.some.inj h
    rw [magnitude, zero, nearest_eq_self (by decide), Nat.cast_zero, zero_mul]
  rw [(roundRatio_spec hn Nat.one_pos h).1]
  rcases le_or_gt n.log2 52 with hle | hlt
  · -- The last of 53 digits is a fraction of one, so nothing is rounded.
    have hexact : (n / 2 ^ unitExponent n 1 : ℚ) = (n * 2 ^ (52 - n.log2) : Nat) := by
      rw [unitExponent_one hn, show (n.log2 : Int) - 52 = -((52 - n.log2 : Nat) : Int) by omega,
        zpow_neg, zpow_natCast, div_inv_eq_mul]
      push_cast
      rfl
    have hrounded : rounded n 1 = n * 2 ^ (52 - n.log2) := by
      refine roundHalfEven_eq (scale_den_pos Nat.one_pos Nat.two_pos _) ?_
      rw [scaled_div, Nat.cast_one, div_one, hexact]
    rw [hrounded, ← hexact, div_mul_cancel₀ _ (by positivity), nearest_eq_self hle]
  · have hunit : unitExponent n 1 = (n.log2 - 52 : Nat) := by
      rw [unitExponent_one hn]
      omega
    have hrounded : rounded n 1 = roundHalfEven n (2 ^ (n.log2 - 52)) := by
      rw [rounded, hunit, scale, if_neg (by omega)]
      simp only [neg_neg, Int.toNat_natCast, Nat.one_mul, Nat.pow_eq]
    rw [hrounded, hunit, nearest, zpow_natCast]
    push_cast
    rfl

theorem ofNat_eq_none_iff {n : Nat} : ofNat n = none ↔ limit ≤ n := by
  rw [ofNat, roundRatio_eq_none_iff Nat.one_pos, Nat.cast_one, div_one, Nat.cast_le]

theorem exists_ofNat {n : Nat} (h : n < limit) :
    ∃ x, ofNat n = some x ∧ x.magnitude = nearest n ∧ x.magnitude < limit := by
  obtain ⟨x, hx⟩ := Option.ne_none_iff_exists'.mp (ofNat_eq_none_iff.not.mpr h.not_ge)
  exact ⟨x, hx, magnitude_of_ofNat hx, magnitude_lt_limit Nat.one_pos hx⟩

theorem nearest_lt_limit {n : Nat} (h : n < limit) : nearest n < limit := by
  obtain ⟨x, -, hmagnitude, hlt⟩ := exists_ofNat h
  rw [hmagnitude] at hlt
  exact_mod_cast hlt

/-! ### Products and quotients -/

theorem magnitude_nonneg (x : Binary64) : 0 ≤ x.magnitude := by
  rw [magnitude]
  positivity

theorem magnitude_eq_zero_iff {x : Binary64} : x.magnitude = 0 ↔ x.significand = 0 := by
  rw [magnitude, mul_eq_zero_iff_right (by positivity), Nat.cast_eq_zero]

theorem mul_eq_none_iff {x y : Binary64} :
    x.mul y = none ↔ (limit : ℚ) ≤ x.magnitude * y.magnitude := by
  rw [← ratio_div, ← ratio_div, div_mul_div_comm, ← Nat.cast_mul, ← Nat.cast_mul]
  exact roundRatio_eq_none_iff (Nat.mul_pos x.ratio_den_pos y.ratio_den_pos)

theorem ratio_num_pos {x : Binary64} (h : 0 < x.magnitude) : 0 < x.ratio.1 := by
  rw [← ratio_div] at h
  by_contra hzero
  rw [Nat.eq_zero_of_not_pos hzero, Nat.cast_zero, zero_div] at h
  exact h.false

/-- A quotient by one or more stays in range. -/
theorem exists_div {x y : Binary64} (hx : x.magnitude < limit) (hy : 1 ≤ y.magnitude) :
    ∃ z, x.div y = some z ∧ z.magnitude < limit := by
  have hden : 0 < x.ratio.2 * y.ratio.1 :=
    Nat.mul_pos x.ratio_den_pos (ratio_num_pos (zero_lt_one.trans_le hy))
  have hquotient : ((x.ratio.1 * y.ratio.2 : Nat) / (x.ratio.2 * y.ratio.1 : Nat) : ℚ) < limit := by
    rw [Nat.cast_mul, Nat.cast_mul, ← div_div_div_eq, ratio_div, ratio_div]
    exact (div_le_self x.magnitude_nonneg hy).trans_lt hx
  obtain ⟨z, hz⟩ := Option.ne_none_iff_exists'.mp
    ((@roundRatio_eq_none_iff _ _ (x.negative != y.negative) hden).not.mpr hquotient.not_ge)
  exact ⟨z, hz, magnitude_lt_limit hden hz⟩

end Stimulus.Decimal.Binary64
