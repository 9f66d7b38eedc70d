import Mathlib.Algebra.Order.Field.Power
import Mathlib.Data.Rat.Lemmas
import Mathlib.Tactic.FieldSimp
import Mathlib.Tactic.GCongr
import Mathlib.Tactic.Linarith
import Mathlib.Tactic.Positivity
import Mathlib.Tactic.Ring
import ODataService.Number.Binary64

/-!
# How far rounding goes

A rounded quotient differs from the quotient by half a unit of the last place
at most. Inside the range of normal numbers this is a relative error of
`2 ^ (-53)`, which is all that is needed to show that a computation with few
roundings comes back to the integer it started from.
-/

namespace ODataService.Binary64

/-- The rational number that the significand and the exponent of a finite
value stand for. -/
def size (significand : Nat) (exponent : Int) : ℚ := significand * 2 ^ exponent

/-- Twice the significand is one more in the exponent. -/
theorem size_double (m : Nat) (e : Int) : size (m * 2) e = size m (e + 1) := by
  rw [size, size, zpow_add_one₀ two_ne_zero]
  push_cast
  ring

/-- The relative error of one rounding. -/
def unitRoundoff : ℚ := 2 ^ (-53 : Int)

/-! ## Rounding to integers -/

/-- Rounding moves a quotient by half of the denominator at most. -/
theorem roundHalfEven_near (num : Nat) {den : Nat} (hDen : 0 < den) :
    2 * num ≤ 2 * (roundHalfEven num den * den) + den ∧
      2 * (roundHalfEven num den * den) ≤ 2 * num + den := by
  have hSplit := Nat.div_add_mod' num den
  have hRest := Nat.mod_lt num hDen
  have hUp := Nat.add_one_mul (num / den) den
  unfold roundHalfEven
  dsimp only
  split
  · omega
  split
  · omega
  · -- a tie goes up or down by half of `den`
    rcases Nat.mod_two_eq_zero_or_one (num / den) with hEven | hOdd
    · rw [hEven, Nat.add_zero]
      omega
    · rw [hOdd]
      omega

/-- Rounding moves a quotient by one half at most. -/
theorem roundHalfEven_error {num den : Nat} (hDen : 0 < den) :
    |(roundHalfEven num den : ℚ) - num / den| ≤ 1 / 2 := by
  have hPos : (0 : ℚ) < den := by exact_mod_cast hDen
  obtain ⟨hLow, hHigh⟩ := roundHalfEven_near num hDen
  have hLow' : (2 * num : ℚ) ≤ 2 * (roundHalfEven num den * den) + den := by
    exact_mod_cast hLow
  have hHigh' : (2 * (roundHalfEven num den * den) : ℚ) ≤ 2 * num + den := by
    exact_mod_cast hHigh
  -- both bounds in units of the denominator
  have hQuot : (num : ℚ) = num / den * den := (div_mul_cancel₀ _ hPos.ne').symm
  rw [hQuot] at hLow' hHigh'
  rw [abs_le]
  constructor
  · nlinarith
  · nlinarith

/-- The quotient in units of `2 ^ e` is rounded by half a unit at most. -/
theorem scaledSignificand_error (num : Nat) {den : Nat} (hDen : 0 < den) (e : Int) :
    |(scaledSignificand num den e : ℚ) - num / den / 2 ^ e| ≤ 1 / 2 := by
  unfold scaledSignificand
  split
  · next hNeg =>
    obtain ⟨k, rfl⟩ : ∃ k : Nat, e = -k := ⟨(-e).toNat, by omega⟩
    -- below one the numerator is scaled, from one on the denominator
    have hUnits : (num : ℚ) / den / 2 ^ (-k : Int) = (num * 2 ^ k : Nat) / den := by
      rw [zpow_neg, zpow_natCast, div_inv_eq_mul]
      push_cast
      ring
    rw [hUnits, neg_neg, Int.toNat_natCast]
    exact roundHalfEven_error hDen
  · next hNeg =>
    obtain ⟨k, rfl⟩ : ∃ k : Nat, e = k := ⟨e.toNat, by omega⟩
    have hUnits : (num : ℚ) / den / 2 ^ (k : Int) = num / (den * 2 ^ k : Nat) := by
      rw [zpow_natCast, div_div]
      push_cast
      rfl
    rw [hUnits, Int.toNat_natCast]
    exact roundHalfEven_error (Nat.mul_pos hDen (Nat.two_pow_pos k))

/-- A finite value less than half away from an integer is rounded to it. -/
theorem scaledSignificand_eq {m n : Nat} {e : Int} (h : |size m e - n| < 1 / 2) :
    scaledSignificand m 1 (-e) = n := by
  have hError := scaledSignificand_error m Nat.one_pos (-e)
  have hSize : (m : ℚ) / (1 : Nat) / 2 ^ (-e) = size m e := by
    rw [size, zpow_neg, div_inv_eq_mul, Nat.cast_one, div_one]
  rw [hSize, abs_le] at hError
  rw [abs_lt] at h
  -- less than half from the integer and at most half from the rounded value
  have hLow : (n : ℚ) < scaledSignificand m 1 (-e) + 1 := by linarith [h.2, hError.1]
  have hHigh : (scaledSignificand m 1 (-e) : ℚ) < n + 1 := by linarith [h.1, hError.2]
  have hLow' : n < scaledSignificand m 1 (-e) + 1 := by exact_mod_cast hLow
  have hHigh' : scaledSignificand m 1 (-e) < n + 1 := by exact_mod_cast hHigh
  omega

/-! ## Rounding to binary64 -/

/-- The test of the estimate compares the quotient with the power of two. -/
theorem reached_iff {num den : Nat} (hDen : 0 < den) (e : Int) :
    (if e < 0 then den ≤ num * Nat.pow 2 (-e).toNat else den * Nat.pow 2 e.toNat ≤ num) ↔
      (2 : ℚ) ^ e ≤ num / den := by
  show (if e < 0 then den ≤ num * 2 ^ (-e).toNat else den * 2 ^ e.toNat ≤ num) ↔ _
  have hPos : (0 : ℚ) < den := by exact_mod_cast hDen
  rw [le_div_iff₀ hPos]
  split
  · next hNeg =>
    obtain ⟨k, rfl⟩ : ∃ k : Nat, e = -k := ⟨(-e).toNat, by omega⟩
    have hPow : (0 : ℚ) < 2 ^ k := by positivity
    rw [neg_neg, Int.toNat_natCast, zpow_neg, zpow_natCast, inv_mul_le_iff₀ hPow, mul_comm]
    norm_cast
  · next hNeg =>
    obtain ⟨k, rfl⟩ : ∃ k : Nat, e = k := ⟨e.toNat, by omega⟩
    rw [Int.toNat_natCast, zpow_natCast, mul_comm]
    norm_cast

/-- The binary order is the exponent of the greatest power of two that the quotient reaches. -/
theorem binaryOrder_spec {num den : Nat} (hNum : 0 < num) (hDen : 0 < den) :
    (2 : ℚ) ^ binaryOrder num den ≤ num / den ∧
      (num : ℚ) / den < 2 ^ (binaryOrder num den + 1) := by
  have hPos : (0 : ℚ) < den := by exact_mod_cast hDen
  -- the lengths of both numbers in binary
  have hNumLow : (2 : ℚ) ^ (Nat.log2 num : Int) ≤ num := by
    rw [zpow_natCast]
    exact_mod_cast Nat.log2_self_le hNum.ne'
  have hNumHigh : (num : ℚ) < 2 ^ ((Nat.log2 num : Int) + 1) := by
    have := Nat.lt_log2_self (n := num)
    exact_mod_cast this
  have hDenLow : (2 : ℚ) ^ (Nat.log2 den : Int) ≤ den := by
    rw [zpow_natCast]
    exact_mod_cast Nat.log2_self_le hDen.ne'
  have hDenHigh : (den : ℚ) < 2 ^ ((Nat.log2 den : Int) + 1) := by
    have := Nat.lt_log2_self (n := den)
    exact_mod_cast this
  -- the quotient lies between the powers before and behind the estimate
  have hLow : (2 : ℚ) ^ ((Nat.log2 num : Int) - Nat.log2 den - 1) ≤ num / den := by
    rw [le_div_iff₀ hPos]
    calc (2 : ℚ) ^ ((Nat.log2 num : Int) - Nat.log2 den - 1) * den
        ≤ 2 ^ ((Nat.log2 num : Int) - Nat.log2 den - 1) * 2 ^ ((Nat.log2 den : Int) + 1) := by
          gcongr
      _ = 2 ^ (Nat.log2 num : Int) := by
          rw [← zpow_add₀ two_ne_zero]
          congr 1
          omega
      _ ≤ num := hNumLow
  have hHigh : (num : ℚ) / den < 2 ^ ((Nat.log2 num : Int) - Nat.log2 den + 1) := by
    rw [div_lt_iff₀ hPos]
    calc (num : ℚ) < 2 ^ ((Nat.log2 num : Int) + 1) := hNumHigh
      _ = 2 ^ ((Nat.log2 num : Int) - Nat.log2 den + 1) * 2 ^ (Nat.log2 den : Int) := by
          rw [← zpow_add₀ two_ne_zero]
          congr 1
          omega
      _ ≤ 2 ^ ((Nat.log2 num : Int) - Nat.log2 den + 1) * den := by gcongr
  unfold binaryOrder
  dsimp only
  -- the estimate is the order or one above it
  by_cases hReached : (2 : ℚ) ^ ((Nat.log2 num : Int) - Nat.log2 den) ≤ num / den
  · rw [if_pos ((reached_iff hDen _).mpr hReached)]
    exact ⟨hReached, hHigh⟩
  · rw [if_neg (mt (reached_iff hDen _).mp hReached), sub_add_cancel]
    exact ⟨hLow, not_le.mp hReached⟩

/-- A number that no rounding makes infinite or loses precision of. -/
structure Normal (x : ℚ) : Prop where
  low : (2 : ℚ) ^ (-1022 : Int) ≤ x
  high : x < 2 ^ (1000 : Int)

/-- The order of a normal number is within the range of exponents. -/
theorem Normal.binaryOrder_range {num den : Nat} (hNum : 0 < num) (hDen : 0 < den)
    (h : Normal (num / den)) : -1022 ≤ binaryOrder num den ∧ binaryOrder num den < 1000 := by
  obtain ⟨hOrderLow, hOrderHigh⟩ := binaryOrder_spec hNum hDen
  have hLow := (zpow_lt_zpow_iff_right₀ one_lt_two).mp (h.low.trans_lt hOrderHigh)
  have hHigh := (zpow_lt_zpow_iff_right₀ one_lt_two).mp (hOrderLow.trans_lt h.high)
  omega

/-- A rounded quotient is near the quotient. -/
theorem ofRatio_error (negative : Bool) {num den : Nat} (hDen : 0 < den)
    (h : num = 0 ∨ Normal (num / den)) :
    ∃ m e, ofRatio negative num den = .finite negative m e ∧
      |size m e - num / den| ≤ num / den * unitRoundoff := by
  rcases Nat.eq_zero_or_pos num with rfl | hNum
  · -- zero is exact
    refine ⟨0, minExponent, by rw [ofRatio, if_pos (.inl rfl)], ?_⟩
    simp [size]
  have hNormal := h.resolve_left hNum.ne'
  obtain ⟨hOrderLow, hOrderHigh⟩ := hNormal.binaryOrder_range hNum hDen
  -- a normal number has its full precision
  have hExponent : max (binaryOrder num den - 52) minExponent = binaryOrder num den - 52 := by
    unfold minExponent
    omega
  generalize hOrder : binaryOrder num den = b at *
  -- half a unit of the last place is small beside the quotient
  have hUnit : (2 : ℚ) ^ (b - 52) / 2 ≤ num / den * unitRoundoff := by
    calc (2 : ℚ) ^ (b - 52) / 2 = 2 ^ b * unitRoundoff := by
          rw [unitRoundoff, ← zpow_add₀ two_ne_zero, div_eq_mul_inv, ← zpow_sub_one₀ two_ne_zero]
          congr 1
          omega
      _ ≤ num / den * unitRoundoff := by
          have := (binaryOrder_spec hNum hDen).1
          rw [hOrder] at this
          unfold unitRoundoff
          gcongr
  have hSize : |size (scaledSignificand num den (b - 52)) (b - 52) - num / den| ≤
      num / den * unitRoundoff := by
    have hPow : (0 : ℚ) < 2 ^ (b - 52) := by positivity
    have hQuot : (num : ℚ) / den = num / den / 2 ^ (b - 52) * 2 ^ (b - 52) :=
      (div_mul_cancel₀ _ hPow.ne').symm
    have hError := scaledSignificand_error num hDen (b - 52)
    refine le_trans ?_ hUnit
    rw [size, hQuot, ← sub_mul, abs_mul, abs_of_pos hPow]
    linarith [mul_le_mul_of_nonneg_right hError hPow.le]
  unfold ofRatio
  rw [if_neg (by omega), hOrder, hExponent]
  dsimp only
  split
  · next hCarry =>
    -- the significand is a power of two too large, and the exponent one too small
    have hFits : ¬ maxExponent < b - 52 + 1 := by
      unfold maxExponent
      omega
    refine ⟨_, _, if_neg hFits, ?_⟩
    have hDouble : Nat.pow 2 53 = Nat.pow 2 52 * 2 := rfl
    have hSame : size (Nat.pow 2 52) (b - 52 + 1) =
        size (scaledSignificand num den (b - 52)) (b - 52) := by
      rw [hCarry, hDouble, size_double]
    show |size (Nat.pow 2 52) (b - 52 + 1) - num / den| ≤ _
    rw [hSame]
    exact hSize
  · have hFits : ¬ maxExponent < b - 52 := by
      unfold maxExponent
      omega
    exact ⟨_, _, if_neg hFits, hSize⟩

/-- The product of a finite value with a natural number, as a quotient. -/
theorem mulNat_error (negative : Bool) {m k : Nat} {e : Int}
    (h : m * k = 0 ∨ Normal (size m e * k)) :
    ∃ m' e', (Binary64.finite negative m e).mulNat k = .finite negative m' e' ∧
      |size m' e' - size m e * k| ≤ size m e * k * unitRoundoff := by
  unfold mulNat
  dsimp only
  split
  -- below one the product is a quotient with a power of two beneath it
  · next hNeg =>
    obtain ⟨j, rfl⟩ : ∃ j : Nat, e = -j := ⟨(-e).toNat, by omega⟩
    have hQuot : size m (-j) * k = (m * k : Nat) / (2 ^ j : Nat) := by
      rw [size, zpow_neg, zpow_natCast]
      push_cast
      ring
    rw [hQuot] at h ⊢
    rw [neg_neg, Int.toNat_natCast]
    exact ofRatio_error negative (Nat.two_pow_pos j) h
  · next hNeg =>
    obtain ⟨j, rfl⟩ : ∃ j : Nat, e = j := ⟨e.toNat, by omega⟩
    have hQuot : size m j * k = (m * k * 2 ^ j : Nat) / (1 : Nat) := by
      rw [size, zpow_natCast]
      push_cast
      ring
    rw [hQuot] at h ⊢
    rw [Int.toNat_natCast]
    refine ofRatio_error negative Nat.one_pos (h.imp_left fun hZero => ?_)
    rw [hZero, Nat.zero_mul]

end ODataService.Binary64
