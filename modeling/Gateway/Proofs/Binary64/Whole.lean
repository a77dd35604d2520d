import Gateway.Binary64.Double
import Mathlib.Tactic.Positivity
import Mathlib.Tactic.Ring

namespace Gateway.Binary64.Magnitude

def whole (n : Nat) : Magnitude :=
  .finite (n * one)

theorem one_eq : one = 2 ^ fractionBits :=
  Nat.one_shiftLeft fractionBits

theorem one_pos : 0 < one := by
  rw [one_eq]
  positivity

theorem round_eq (num den : Nat) :
    round num den =
      let step := 2 ^ spareBits (num / den)
      let units := nearestEven num (den * step) * step
      if units < 2 ^ totalBits then .finite units else .infinite := by
  simp only [round, Nat.one_shiftLeft]

theorem nearestEven_mul (quotient : Nat) {den : Nat} (h : 0 < den) :
    nearestEven (quotient * den) den = quotient := by
  simp [nearestEven, h]

theorem round_eq_finite {units den : Nat} (hden : 0 < den)
    (hdvd : 2 ^ spareBits units ∣ units) (hlt : units < 2 ^ totalBits) :
    round (units * den) den = .finite units := by
  obtain ⟨significand, hunits⟩ := hdvd
  have hstep : 0 < den * 2 ^ spareBits units := Nat.mul_pos hden (Nat.two_pow_pos _)
  have hback : significand * 2 ^ spareBits units = units := by rw [Nat.mul_comm, ← hunits]
  have hnum : units * den = significand * (den * 2 ^ spareBits units) := by
    rw [Nat.mul_left_comm, hback, Nat.mul_comm]
  rw [round_eq, Nat.mul_div_cancel _ hden]
  dsimp only
  rw [hnum, nearestEven_mul _ hstep, hback, if_pos hlt]

-- At 2^53 itself one bit more is spare, but all bits below the first are zero there.
theorem spareBits_dvd {n : Nat} (h : n ≤ 2 ^ 53) (e : Nat) :
    2 ^ spareBits (n * 2 ^ e) ∣ n * 2 ^ e := by
  rcases Nat.lt_or_eq_of_le h with hlt | rfl
  · by_cases hzero : n * 2 ^ e = 0
    · rw [hzero]
      exact Nat.dvd_zero _
    · have hlog : (n * 2 ^ e).log2 < 53 + e := by
        rw [Nat.log2_lt hzero, Nat.pow_add]
        exact Nat.mul_lt_mul_of_pos_right hlt (Nat.two_pow_pos e)
      have hspare : spareBits (n * 2 ^ e) ≤ e := by
        rw [spareBits]
        omega
      exact Nat.dvd_mul_left_of_dvd (Nat.pow_dvd_pow 2 hspare) n
  · rw [← Nat.pow_add, spareBits, Nat.log2_two_pow]
    exact Nat.pow_dvd_pow 2 (by omega)

theorem mul_two_pow_lt {n e limit : Nat} (h : n ≤ 2 ^ 53) (he : 53 + e < limit) :
    n * 2 ^ e < 2 ^ limit := by
  calc n * 2 ^ e ≤ 2 ^ 53 * 2 ^ e := Nat.mul_le_mul_right (2 ^ e) h
    _ = 2 ^ (53 + e) := (Nat.pow_add 2 53 e).symm
    _ < 2 ^ limit := Nat.pow_lt_pow_right (by decide) he

theorem round_whole {n den : Nat} (hden : 0 < den) (h : n ≤ 2 ^ 53) :
    round (n * one * den) den = whole n := by
  rw [whole, one_eq]
  exact round_eq_finite hden (spareBits_dvd h fractionBits) (mul_two_pow_lt h (by decide))

theorem ofNat_of_le {n : Nat} (h : n ≤ 2 ^ 53) : ofNat n = whole n := by
  have hround := round_whole Nat.one_pos h
  rwa [Nat.mul_one] at hround

theorem mul_whole {a b : Nat} (h : a * b ≤ 2 ^ 53) : (whole a).mul (whole b) = whole (a * b) := by
  have hproduct : a * one * (b * one) = a * b * one * one := by ring
  rw [whole, whole, mul, hproduct, round_whole one_pos h]

theorem add_whole {a b : Nat} (h : a + b ≤ 2 ^ 53) : (whole a).add (whole b) = whole (a + b) := by
  have hsum : a * one + b * one = (a + b) * one * 1 := by ring
  rw [whole, whole, add, hsum, round_whole Nat.one_pos h]

theorem ofScientific_whole {n : Nat} (h : n ≤ 2 ^ 53) : ofScientific n 0 = whole n := by
  rw [ofScientific.eq_def]
  by_cases hzero : n = 0
  · rw [if_pos hzero, hzero, whole, Nat.zero_mul]
    rfl
  · have hlength : (Nat.toDigits 10 n).length ≤ 16 :=
      (Nat.length_toDigits_le_iff (by decide) (by decide)).mpr
        (Nat.lt_of_le_of_lt h (by decide))
    have hlarge : ¬400 < ((Nat.toDigits 10 n).length : Int) + 0 := by omega
    have hsmall : ¬((Nat.toDigits 10 n).length : Int) + 0 < -400 := by omega
    rw [if_neg hzero, if_neg hlarge, if_neg hsmall]
    exact (congrArg ofNat (Nat.mul_one n)).trans (ofNat_of_le h)

theorem nearest?_whole (n : Nat) : (whole n).nearest? = some n := by
  have hhalf : 2 * (n * one) + one = one + 2 * one * n := by ring
  have hbelow : one / (2 * one) = 0 :=
    Nat.div_eq_of_lt (by have := one_pos; omega)
  rw [whole, nearest?, hhalf, Nat.add_mul_div_left _ _ (Nat.mul_pos Nat.two_pos one_pos), hbelow,
    Nat.zero_add]

theorem div_le_nearestEven (num den : Nat) : num / den ≤ nearestEven num den := by
  simp only [nearestEven]
  split
  · exact Nat.le_refl _
  · split
    · exact Nat.le_succ _
    · split
      · exact Nat.le_refl _
      · exact Nat.le_succ _

-- Rounding keeps the leading bit at least, so it never comes down to zero.
theorem isZero_round {units : Nat} (h : 0 < units) : (round units 1).isZero = false := by
  have hspare : spareBits units ≤ units.log2 := by
    rw [spareBits]
    omega
  have hstep : 2 ^ spareBits units ≤ units :=
    Nat.le_trans (Nat.pow_le_pow_right Nat.two_pos hspare) (Nat.log2_self_le (Nat.ne_of_gt h))
  have hquotient : 0 < nearestEven units (1 * 2 ^ spareBits units) := by
    rw [Nat.one_mul]
    exact Nat.lt_of_lt_of_le (Nat.div_pos hstep (Nat.two_pow_pos _)) (div_le_nearestEven _ _)
  have hunits := Nat.mul_pos hquotient (Nat.two_pow_pos (spareBits units))
  rw [round_eq, Nat.div_one]
  dsimp only
  split
  · exact beq_eq_false_iff_ne.mpr (Nat.ne_of_gt hunits)
  · rfl

theorem isZero_ofNat_iff (n : Nat) : (ofNat n).isZero = true ↔ n = 0 := by
  rcases Nat.eq_zero_or_pos n with rfl | h
  · rw [ofNat_of_le (Nat.zero_le _), whole, Nat.zero_mul]
    decide
  · rw [ofNat, isZero_round (Nat.mul_pos h one_pos)]
    exact iff_of_false Bool.false_ne_true (Nat.ne_of_gt h)

end Gateway.Binary64.Magnitude

namespace Gateway

open Binary64

theorem Double.isPositive_ofInt_iff (i : Int) : (Double.ofInt i).isPositive = true ↔ 0 < i := by
  rw [Double.ofInt]
  by_cases h : i < 0
  · simp [Double.isPositive, h, Int.le_of_lt h]
  · simp only [h, decide_false, Double.isPositive, Bool.not_eq_true', ← Bool.not_eq_true,
      Magnitude.isZero_ofNat_iff]
    omega

theorem toInt_saturate (n : Option Nat) :
    (saturate false n).toInt = min (n.getD (2 ^ 63 - 1) : Int) (2 ^ 63 - 1) := by
  cases n with
  | none => decide
  | some n =>
      have hmax : Int64.maxValue.toInt = 2 ^ 63 - 1 := rfl
      have hlow : -2 ^ 63 ≤ min (n : Int) (2 ^ 63 - 1) := by omega
      have hhigh : min (n : Int) (2 ^ 63 - 1) < 2 ^ 63 := by omega
      rw [saturate, hmax, Int64.toInt_ofInt_of_le hlow hhigh, Option.getD_some]

theorem saturate_nonneg (n : Option Nat) : 0 ≤ saturate false n := by
  rw [Int64.le_iff_toInt_le, toInt_saturate, Int64.toInt_zero]
  omega

theorem toInt_toInt64_nonneg {d : Double} (h : d.isPositive = true) : 0 ≤ d.toInt64.toInt := by
  cases d with
  | number negative m =>
      cases negative with
      | false => exact Int64.le_iff_toInt_le.mp (saturate_nonneg m.floor?)
      | true => cases h
  | nan => cases h

theorem toInt_neg_of_nonneg {word : Int64} (h : 0 ≤ word.toInt) : (-word).toInt = -word.toInt := by
  have hlt := word.toInt_lt
  rw [Int64.toInt_neg, Int.bmod_eq_of_le (by omega) (by omega)]

theorem toInt_div_of_nonneg {word divisor : Int64} (h : 0 ≤ word.toInt) (hdivisor : 0 < divisor) :
    (word / divisor).toInt = word.toInt / divisor.toInt := by
  have hne : divisor ≠ -1 := by
    rintro rfl
    revert hdivisor
    decide
  rw [Int64.toInt_div_of_ne_right _ _ hne, Int.tdiv_eq_ediv_of_nonneg h]

end Gateway
