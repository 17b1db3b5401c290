import Mathlib.Data.Int.Log
import Mathlib.Data.Rat.Floor
import Mathlib.Tactic.FieldSimp
import Mathlib.Tactic.Linarith
import Mathlib.Tactic.NormNum
import Mathlib.Tactic.Ring

/-!
# Rounding to binary64

The value a double takes for an exact rational number: the nearest multiple of its unit in the
last place, a tie going to the even one. Exponents are not bounded here, which makes no
difference for numbers that are neither huge nor tiny.
-/

namespace XServer.Lib

/-! ## Rounding to integers -/

/-- The nearest integer, a half going to the even one. -/
def roundHalfEven (x : ℚ) : ℤ :=
  if x - ⌊x⌋ < 1 / 2 then ⌊x⌋
  else if 1 / 2 < x - ⌊x⌋ then ⌊x⌋ + 1
  else ⌊x⌋ + ⌊x⌋ % 2

@[simp] theorem roundHalfEven_intCast (n : ℤ) : roundHalfEven n = n := by
  simp [roundHalfEven]

theorem roundHalfEven_bounds (x : ℚ) : ⌊x⌋ ≤ roundHalfEven x ∧ roundHalfEven x ≤ ⌊x⌋ + 1 := by
  unfold roundHalfEven
  split
  · omega
  · split
    · omega
    · omega

theorem roundHalfEven_low {x : ℚ} (low : x - ⌊x⌋ < 1 / 2) : roundHalfEven x = ⌊x⌋ := if_pos low

theorem roundHalfEven_high {x : ℚ} (high : 1 / 2 < x - ⌊x⌋) : roundHalfEven x = ⌊x⌋ + 1 := by
  unfold roundHalfEven
  rw [if_neg (not_lt.mpr high.le), if_pos high]

theorem roundHalfEven_mono {x y : ℚ} (le : x ≤ y) : roundHalfEven x ≤ roundHalfEven y := by
  have floors := Int.floor_mono le
  obtain ⟨-, above⟩ := roundHalfEven_bounds x
  obtain ⟨below, -⟩ := roundHalfEven_bounds y
  by_cases same : ⌊x⌋ = ⌊y⌋
  · have floor : (⌊x⌋ : ℚ) = ⌊y⌋ := by rw [same]
    rcases lt_trichotomy (x - ⌊x⌋) (1 / 2) with low | tie | high
    · rw [roundHalfEven_low low]
      omega
    · rcases eq_or_lt_of_le le with rfl | lt
      · exact le_rfl
      · rw [roundHalfEven_high (x := y) (by linarith)]
        omega
    · rw [roundHalfEven_high high, roundHalfEven_high (x := y) (by linarith)]
      omega
  · omega

theorem roundHalfEven_le {n : ℤ} {x : ℚ} (le : x ≤ n) : roundHalfEven x ≤ n := by
  have rounded := roundHalfEven_mono le
  rwa [roundHalfEven_intCast] at rounded

theorem le_roundHalfEven {n : ℤ} {x : ℚ} (le : (n : ℚ) ≤ x) : n ≤ roundHalfEven x := by
  have rounded := roundHalfEven_mono le
  rwa [roundHalfEven_intCast] at rounded

/-! ## Rounding to 53 bits -/

/-- The unit in the last place of a number. -/
def ulp (x : ℚ) : ℚ := 2 ^ (Int.log 2 |x| - 52)

def toDouble (x : ℚ) : ℚ := roundHalfEven (x / ulp x) * ulp x

theorem ulp_pos (x : ℚ) : 0 < ulp x := by
  exact zpow_pos (by norm_num) _

theorem toDouble_nonpos {x : ℚ} (le : x ≤ 0) : toDouble x ≤ 0 := by
  have scaled : x / ulp x ≤ ((0 : ℤ) : ℚ) := by
    rw [Int.cast_zero]
    exact div_nonpos_of_nonpos_of_nonneg le (ulp_pos x).le
  have rounded : ((roundHalfEven (x / ulp x) : ℤ) : ℚ) ≤ 0 := by
    exact_mod_cast roundHalfEven_le scaled
  exact mul_nonpos_of_nonpos_of_nonneg rounded (ulp_pos x).le

theorem toDouble_nonneg {x : ℚ} (le : 0 ≤ x) : 0 ≤ toDouble x := by
  have scaled : ((0 : ℤ) : ℚ) ≤ x / ulp x := by
    rw [Int.cast_zero]
    exact div_nonneg le (ulp_pos x).le
  have rounded : (0 : ℚ) ≤ (roundHalfEven (x / ulp x) : ℤ) := by
    exact_mod_cast le_roundHalfEven scaled
  exact mul_nonneg rounded (ulp_pos x).le

section Exponent
variable {x : ℚ} {e : ℤ}

theorem ulp_eq (low : 2 ^ e ≤ x) (high : x < 2 ^ (e + 1)) : ulp x = 2 ^ (e - 52) := by
  have positive : 0 < x := lt_of_lt_of_le (zpow_pos (by norm_num) e) low
  have log : Int.log 2 x = e := by
    apply le_antisymm
    · have below : Int.log 2 x < e + 1 := (Int.lt_zpow_iff_log_lt (by norm_num) positive).mp (by exact_mod_cast high)
      omega
    · exact (Int.zpow_le_iff_le_log (by norm_num) positive).mp (by exact_mod_cast low)
  unfold ulp
  rw [abs_of_pos positive, log]

theorem toDouble_eq (low : 2 ^ e ≤ x) (high : x < 2 ^ (e + 1)) :
    toDouble x = roundHalfEven (x / 2 ^ (e - 52)) * 2 ^ (e - 52) := by
  unfold toDouble
  rw [ulp_eq low high]

theorem pow_split (e : ℤ) (n : ℕ) : (2 : ℚ) ^ (e + n) = 2 ^ n * 2 ^ e := by
  rw [zpow_add₀ (by norm_num), zpow_natCast, mul_comm]

/-- Rounding stays between the powers of two around a number. -/
theorem toDouble_bounds (low : 2 ^ e ≤ x) (high : x < 2 ^ (e + 1)) : 2 ^ e ≤ toDouble x ∧ toDouble x ≤ 2 ^ (e + 1) := by
  have positive : (0 : ℚ) < 2 ^ (e - 52) := zpow_pos (by norm_num) _
  have lower : (2 : ℚ) ^ e = 2 ^ 52 * 2 ^ (e - 52) := by
    rw [← pow_split]
    norm_num
  have upper : (2 : ℚ) ^ (e + 1) = 2 ^ 53 * 2 ^ (e - 52) := by
    rw [← pow_split]
    congr 1
    norm_num
    ring
  rw [toDouble_eq low high, lower, upper]
  constructor
  · have scaled : (((2 ^ 52 : ℤ)) : ℚ) ≤ x / 2 ^ (e - 52) := by
      rw [le_div_iff₀ positive]
      push_cast
      linarith
    have rounded : ((2 : ℚ) ^ 52) ≤ (roundHalfEven (x / 2 ^ (e - 52)) : ℤ) := by
      exact_mod_cast le_roundHalfEven scaled
    exact mul_le_mul_of_nonneg_right rounded positive.le
  · have scaled : x / 2 ^ (e - 52) ≤ (((2 ^ 53 : ℤ)) : ℚ) := by
      rw [div_le_iff₀ positive]
      push_cast
      linarith
    have rounded : ((roundHalfEven (x / 2 ^ (e - 52)) : ℤ) : ℚ) ≤ 2 ^ 53 := by
      exact_mod_cast roundHalfEven_le scaled
    exact mul_le_mul_of_nonneg_right rounded positive.le

end Exponent

theorem exponent_exists {x : ℚ} (positive : 0 < x) : ∃ e : ℤ, 2 ^ e ≤ x ∧ x < 2 ^ (e + 1) := by
  refine ⟨Int.log 2 x, ?_, ?_⟩
  · exact_mod_cast Int.zpow_log_le_self (by norm_num) positive
  · exact_mod_cast Int.lt_zpow_succ_log_self (by norm_num) x

theorem toDouble_mono {x y : ℚ} (nonneg : 0 ≤ x) (le : x ≤ y) : toDouble x ≤ toDouble y := by
  rcases nonneg.eq_or_lt with rfl | positive
  · exact (toDouble_nonpos le_rfl).trans (toDouble_nonneg le)
  · obtain ⟨e, lowX, highX⟩ := exponent_exists positive
    obtain ⟨f, lowY, highY⟩ := exponent_exists (positive.trans_le le)
    have ordered : e < f + 1 := by
      have power : (2 : ℚ) ^ e < 2 ^ (f + 1) := lowX.trans_lt (le.trans_lt highY)
      exact (zpow_lt_zpow_iff_right₀ (by norm_num)).mp power
    by_cases same : e = f
    · subst same
      rw [toDouble_eq lowX highX, toDouble_eq lowY highY]
      have positive : (0 : ℚ) < 2 ^ (e - 52) := zpow_pos (by norm_num) _
      have scaled : x / 2 ^ (e - 52) ≤ y / 2 ^ (e - 52) := div_le_div_of_nonneg_right le positive.le
      have rounded : ((roundHalfEven (x / 2 ^ (e - 52)) : ℤ) : ℚ) ≤ (roundHalfEven (y / 2 ^ (e - 52)) : ℤ) := by
        exact_mod_cast roundHalfEven_mono scaled
      exact mul_le_mul_of_nonneg_right rounded positive.le
    · -- a power of two lies between them
      have between : (2 : ℚ) ^ (e + 1) ≤ 2 ^ f := zpow_le_zpow_right₀ (by norm_num) (by omega)
      exact (toDouble_bounds lowX highX).2.trans (between.trans (toDouble_bounds lowY highY).1)

/-- A natural number of 53 bits, scaled by a power of two, is kept. -/
theorem toDouble_exact {m : ℕ} (e : ℤ) (small : m < 2 ^ 53) : toDouble (m * 2 ^ e) = m * 2 ^ e := by
  rcases Nat.eq_zero_or_pos m with rfl | positive
  · simp [toDouble, roundHalfEven]
  · have power : (0 : ℚ) < 2 ^ e := zpow_pos (by norm_num) e
    have value : (0 : ℚ) < m * 2 ^ e := mul_pos (by exact_mod_cast positive) power
    obtain ⟨f, low, high⟩ := exponent_exists value
    have below : f < e + 53 := by
      have bound : (m : ℚ) * 2 ^ e < 2 ^ (e + (53 : ℕ)) := by
        rw [pow_split]
        exact mul_lt_mul_of_pos_right (by exact_mod_cast small) power
      exact (zpow_lt_zpow_iff_right₀ (by norm_num : (1 : ℚ) < 2)).mp (low.trans_lt bound)
    obtain ⟨n, shift⟩ := Int.eq_ofNat_of_zero_le (show 0 ≤ e - (f - 52) by omega)
    have split : (2 : ℚ) ^ e = 2 ^ n * 2 ^ (f - 52) := by
      rw [← pow_split]
      congr 1
      omega
    have unit : (2 : ℚ) ^ (f - 52) ≠ 0 := zpow_ne_zero _ (by norm_num)
    have whole : (m : ℚ) * 2 ^ e / 2 ^ (f - 52) = ((m * 2 ^ n : ℤ) : ℚ) := by
      rw [split]
      push_cast
      field_simp
    rw [toDouble_eq low high, whole, roundHalfEven_intCast, split]
    push_cast
    ring

end XServer.Lib
