import Mathlib.Algebra.Order.Field.Power
import Mathlib.Tactic.Positivity
import Mathlib.Tactic.Linarith
import PackageRecipe.Binary64

/-!
Exact values of floating-point numbers. A finite number is a rational number, and it is read
as a natural number exactly if it is one.
-/

namespace PackageRecipe.Binary64

/-- The rational number that a finite number is. -/
def rational? : Binary64 → Option ℚ
  | .finite negative significand exponent =>
      some ((if negative then -1 else 1) * significand * 2 ^ exponent)
  | .nan | .infinity _ => none

theorem scaled_value (numerator denominator : Nat) (exponent : Int) :
    ((scaled numerator denominator exponent).1 : ℚ) / (scaled numerator denominator exponent).2 =
      numerator / denominator * 2 ^ exponent := by
  cases exponent with
  | ofNat power =>
      simp only [scaled, Nat.pow_eq, Nat.cast_mul, Nat.cast_pow, Nat.cast_ofNat,
        Int.ofNat_eq_natCast, zpow_natCast]
      rw [mul_div_right_comm]
  | negSucc power =>
      simp only [scaled, Nat.pow_eq, Nat.cast_mul, Nat.cast_pow, Nat.cast_ofNat,
        zpow_negSucc]
      rw [← div_div, div_eq_mul_inv _ ((2 : ℚ) ^ (power + 1))]

theorem scaled_denominator_pos {denominator : Nat} (positive : 0 < denominator)
    (numerator : Nat) (exponent : Int) : 0 < (scaled numerator denominator exponent).2 := by
  cases exponent with
  | ofNat => exact positive
  | negSucc power => exact Nat.mul_pos positive (Nat.pow_pos Nat.two_pos)

theorem cast_div_eq_iff {dividend divisor number : Nat} (positive : 0 < divisor) :
    (dividend : ℚ) / divisor = number ↔
      dividend % divisor = 0 ∧ dividend / divisor = number := by
  have nonzero : (divisor : ℚ) ≠ 0 := Nat.cast_ne_zero.mpr positive.ne'
  rw [div_eq_iff nonzero, ← Nat.cast_mul, Nat.cast_inj]
  constructor
  · rintro rfl
    exact ⟨Nat.mul_mod_left number divisor, Nat.mul_div_cancel number positive⟩
  · rintro ⟨exactly, rfl⟩
    exact (Nat.div_mul_cancel (Nat.dvd_of_mod_eq_zero exactly)).symm

/-- A negative zero is zero; other numbers with a minus sign are no natural numbers. -/
theorem toNat?_eq_some_iff {value : Binary64} {number : Nat} :
    value.toNat? = some number ↔ value.rational? = some (number : ℚ) := by
  cases value with
  | nan | infinity => simp [toNat?, rational?]
  | finite negative significand exponent =>
      have power : (0 : ℚ) < 2 ^ exponent := by positivity
      rw [toNat?, rational?, Option.some.injEq]
      by_cases below : negative = true ∧ significand ≠ 0
      · have positive : (0 : ℚ) < significand := Nat.cast_pos.mpr (Nat.pos_of_ne_zero below.2)
        have natural : (0 : ℚ) ≤ number := Nat.cast_nonneg number
        rw [if_pos (by simpa using below), if_pos below.1]
        simp only [reduceCtorEq, false_iff]
        nlinarith
      · have unsigned : (if negative then -1 else 1) * (significand : ℚ) = significand := by
          by_cases zero : significand = 0
          · simp [zero]
          · rw [if_neg (fun minus => below ⟨minus, zero⟩), one_mul]
        have magnitude := scaled_value significand 1 exponent
        have positive := scaled_denominator_pos Nat.one_pos significand exponent
        generalize scaled significand 1 exponent = fraction at magnitude positive ⊢
        rcases fraction with ⟨dividend, divisor⟩
        rw [Nat.cast_one, div_one] at magnitude
        rw [if_neg (by simpa using below), unsigned, ← magnitude, cast_div_eq_iff positive]
        simp

end PackageRecipe.Binary64
