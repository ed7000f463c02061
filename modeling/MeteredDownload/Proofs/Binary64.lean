import Mathlib.Algebra.Order.Field.Power
import Mathlib.Data.Rat.Floor
import Mathlib.Tactic.FieldSimp
import Mathlib.Tactic.SplitIfs
import MeteredDownload.Numeric.Binary64

/-!
# Whole numbers among the binary numbers

A whole number of at most 53 binary digits is on the grid, so rounding leaves it as it is.
-/
set_option autoImplicit false
namespace MeteredDownload.Numeric

theorem roundHalfEven_intCast (z : Int) : roundHalfEven (z : Rat) = z := by
  simp [roundHalfEven]

theorem magnitude_natCast (n : Nat) : magnitude (n : Rat) = n := by
  have nonneg : ¬ (n : Rat) < 0 := not_lt.mpr n.cast_nonneg
  rw [magnitude, if_neg nonneg]

theorem floorLog2_natCast_le {n : Nat} (small : n < 2 ^ 53) : floorLog2 (n : Rat) ≤ 52 := by
  have digits : n.log2 ≤ 52 := by
    by_cases zero : n = 0
    · simp [zero]
    · exact Nat.lt_succ_iff.mp ((Nat.log2_lt zero).mpr small)
  have one : Nat.log2 1 = 0 := by decide
  have guess : ((n : Rat).num.natAbs.log2 : Int) - ((n : Rat).den.log2 : Int) = n.log2 := by
    simp [one]
  simp only [floorLog2, guess]
  split_ifs <;> omega

theorem exists_gridUnit_natCast {n : Nat} (small : n < 2 ^ 53) :
    ∃ k : Nat, gridUnit (n : Rat) = ((2 : Rat) ^ k)⁻¹ := by
  have exponent : gridExponent (n : Rat) ≤ 0 := by
    have order := floorLog2_natCast_le small
    rw [gridExponent, magnitude_natCast]
    omega
  obtain ⟨k, hk⟩ := Int.eq_ofNat_of_zero_le (neg_nonneg.mpr exponent)
  refine ⟨k, ?_⟩
  have negated : gridExponent (n : Rat) = -(k : Int) := by omega
  rw [gridUnit, negated]
  exact (zpow_neg (2 : Rat) k).trans (congrArg _ (zpow_natCast 2 k))

theorem nearest_natCast {n : Nat} (small : n < 2 ^ 53) : nearest (n : Rat) = n := by
  obtain ⟨k, unit⟩ := exists_gridUnit_natCast small
  have steps : (n : Rat) / ((2 : Rat) ^ k)⁻¹ = ((n * 2 ^ k : Int) : Rat) := by
    push_cast
    field_simp
  rw [nearest, unit, steps, roundHalfEven_intCast]
  push_cast
  field_simp

namespace Binary64

theorem overflow_pos : 0 < overflow := by
  unfold overflow
  positivity

theorem two_pow_lt_overflow {k : Nat} (small : k < 1024) : (2 : Rat) ^ k < overflow := by
  rw [overflow, ← zpow_natCast]
  exact zpow_lt_zpow_right₀ (by norm_num) (by exact_mod_cast small)

theorem ofNat_eq_finite {n : Nat} (small : n < 2 ^ 53) : ofNat n = finite n := by
  have bounded : ¬ overflow ≤ magnitude (n : Rat) := by
    rw [magnitude_natCast, not_le]
    calc (n : Rat) < 2 ^ 53 := by exact_mod_cast small
      _ < overflow := two_pow_lt_overflow (by decide)
  rw [ofNat, ofRat, nearest_natCast small, if_neg bounded]

theorem eq_finite_of_positiveInteger? {x : Binary64} {n : Nat} (h : x.positiveInteger? = some n) :
    x = finite n ∧ 0 < n := by
  unfold positiveInteger? at h
  split at h
  · next checks =>
    cases Option.some.inj h
    simp only [Bool.and_eq_true, decide_eq_true_eq] at checks
    obtain ⟨whole, least⟩ := checks
    cases x with
    | nan => cases whole
    | infinity => cases whole
    | negativeZero => exact absurd least (by norm_num [value])
    | finite q =>
      simp only [isInteger, decide_eq_true_eq, value] at whole least
      have number : (q.num : Rat) = q := Rat.coe_int_num_of_den_eq_one whole
      have positive : 1 ≤ q.num := by exact_mod_cast number ▸ least
      refine ⟨?_, by simp only [value]; omega⟩
      have cast : ((q.num.toNat : Int) : Rat) = q := by
        rw [Int.toNat_of_nonneg (by omega), number]
      exact congrArg finite cast.symm
  · cases h

/-- Only the negative zero changes no number when it is added: the other one changes the sign of a zero. -/
theorem add_negativeZero (x : Binary64) : x + negativeZero = x := by
  cases x with
  | nan => rfl
  | infinity => rfl
  | negativeZero => rfl
  | finite => rfl

end Binary64
end MeteredDownload.Numeric
