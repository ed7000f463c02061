import Mathlib.Data.Nat.Cast.Order.Field
import MeteredDownload.Proofs.Rounding

/-!
# Where the arithmetic is exact

Whole numbers below `2 ^ 53` are added, subtracted and divided with remainder without an error.  Their sums and
differences are on the grid.  A rounded quotient may be off, but it has the whole part of the exact one
(`floor_nearest_div`), since it lies further below the next whole number than rounding can move it.  A zero may have a
minus sign, so `Binary64.IsWhole` says which whole number a number is.
-/
set_option autoImplicit false
namespace MeteredDownload.Numeric

theorem nearest_intCast {z : Int} (small : z.natAbs < 2 ^ 53) : nearest (z : Rat) = z := by
  obtain ⟨n, rfl | rfl⟩ := z.eq_nat_or_neg
  · exact nearest_natCast (by simpa using small)
  · rw [Int.cast_neg, nearest_neg]
    exact congrArg Neg.neg (nearest_natCast (by simpa using small))

theorem two_pow_le_nearest {n : Nat} (large : 2 ^ 53 ≤ n) : (2 ^ 53 : Rat) ≤ nearest n := by
  have exact : nearest (2 ^ 53) = 2 ^ 53 := by decide +kernel
  rw [← exact]
  exact nearest_mono (by positivity) (by exact_mod_cast large)

theorem magnitude_intCast (z : Int) : magnitude (z : Rat) = z.natAbs := by
  obtain ⟨n, rfl | rfl⟩ := z.eq_nat_or_neg
  · exact magnitude_natCast n
  · rw [Int.cast_neg, magnitude_neg, Int.natAbs_neg]
    exact magnitude_natCast n

theorem gridUnit_le {q : Rat} (normal : (2 : Rat) ^ (-1022 : Int) ≤ q) : gridUnit q ≤ q / 2 ^ 52 := by
  have positive : 0 < q := lt_of_lt_of_le (by positivity) normal
  obtain ⟨least, most⟩ := floorLog2_spec positive
  have order : (-1022 : Int) < floorLog2 q + 1 := (zpow_lt_zpow_iff_right₀ one_lt_two).mp (normal.trans_lt most)
  have exponent : gridExponent q = floorLog2 q - 52 := by
    rw [gridExponent, magnitude_of_nonneg positive.le]
    omega
  have unit : gridUnit q = (2 : Rat) ^ floorLog2 q / 2 ^ 52 := by
    rw [gridUnit, exponent, zpow_sub₀ two_ne_zero]
    norm_num
  rw [unit]
  exact div_le_div_of_nonneg_right least (by positivity)

theorem nearest_le_add {q : Rat} (normal : (2 : Rat) ^ (-1022 : Int) ≤ q) : nearest q ≤ q + q / 2 ^ 53 := by
  have unit := gridUnit_pos q
  have steps := mul_le_mul_of_nonneg_right (roundHalfEven_le (q / gridUnit q)) unit.le
  have whole : (q / gridUnit q + 1 / 2) * gridUnit q = q + gridUnit q / 2 := by field_simp
  have fine := gridUnit_le normal
  rw [whole] at steps
  rw [nearest]
  linarith

/-- Quotients of whole numbers are either zero or far above the least normal number. -/
theorem normal_div {a b : Nat} (positive : 0 < a) (divides : 0 < b) (small : b < 2 ^ 53) :
    (2 : Rat) ^ (-1022 : Int) ≤ (a : Rat) / b := by
  have least : (1 : Rat) ≤ a := by exact_mod_cast positive
  have most : (b : Rat) ≤ 2 ^ 53 := by exact_mod_cast small.le
  calc (2 : Rat) ^ (-1022 : Int) ≤ 2 ^ (-53 : Int) := zpow_le_zpow_right₀ (by norm_num) (by norm_num)
    _ = 1 / 2 ^ 53 := by rw [zpow_neg, one_div]; rfl
    _ ≤ a / b := div_le_div₀ (by positivity) least (by exact_mod_cast divides) most

/-- Rounding a quotient of whole numbers does not take it up to the next whole number. -/
theorem nearest_div_bounds {a b : Nat} (dividend : a < 2 ^ 53) (divides : 0 < b) (divisor : b < 2 ^ 53) :
    ((a / b : Nat) : Rat) ≤ nearest (a / b) ∧ nearest (a / b) < (a / b : Nat) + 1 := by
  have positive : (0 : Rat) < b := by exact_mod_cast divides
  have least : ((a / b : Nat) : Rat) ≤ (a : Rat) / b := Nat.cast_div_le
  refine ⟨?_, ?_⟩
  · have exact : nearest ((a / b : Nat) : Rat) = (a / b : Nat) :=
      nearest_natCast ((Nat.div_le_self a b).trans_lt dividend)
    exact exact ▸ nearest_mono (Nat.cast_nonneg _) least
  · rcases Nat.eq_zero_or_pos a with rfl | some
    · simp [nearest_zero]
    have near := nearest_le_add (normal_div some divides divisor)
    -- The next whole number is `1 / b` away at least, and rounding moves the quotient by less.
    have room : (a : Rat) / b + 1 / b ≤ (a / b : Nat) + 1 := by
      rw [← add_div, div_le_iff₀ positive]
      have above : a + 1 ≤ (a / b + 1) * b := Nat.lt_mul_of_div_lt (Nat.lt_succ_self _) divides
      exact_mod_cast above
    have error : (a : Rat) / b / 2 ^ 53 < 1 / b := by
      rw [div_div, mul_comm, ← div_div]
      refine div_lt_div_of_pos_right ?_ positive
      rw [div_lt_one (by positivity)]
      exact_mod_cast dividend
    linarith

theorem floor_nearest_div {a b : Nat} (dividend : a < 2 ^ 53) (divides : 0 < b) (divisor : b < 2 ^ 53) :
    (nearest (a / b)).floor = (a / b : Nat) := by
  obtain ⟨least, most⟩ := nearest_div_bounds dividend divides divisor
  exact Int.floor_eq_iff.mpr ⟨by exact_mod_cast least, by exact_mod_cast most⟩

theorem nearest_natCast_div_pow {n k : Nat} (small : n < 2 ^ 53) (few : k ≤ 1074) :
    nearest ((n : Rat) / 2 ^ k) = n / 2 ^ k := by
  rcases Nat.eq_zero_or_pos n with rfl | some
  · simp [nearest_zero]
  have positive : (0 : Rat) < n / 2 ^ k := by positivity
  have power : (2 : Rat) ^ (-k : Int) = (2 ^ k)⁻¹ := by rw [zpow_neg, zpow_natCast]
  have order : floorLog2 ((n : Rat) / 2 ^ k) < 53 + -k := by
    have below : (n : Rat) / 2 ^ k < 2 ^ (53 + -k : Int) := by
      rw [zpow_add₀ two_ne_zero, power, div_eq_mul_inv]
      exact mul_lt_mul_of_pos_right (by exact_mod_cast small) (by positivity)
    exact (zpow_lt_zpow_iff_right₀ one_lt_two).mp ((floorLog2_spec positive).1.trans_lt below)
  have finer : gridExponent ((n : Rat) / 2 ^ k) ≤ -k := by
    rw [gridExponent, magnitude_of_nonneg positive.le]
    omega
  obtain ⟨z, on⟩ := exists_power_on_grid finer
  have steps : (n : Rat) / 2 ^ k = (n * z : Int) * gridUnit (n / 2 ^ k) := by
    rw [gridUnit, Int.cast_mul, mul_assoc, ← on, power, div_eq_mul_inv]
    rfl
  exact le_antisymm ((nearest_le steps.le).trans_eq steps.symm) (steps.le.trans (le_nearest steps.ge))

namespace Binary64

theorem ofRat_of_lt {q : Rat} (nonneg : 0 ≤ q) (most : nearest q < overflow) : ofRat q = finite (nearest q) := by
  rw [ofRat_of_nonneg nonneg, if_neg (not_le.mpr most)]

theorem lt_overflow_of_natCast_le {q : Rat} {n : Nat} (less : q ≤ n) (small : n ≤ 2 ^ 64) : q < overflow := by
  calc q ≤ n := less
    _ ≤ 2 ^ 64 := by exact_mod_cast small
    _ < overflow := two_pow_lt_overflow (by decide)

theorem ofRat_intCast {z : Int} (small : z.natAbs < 2 ^ 53) : ofRat z = finite z := by
  have bounded : ¬ overflow ≤ magnitude (z : Rat) := by
    rw [magnitude_intCast, not_le]
    exact lt_overflow_of_natCast_le le_rfl (small.le.trans (by decide))
  rw [ofRat, nearest_intCast small, if_neg bounded]

/-! ## Whole numbers with a sign -/

/-- The number is this whole number; a zero may have a minus sign. -/
def IsWhole (x : Binary64) (z : Int) : Prop := x = finite z ∨ x = negativeZero ∧ z = 0

section Whole
variable {x y : Binary64} {a b : Int} {m n : Nat}

theorem isWhole_ofNat (small : n < 2 ^ 53) : (ofNat n).IsWhole n := .inl (ofNat_eq_finite small)

theorem exists_isWhole_of_isExactInteger (whole : x.isExactInteger = true) :
    ∃ z : Int, x.IsWhole z ∧ z.natAbs < 2 ^ 53 := by
  unfold isExactInteger at whole
  simp only [Bool.and_eq_true, decide_eq_true_eq] at whole
  obtain ⟨integer, bounded⟩ := whole
  cases x with
  | nan => cases integer
  | infinity => cases integer
  | negativeZero => exact ⟨0, .inr ⟨rfl, rfl⟩, by decide⟩
  | finite q =>
    have number : (q.num : Rat) = q := Rat.coe_int_num_of_den_eq_one (of_decide_eq_true integer)
    refine ⟨q.num, .inl (congrArg finite number.symm), ?_⟩
    have size : magnitude q = q.num.natAbs := by rw [← number, magnitude_intCast, Rat.num_intCast]
    have most : q.num.natAbs ≤ maxExactInteger := by
      rw [value, size] at bounded
      exact_mod_cast bounded
    exact Nat.lt_of_le_of_lt most (by decide)

theorem IsWhole.value (whole : x.IsWhole a) : x.value = a := by
  rcases whole with rfl | ⟨rfl, rfl⟩ <;> rfl

theorem IsWhole.isFinite (whole : x.IsWhole a) : x.isFinite = true := by
  rcases whole with rfl | ⟨rfl, rfl⟩ <;> rfl

theorem IsWhole.isInteger (whole : x.IsWhole a) : x.isInteger = true := by
  rcases whole with rfl | ⟨rfl, rfl⟩
  · exact decide_eq_true (Rat.den_intCast a)
  · rfl

theorem IsWhole.isNumber (whole : x.IsWhole a) (small : a.natAbs < 2 ^ 53) : x.IsNumber :=
  ⟨whole.isFinite, by rw [whole.value, ofRat_intCast small]⟩

theorem IsWhole.isZero (whole : x.IsWhole a) : x.isZero = decide (a = 0) := by
  rcases whole with rfl | ⟨rfl, rfl⟩
  · simp [Binary64.isZero]
  · rfl

theorem IsWhole.eq_finite (whole : x.IsWhole a) (nonzero : a ≠ 0) : x = finite a :=
  whole.resolve_right fun zero => nonzero zero.2

theorem IsWhole.zero_lt (whole : x.IsWhole a) : Binary64.lt 0 x = decide (0 < a) := by
  have forth : le (finite 0) x = true ↔ (0 : Rat) ≤ a := whole.value ▸ le_iff_of_isFinite rfl whole.isFinite
  have back : x.le (finite 0) = true ↔ (a : Rat) ≤ 0 := whole.value ▸ le_iff_of_isFinite whole.isFinite rfl
  rw [zero_eq_finite, Bool.eq_iff_iff, lt, Bool.and_eq_true, Bool.not_eq_true', ← Bool.not_eq_true, forth, back,
    ← lt_iff_le_not_ge, decide_eq_true_iff, Int.cast_pos]

theorem IsWhole.sub (left : x.IsWhole a) (right : y.IsWhole b) (first : a.natAbs < 2 ^ 53) (second : b.natAbs < 2 ^ 53)
    (near : (a - b).natAbs < 2 ^ 53) : (x - y).IsWhole (a - b) := by
  have difference : x.value - y.value = ((a - b : Int) : Rat) := by rw [left.value, right.value, Int.cast_sub]
  rcases sub_eq (left.isNumber first) (right.isNumber second) with rounded | ⟨zero, same⟩
  · rw [rounded, difference, ofRat_intCast near]
    exact .inl rfl
  · rw [same, sub_self] at difference
    exact .inr ⟨zero, by exact_mod_cast difference.symm⟩

theorem natCast_add (small : m + n < 2 ^ 53) : finite m + finite n = finite ((m + n : Nat) : Rat) := by
  have sum : (m : Rat) + n = (m + n : Nat) := by push_cast; rfl
  show ofRat _ = _
  rw [sum]
  exact ofNat_eq_finite small

theorem isWhole_floor (number : x.isFinite = true) : x.floor.IsWhole x.value.floor := by
  cases x with
  | nan => cases number
  | infinity => cases number
  | negativeZero => exact .inr ⟨rfl, Rat.floor_intCast 0⟩
  | finite q => exact .inl rfl

theorem IsWhole.floor (whole : x.IsWhole a) : x.floor.IsWhole a := by
  have floor := isWhole_floor whole.isFinite
  rwa [whole.value, Rat.floor_intCast] at floor

theorem IsWhole.max_zero (whole : x.IsWhole a) : max x 0 = finite a.toNat ∧ max 0 x = finite a.toNat := by
  rw [zero_eq_finite]
  rcases whole with rfl | ⟨rfl, rfl⟩
  · have plain : (finite a).isNaN = false ∧ (finite 0).isNaN = false := ⟨rfl, rfl⟩
    rcases lt_trichotomy a 0 with below | rfl | above
    · have order : (a : Rat) < 0 := by exact_mod_cast below
      have none : a.toNat = 0 := by omega
      simp [max, plain, Binary64.isZero, le, Binary64.value, order.le, order.not_ge, order.ne, none]
    · simp [max, plain, Binary64.isZero, zero, isNegative]
    · have order : (0 : Rat) < a := by exact_mod_cast above
      have same : ((a.toNat : Nat) : Rat) = a := by exact_mod_cast Int.toNat_of_nonneg above.le
      simp [max, plain, Binary64.isZero, le, Binary64.value, order.le, order.not_ge, order.ne', same]
  · exact ⟨by decide +kernel, by decide +kernel⟩

/-! ## Quotients and remainders -/

theorem finite_div {p q : Rat} (nonneg : 0 ≤ p) (positive : 0 < q) : finite p / finite q = ofRat (p / q) := by
  have unsigned : ((finite p).isNegative != (finite q).isNegative) = false := by
    simp [isNegative, not_lt.mpr nonneg, not_lt.mpr positive.le]
  rw [div_of_isFinite positive rfl, unsigned, value, ofSigned]
  split_ifs with zero
  · rw [ofRat_of_lt (by positivity) (zero.trans_lt overflow_pos), zero]
    rfl
  · rfl

theorem natCast_div {q : Rat} (nonneg : 0 ≤ q) (positive : 0 < n) : finite q / finite n = ofRat (q / n) :=
  finite_div nonneg (by exact_mod_cast positive)

theorem nearest_div_lt_overflow (dividend : m < 2 ^ 53) (divides : 0 < n) (divisor : n < 2 ^ 53) :
    nearest ((m : Rat) / n) < overflow := by
  have quotient : m / n < 2 ^ 53 := (Nat.div_le_self m n).trans_lt dividend
  have most : nearest ((m : Rat) / n) ≤ (m / n + 1 : Nat) := by
    push_cast
    exact (nearest_div_bounds dividend divides divisor).2.le
  exact lt_overflow_of_natCast_le most (by omega)

theorem natCast_div_eq_finite (dividend : m < 2 ^ 53) (divides : 0 < n) (divisor : n < 2 ^ 53) :
    finite m / finite n = finite (nearest (m / n)) := by
  rw [natCast_div (by positivity) divides, ofRat_of_lt (by positivity)]
  exact nearest_div_lt_overflow dividend divides divisor

theorem floor_natCast_div (dividend : m < 2 ^ 53) (divides : 0 < n) (divisor : n < 2 ^ 53) :
    (finite m / finite n).floor = finite (m / n : Nat) := by
  rw [natCast_div_eq_finite dividend divides divisor, Binary64.floor, floor_nearest_div dividend divides divisor]
  rfl

/-- The whole part of a quotient is exact whatever the divisor: from `2 ^ 53` on, where the divisor is rounded itself,
the quotient stays below one. -/
theorem floor_natCast_div_ofNat (dividend : m < 2 ^ 53) (positive : 0 < n) :
    (finite m / ofNat n).floor = finite (m / n : Nat) := by
  by_cases small : n < 2 ^ 53
  · rw [ofNat_eq_finite small]
    exact floor_natCast_div dividend positive small
  have large := two_pow_le_nearest (not_lt.mp small)
  rw [Nat.div_eq_of_lt (by omega), Nat.cast_zero, ofNat, ofRat_of_nonneg n.cast_nonneg]
  split_ifs
  · have unsigned : (finite m).isNegative = false := decide_eq_false (by simp)
    show (zero ((finite m).isNegative != false)).floor = _
    rw [unsigned]
    rfl
  · have divisor : 0 < nearest n := lt_of_lt_of_le (by norm_num) large
    have most : (m : Rat) ≤ 2 ^ 53 - 1 := by
      have whole : m + 1 ≤ 2 ^ 53 := dividend
      rw [le_sub_iff_add_le]
      exact_mod_cast whole
    have nonneg : 0 ≤ (m : Rat) / nearest n := by positivity
    have largest : nearest ((2 ^ 53 - 1) / 2 ^ 53) = (2 ^ 53 - 1) / 2 ^ 53 := by
      have last : ((2 ^ 53 - 1 : Nat) : Rat) = 2 ^ 53 - 1 := by norm_num
      rw [← last]
      exact nearest_natCast_div_pow (by norm_num) (by norm_num)
    have below : nearest (m / nearest n) < 1 := by
      calc nearest (m / nearest n) ≤ nearest ((2 ^ 53 - 1) / 2 ^ 53) :=
            nearest_mono nonneg (div_le_div₀ (by norm_num) most (by norm_num) large)
        _ < 1 := by
          rw [largest]
          norm_num
    have whole : (nearest (m / nearest n)).floor = 0 := by
      refine le_antisymm (Int.lt_add_one_iff.mp (Rat.floor_lt_iff.mpr ?_)) (Rat.le_floor_iff.mpr ?_)
      · simpa using below
      · simpa using nearest_nonneg nonneg
    have bounded : nearest (m / nearest n) < overflow := below.trans (by simpa using two_pow_lt_overflow (k := 0))
    rw [finite_div m.cast_nonneg divisor, ofRat_of_lt nonneg bounded, Binary64.floor, whole]
    rfl

theorem IsWhole.div_bounds (whole : x.IsWhole m) (dividend : m < 2 ^ 53) (divides : 0 < n) (divisor : n < 2 ^ 53) :
    (x / finite n).isFinite = true ∧ 0 ≤ (x / finite n).value ∧ (x / finite n).value ≤ m := by
  have positive : (0 : Rat) < n := by exact_mod_cast divides
  rcases whole with rfl | ⟨rfl, zero⟩
  · have smaller : (m : Rat) / n ≤ m := div_le_self m.cast_nonneg (by exact_mod_cast divides)
    have nonneg : 0 ≤ (m : Rat) / n := by positivity
    rw [Int.cast_natCast, natCast_div_eq_finite dividend divides divisor]
    exact ⟨rfl, nearest_nonneg nonneg, (nearest_mono nonneg smaller).trans_eq (nearest_natCast dividend)⟩
  · have nothing : negativeZero / finite n = negativeZero := by
      have unsigned : (finite n).isNegative = false := decide_eq_false (not_lt.mpr positive.le)
      rw [div_of_isFinite positive rfl, unsigned]
      show ofSigned true (0 / n) = negativeZero
      rw [zero_div, ofSigned, if_pos nearest_zero]
      rfl
    rw [nothing]
    exact ⟨rfl, le_rfl, m.cast_nonneg⟩

theorem neg_div_bounds (dividend : m < 2 ^ 53) (divides : 0 < n) (divisor : n < 2 ^ 53) (negative : 0 < m) :
    (finite (-m) / finite n).isFinite = true ∧ (finite (-m) / finite n).value ≤ 0 := by
  have positive : (0 : Rat) < n := by exact_mod_cast divides
  have below : (-m : Rat) < 0 := by simpa using negative
  have signed : ((finite (-m : Rat)).isNegative != (finite n).isNegative) = true := by
    simp [isNegative, negative, not_lt.mpr positive.le]
  have opposite : nearest (-m / n : Rat) = -nearest (m / n) := by rw [neg_div, nearest_neg]
  have nonneg : 0 ≤ nearest ((m : Rat) / n) := nearest_nonneg (by positivity)
  have bounded : ¬ overflow ≤ magnitude (nearest (-m / n : Rat)) := by
    rw [opposite, magnitude_neg, magnitude_of_nonneg nonneg]
    exact not_le.mpr (nearest_div_lt_overflow dividend divides divisor)
  rw [div_of_isFinite positive rfl, signed, value, ofSigned]
  split_ifs
  · exact ⟨rfl, le_rfl⟩
  · rw [ofRat, if_neg bounded, opposite]
    exact ⟨rfl, neg_nonpos.mpr nonneg⟩

theorem natCast_mod (dividend : m < 2 ^ 53) (divides : 0 < n) : finite m % finite n = finite (m % n : Nat) := by
  have divisor : (0 : Rat) < n := by exact_mod_cast divides
  have nonzero : (finite n).isZero = false := decide_eq_false divisor.ne'
  have unsigned : (finite m).isNegative = false := decide_eq_false (by simp)
  have whole : truncate ((m : Rat) / n) = (m / n : Nat) := by
    have nonneg : ¬ (m : Rat) / n < 0 := not_lt.mpr (by positivity)
    rw [truncate, if_neg nonneg]
    exact Rat.floor_natCast_div_natCast m n
  have rest : (m : Rat) - n * (m / n : Nat) = (m % n : Nat) := by
    rw [sub_eq_iff_eq_add]
    exact_mod_cast (Nat.mod_add_div m n).symm
  have small : m % n < 2 ^ 53 := (Nat.mod_le m n).trans_lt dividend
  have exact : ofRat (m % n : Nat) = finite (m % n : Nat) := ofNat_eq_finite small
  show rem (finite m) (finite n) = _
  simp only [rem, nonzero, Bool.false_eq_true, if_false, unsigned, value, whole]
  rw [Int.cast_natCast, rest, ofSigned, nearest_natCast small, exact]
  split_ifs with zero
  · rw [zero]
    rfl
  · rfl

end Whole
end Binary64
end MeteredDownload.Numeric
