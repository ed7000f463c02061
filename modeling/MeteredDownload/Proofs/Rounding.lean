import Mathlib.Order.WithBot
import MeteredDownload.Proofs.Binary64

/-!
# Rounding keeps the order

The binary number nearest to a larger rational number is not the smaller one (`nearest_mono`), although the two are
rounded on different grids: between two orders of magnitude lies a power of two, which is on both.  So every sum,
quotient and whole part of binary numbers keeps the order of what it is taken of.  `Binary64.rank` is what the
order of the numbers looks at: their value, with an end of the line for either infinity.
-/
set_option autoImplicit false
namespace MeteredDownload.Numeric

/-! ## Whole numbers -/

theorem roundHalfEven_le (q : Rat) : (roundHalfEven q : Rat) ≤ q + 1 / 2 := by
  have below : (q.floor : Rat) ≤ q := Rat.floor_le q
  unfold roundHalfEven
  dsimp only
  split_ifs <;> push_cast <;> linarith

theorem le_roundHalfEven (q : Rat) : q - 1 / 2 ≤ (roundHalfEven q : Rat) := by
  have above : q < ((q.floor + 1 : Int) : Rat) := Rat.lt_floor_add_one q
  push_cast at above
  unfold roundHalfEven
  dsimp only
  split_ifs <;> push_cast <;> linarith

theorem roundHalfEven_mono {p q : Rat} (less : p ≤ q) : roundHalfEven p ≤ roundHalfEven q := by
  by_contra more
  have apart : (roundHalfEven q : Rat) + 1 ≤ roundHalfEven p := by exact_mod_cast Int.not_le.mp more
  -- Numbers that are rounded apart against their order are the same half, and that is rounded one way only.
  have same : p = q := by
    have upper := roundHalfEven_le p
    have lower := le_roundHalfEven q
    linarith
  rw [same] at apart
  linarith

theorem roundHalfEven_neg (q : Rat) : roundHalfEven (-q) = -roundHalfEven q := by
  by_cases whole : q = q.floor
  · rw [whole, ← Int.cast_neg, roundHalfEven_intCast, roundHalfEven_intCast]
  · have below : (q.floor : Rat) < q := lt_of_le_of_ne (Rat.floor_le q) (Ne.symm whole)
    have above : q < ((q.floor + 1 : Int) : Rat) := Rat.lt_floor_add_one q
    push_cast at above
    have mirrored : (-q).floor = -q.floor - 1 := by
      have least : -q.floor - 1 ≤ (-q).floor := Rat.le_floor_iff.mpr (by push_cast; linarith)
      have most : (-q).floor < -q.floor := Rat.floor_lt_iff.mpr (by push_cast; linarith)
      omega
    unfold roundHalfEven
    dsimp only
    rw [mirrored]
    push_cast
    split_ifs <;> first | omega | (exfalso; linarith)

/-! ## Orders of magnitude -/

theorem floorLog2_spec {q : Rat} (positive : 0 < q) :
    (2 : Rat) ^ floorLog2 q ≤ q ∧ q < (2 : Rat) ^ (floorLog2 q + 1) := by
  have digits : (0 : Int) < q.num := Rat.num_pos.mpr positive
  have fraction : (q.num.natAbs : Rat) = q * q.den := by
    have number : ((q.num.natAbs : Int) : Rat) = q.num := by rw [Int.natAbs_of_nonneg digits.le]
    rw [Rat.mul_den_eq_num, ← number, Int.cast_natCast]
  have den_pos : (0 : Rat) < q.den := by exact_mod_cast q.den_pos
  have num_least : (2 : Rat) ^ (q.num.natAbs.log2 : Int) ≤ q.num.natAbs := by
    exact_mod_cast Nat.log2_self_le (by omega : q.num.natAbs ≠ 0)
  have num_most : (q.num.natAbs : Rat) < 2 ^ ((q.num.natAbs.log2 : Int) + 1) := by
    exact_mod_cast Nat.lt_log2_self
  have den_least : (2 : Rat) ^ (q.den.log2 : Int) ≤ q.den := by
    exact_mod_cast Nat.log2_self_le q.den_nz
  have den_most : (q.den : Rat) < 2 ^ ((q.den.log2 : Int) + 1) := by
    exact_mod_cast Nat.lt_log2_self
  rw [fraction] at num_least num_most
  unfold floorLog2
  dsimp only
  generalize (q.num.natAbs.log2 : Int) = a at *
  generalize (q.den.log2 : Int) = b at *
  -- The lengths of numerator and denominator leave two orders to choose from.
  have upper : q < (2 : Rat) ^ (a - b + 1) := by
    have product : q * q.den < (2 : Rat) ^ (a - b + 1) * q.den :=
      calc q * q.den < (2 : Rat) ^ (a + 1) := num_most
        _ = (2 : Rat) ^ (a - b + 1) * (2 : Rat) ^ b := by rw [← zpow_add₀ two_ne_zero]; congr 1; omega
        _ ≤ (2 : Rat) ^ (a - b + 1) * q.den := mul_le_mul_of_nonneg_left den_least (by positivity)
    exact lt_of_mul_lt_mul_right product den_pos.le
  have lower : (2 : Rat) ^ (a - b - 1) ≤ q := by
    have product : (2 : Rat) ^ (a - b - 1) * q.den ≤ q * q.den :=
      calc (2 : Rat) ^ (a - b - 1) * q.den ≤ (2 : Rat) ^ (a - b - 1) * (2 : Rat) ^ (b + 1) :=
            mul_le_mul_of_nonneg_left den_most.le (by positivity)
        _ = (2 : Rat) ^ a := by rw [← zpow_add₀ two_ne_zero]; congr 1; omega
        _ ≤ q * q.den := num_least
    exact le_of_mul_le_mul_right product den_pos
  split_ifs with reached
  · exact ⟨reached, upper⟩
  · exact ⟨lower, by simpa using reached⟩

theorem floorLog2_lt_of_le {p q : Rat} (positive : 0 < p) (less : p ≤ q) : floorLog2 p < floorLog2 q + 1 := by
  have powers : (2 : Rat) ^ floorLog2 p < (2 : Rat) ^ (floorLog2 q + 1) :=
    ((floorLog2_spec positive).1.trans less).trans_lt (floorLog2_spec (positive.trans_le less)).2
  exact (zpow_lt_zpow_iff_right₀ one_lt_two).mp powers

theorem magnitude_neg (q : Rat) : magnitude (-q) = magnitude q := by
  unfold magnitude
  split_ifs <;> linarith

theorem magnitude_of_nonneg {q : Rat} (nonneg : 0 ≤ q) : magnitude q = q := if_neg (not_lt.mpr nonneg)

/-! ## The grid -/

theorem gridUnit_pos (q : Rat) : 0 < gridUnit q := by
  unfold gridUnit
  positivity

theorem nearest_le {q : Rat} {z : Int} (below : q ≤ z * gridUnit q) : nearest q ≤ z * gridUnit q := by
  have unit := gridUnit_pos q
  have steps : q / gridUnit q ≤ (z : Rat) := (div_le_iff₀ unit).mpr below
  have rounded := roundHalfEven_mono steps
  rw [roundHalfEven_intCast] at rounded
  exact mul_le_mul_of_nonneg_right (by exact_mod_cast rounded) unit.le

theorem le_nearest {q : Rat} {z : Int} (above : z * gridUnit q ≤ q) : z * gridUnit q ≤ nearest q := by
  have unit := gridUnit_pos q
  have steps : (z : Rat) ≤ q / gridUnit q := (le_div_iff₀ unit).mpr above
  have rounded := roundHalfEven_mono steps
  rw [roundHalfEven_intCast] at rounded
  exact mul_le_mul_of_nonneg_right (by exact_mod_cast rounded) unit.le

theorem nearest_nonneg {q : Rat} (nonneg : 0 ≤ q) : 0 ≤ nearest q := by
  have zero : (0 : Int) * gridUnit q ≤ nearest q := le_nearest (by simpa using nonneg)
  simpa using zero

theorem nearest_zero : nearest 0 = 0 := by
  have rounded : roundHalfEven 0 = 0 := roundHalfEven_intCast 0
  rw [nearest, zero_div, rounded]
  simp

theorem exists_power_on_grid {e n : Int} (finer : e ≤ n) : ∃ z : Int, (2 : Rat) ^ n = z * (2 : Rat) ^ e := by
  obtain ⟨k, hk⟩ := Int.eq_ofNat_of_zero_le (sub_nonneg.mpr finer)
  refine ⟨2 ^ k, ?_⟩
  have sum : n = k + e := by omega
  rw [sum, zpow_add₀ two_ne_zero]
  simp

theorem nearest_mono {p q : Rat} (nonneg : 0 ≤ p) (less : p ≤ q) : nearest p ≤ nearest q := by
  rcases nonneg.eq_or_lt with rfl | positive
  · rw [nearest_zero]
    exact nearest_nonneg less
  have larger : 0 < q := positive.trans_le less
  have orders := floorLog2_lt_of_le positive less
  have exponent : ∀ {r : Rat}, 0 < r → gridExponent r = max (floorLog2 r - 52) (-1074) := by
    intro r positive
    rw [gridExponent, magnitude_of_nonneg positive.le]
  by_cases same : gridExponent p = gridExponent q
  · have unit : gridUnit p = gridUnit q := by rw [gridUnit, gridUnit, same]
    have steps : p / gridUnit q ≤ q / gridUnit q := div_le_div_of_nonneg_right less (gridUnit_pos q).le
    have rounded : (roundHalfEven (p / gridUnit q) : Rat) ≤ roundHalfEven (q / gridUnit q) := by
      exact_mod_cast roundHalfEven_mono steps
    rw [nearest, nearest, unit]
    exact mul_le_mul_of_nonneg_right rounded (gridUnit_pos q).le
  · -- The power of two at which the order of `q` begins is on both grids.
    rw [exponent positive, exponent larger] at same
    obtain ⟨zp, fine⟩ := exists_power_on_grid (e := gridExponent p) (n := floorLog2 q) (by
      rw [exponent positive]
      omega)
    obtain ⟨zq, coarse⟩ := exists_power_on_grid (e := gridExponent q) (n := floorLog2 q) (by
      rw [exponent larger]
      omega)
    have below : p ≤ (2 : Rat) ^ floorLog2 q := by
      refine (floorLog2_spec positive).2.le.trans (zpow_le_zpow_right₀ one_le_two ?_)
      omega
    calc nearest p ≤ zp * gridUnit p := nearest_le (fine ▸ below)
      _ = (2 : Rat) ^ floorLog2 q := fine.symm
      _ = zq * gridUnit q := coarse
      _ ≤ nearest q := le_nearest (coarse ▸ (floorLog2_spec larger).1)

theorem nearest_neg (q : Rat) : nearest (-q) = -nearest q := by
  have unit : gridUnit (-q) = gridUnit q := by rw [gridUnit, gridUnit, gridExponent, gridExponent, magnitude_neg]
  rw [nearest, nearest, unit, neg_div, roundHalfEven_neg]
  push_cast
  ring

namespace Binary64

/-! ## The order of the numbers -/

/-- Where a number stands in the order.  `nan` stands nowhere; here it is put below all others. -/
def rank : Binary64 → WithBot (WithTop Rat)
  | nan => ⊥
  | infinity negative => if negative then ⊥ else ((⊤ : WithTop Rat) : WithBot (WithTop Rat))
  | negativeZero => ((0 : Rat) : WithTop Rat)
  | finite q => (q : WithTop Rat)

/-- A finite number of the format: rounding leaves its value as it is. -/
def IsNumber (x : Binary64) : Prop := x.isFinite = true ∧ ofRat x.value = finite x.value

instance : DecidablePred IsNumber := fun _ => inferInstanceAs (Decidable (_ ∧ _))

theorem coe_le_coe {p q : Rat} : ((p : WithTop Rat) : WithBot (WithTop Rat)) ≤ (q : WithTop Rat) ↔ p ≤ q := by
  rw [WithBot.coe_le_coe, WithTop.coe_le_coe]

section Order
variable {x y z : Binary64} {p q : Rat}

theorem zero_eq_finite : (0 : Binary64) = finite 0 := ofNat_eq_finite (by decide : 0 < 2 ^ 53)

theorem le_iff (left : x.isNaN = false) (right : y.isNaN = false) : x.le y = true ↔ x.rank ≤ y.rank := by
  have values : ∀ p q : Rat, decide (p ≤ q) = true ↔
      ((p : WithTop Rat) : WithBot (WithTop Rat)) ≤ (q : WithTop Rat) := by
    intro p q
    rw [decide_eq_true_iff, coe_le_coe]
  have above : ∀ q : Rat, ¬ ((⊤ : WithTop Rat) : WithBot (WithTop Rat)) ≤ (q : WithTop Rat) := by
    intro q
    rw [WithBot.coe_le_coe]
    simp
  rcases x with - | ⟨- | -⟩ | - | p <;> rcases y with - | ⟨- | -⟩ | - | q
  all_goals first
    | exact values _ _
    | exact iff_of_false Bool.false_ne_true (above _)
    | exact absurd left (by decide)
    | exact absurd right (by decide)
    | simp [le, rank]

theorem lt_iff (left : x.isNaN = false) (right : y.isNaN = false) : x.lt y = true ↔ x.rank < y.rank := by
  have forth := le_iff left right
  have back := le_iff right left
  rw [lt, Bool.and_eq_true, Bool.not_eq_true', ← Bool.not_eq_true, forth, back, lt_iff_le_not_ge]

theorem isNaN_of_isFinite (number : x.isFinite = true) : x.isNaN = false := by
  cases x with
  | nan => cases number
  | _ => rfl

theorem rank_of_isFinite (number : x.isFinite = true) : x.rank = (x.value : WithTop Rat) := by
  cases x with
  | nan => cases number
  | infinity => cases number
  | _ => rfl

theorem le_iff_of_isFinite (left : x.isFinite = true) (right : y.isFinite = true) :
    x.le y = true ↔ x.value ≤ y.value := by
  rw [le_iff (isNaN_of_isFinite left) (isNaN_of_isFinite right), rank_of_isFinite left, rank_of_isFinite right,
    coe_le_coe]

theorem isNaN_of_le (less : x.le y = true) : x.isNaN = false ∧ y.isNaN = false := by
  cases x with
  | nan => cases less
  | _ =>
    refine ⟨rfl, ?_⟩
    cases y with
    | nan => cases less
    | _ => rfl

theorem le_trans (first : x.le y = true) (second : y.le z = true) : x.le z = true := by
  have left := isNaN_of_le first
  have right := isNaN_of_le second
  rw [le_iff left.1 left.2] at first
  rw [le_iff right.1 right.2] at second
  exact (le_iff left.1 right.2).mpr (first.trans second)

theorem isNaN_ofRat (q : Rat) : (ofRat q).isNaN = false := by
  unfold ofRat
  dsimp only
  split_ifs <;> rfl

theorem ofRat_of_nonneg (nonneg : 0 ≤ q) :
    ofRat q = if overflow ≤ nearest q then infinity false else finite (nearest q) := by
  rw [ofRat, magnitude_of_nonneg (nearest_nonneg nonneg), decide_eq_false (not_lt.mpr nonneg)]

theorem rank_ofRat_mono (nonneg : 0 ≤ p) (less : p ≤ q) : (ofRat p).rank ≤ (ofRat q).rank := by
  have rounded := nearest_mono nonneg less
  rw [ofRat_of_nonneg nonneg, ofRat_of_nonneg (nonneg.trans less)]
  split_ifs with large larger
  · exact le_rfl
  · exact absurd (large.trans rounded) larger
  · exact WithBot.coe_le_coe.mpr le_top
  · exact coe_le_coe.mpr rounded

theorem ofRat_zero : ofRat 0 = finite 0 := by
  rw [ofRat_of_nonneg le_rfl, nearest_zero, if_neg overflow_pos.not_ge]

theorem ofNat_mono {m n : Nat} (less : m ≤ n) : (ofNat m).le (ofNat n) = true := by
  have rounded : (ofRat (m : Rat)).rank ≤ (ofRat (n : Rat)).rank :=
    rank_ofRat_mono m.cast_nonneg (by exact_mod_cast less)
  exact (le_iff (isNaN_ofRat _) (isNaN_ofRat _)).mpr rounded

/-! ## Differences -/

theorem IsNumber.neg (number : x.IsNumber) : ofRat (-x.value) = finite (-x.value) := by
  have rounded := number.2
  unfold ofRat at rounded ⊢
  dsimp only at rounded ⊢
  rw [nearest_neg, magnitude_neg]
  split_ifs at rounded ⊢ with large
  injection rounded with same
  rw [same]

theorem sub_finite_of_ne_zero (x : Binary64) (nonzero : q ≠ 0) : x - finite q = x.add (finite (-q)) := by
  show x.add (finite q).neg = _
  rw [neg, if_neg nonzero]

/-- The difference of two numbers is the exact one, rounded; only a zero may have another sign. -/
theorem sub_eq (left : x.IsNumber) (right : y.IsNumber) :
    x - y = ofRat (x.value - y.value) ∨ x - y = negativeZero ∧ x.value = y.value := by
  have unsigned : value negativeZero = 0 := rfl
  cases x with
  | nan => cases left.1
  | infinity => cases left.1
  | negativeZero =>
    cases y with
    | nan => cases right.1
    | infinity => cases right.1
    | negativeZero =>
      rw [sub_self, ofRat_zero]
      exact .inl rfl
    | finite q =>
      by_cases zero : q = 0
      · rw [zero]
        exact .inr ⟨rfl, rfl⟩
      · rw [sub_finite_of_ne_zero _ zero, unsigned, zero_sub]
        exact .inl right.neg.symm
  | finite p =>
    cases y with
    | nan => cases right.1
    | infinity => cases right.1
    | negativeZero =>
      rw [unsigned, sub_eq_add_neg, neg_zero]
      exact .inl rfl
    | finite q =>
      by_cases zero : q = 0
      · rw [zero, value, value, sub_zero]
        exact .inl left.2.symm
      · rw [sub_finite_of_ne_zero _ zero, sub_eq_add_neg]
        exact .inl rfl

theorem rank_sub (left : x.IsNumber) (right : y.IsNumber) :
    (x - y).rank = (ofRat (x.value - y.value)).rank ∧ (x - y).isNaN = false := by
  rcases sub_eq left right with rounded | ⟨zero, same⟩
  · rw [rounded]
    exact ⟨rfl, isNaN_ofRat _⟩
  · rw [zero, same, sub_self, ofRat_zero]
    exact ⟨rfl, rfl⟩

theorem sub_le_sub (least : z.IsNumber) (middle : x.IsNumber) (most : y.IsNumber) (first : z.value ≤ x.value)
    (second : x.value ≤ y.value) : (x - z).le (y - z) = true ∧ (y - x).le (y - z) = true := by
  obtain ⟨xz, xz_number⟩ := rank_sub middle least
  obtain ⟨yz, yz_number⟩ := rank_sub most least
  obtain ⟨yx, yx_number⟩ := rank_sub most middle
  rw [le_iff xz_number yz_number, le_iff yx_number yz_number, xz, yz, yx]
  exact ⟨rank_ofRat_mono (by linarith) (by linarith), rank_ofRat_mono (by linarith) (by linarith)⟩

theorem not_le_sub_self (number : x.IsNumber) (positive : lt 0 y = true) : y.le (x - x) = false := by
  obtain ⟨rank, difference⟩ := rank_sub number number
  have order := positive
  rw [lt, Bool.and_eq_true] at order
  have limit := (isNaN_of_le order.1).2
  rw [zero_eq_finite, lt_iff rfl limit] at positive
  rw [← Bool.not_eq_true, le_iff limit difference, rank, sub_self, ofRat_zero, not_le]
  exact positive

/-! ## Quotients and whole parts -/

theorem rank_ofSigned (negative : Bool) (q : Rat) :
    (ofSigned negative q).rank = (ofRat q).rank ∧ (ofSigned negative q).isNaN = false := by
  unfold ofSigned
  split_ifs with zero
  · have small : ¬ overflow ≤ magnitude 0 := (magnitude_of_nonneg le_rfl).symm ▸ overflow_pos.not_ge
    have same : ofRat q = finite 0 := by rw [ofRat, zero, if_neg small]
    rw [same]
    cases negative <;> exact ⟨rfl, rfl⟩
  · exact ⟨rfl, isNaN_ofRat q⟩

theorem div_of_isFinite (positive : 0 < q) (number : x.isFinite = true) :
    x / finite q = ofSigned (x.isNegative != (finite q).isNegative) (x.value / q) := by
  have nonzero : (finite q).isZero = false := decide_eq_false positive.ne'
  show div _ _ = _
  cases x with
  | nan => cases number
  | infinity => cases number
  | negativeZero => simp only [div, nonzero, Bool.false_eq_true, if_false, value]
  | finite p => simp only [div, nonzero, Bool.false_eq_true, if_false, value]

theorem infinity_div (positive : 0 < q) : infinity false / finite q = infinity false := by
  have unsigned : (finite q).isNegative = false := decide_eq_false (not_lt.mpr positive.le)
  show infinity (false != (finite q).isNegative) = _
  rw [unsigned]
  rfl

theorem zero_le_iff (number : x.isFinite = true) : le 0 x = true ↔ 0 ≤ x.value := by
  rw [zero_eq_finite]
  exact le_iff_of_isFinite rfl number

theorem eq_infinity_or_isFinite (nonneg : le 0 x = true) :
    x = infinity false ∨ (x.isFinite = true ∧ 0 ≤ x.value) := by
  have least : x.isFinite = true → 0 ≤ x.value := fun number => (zero_le_iff number).mp nonneg
  rw [zero_eq_finite] at nonneg
  rcases x with - | ⟨- | -⟩ | - | p
  · cases nonneg
  · exact .inl rfl
  · cases nonneg
  · exact .inr ⟨rfl, least rfl⟩
  · exact .inr ⟨rfl, least rfl⟩

theorem le_infinity (number : x.isNaN = false) : x.le (infinity false) = true := by
  rcases x with - | ⟨- | -⟩ | - | p
  · cases number
  all_goals rfl

theorem eq_infinity_or_value_le (nonneg : le 0 x = true) (less : x.le y = true) :
    y = infinity false ∨ (x.isFinite = true ∧ y.isFinite = true ∧ 0 ≤ x.value ∧ x.value ≤ y.value) := by
  rcases eq_infinity_or_isFinite nonneg with rfl | ⟨number, least⟩
  · rcases y with - | ⟨- | -⟩ | - | q
    · cases less
    · exact .inl rfl
    all_goals cases less
  · have values : y.isFinite = true → x.value ≤ y.value := fun other => (le_iff_of_isFinite number other).mp less
    rcases y with - | ⟨- | -⟩ | - | q
    · cases x <;> cases less
    · exact .inl rfl
    · cases x <;> first | cases less | cases number
    · exact .inr ⟨number, rfl, least, values rfl⟩
    · exact .inr ⟨number, rfl, least, values rfl⟩

theorem div_le_div (positive : 0 < q) (nonneg : le 0 x = true) (less : x.le y = true) :
    (x / finite q).le (y / finite q) = true := by
  have number : (x / finite q).isNaN = false := by
    rcases eq_infinity_or_isFinite nonneg with rfl | ⟨number, -⟩
    · rw [infinity_div positive]
      rfl
    · rw [div_of_isFinite positive number]
      exact (rank_ofSigned ..).2
  rcases eq_infinity_or_value_le nonneg less with rfl | ⟨left, right, least, values⟩
  · rw [infinity_div positive]
    exact le_infinity number
  · rw [div_of_isFinite positive left, div_of_isFinite positive right, le_iff (rank_ofSigned ..).2 (rank_ofSigned ..).2,
      (rank_ofSigned ..).1, (rank_ofSigned ..).1]
    exact rank_ofRat_mono (div_nonneg least positive.le) (div_le_div_of_nonneg_right values positive.le)

theorem floor_le_floor (nonneg : le 0 x = true) (less : x.le y = true) : x.floor.le y.floor = true := by
  have value_floor : ∀ {x : Binary64}, x.isFinite = true → x.floor.isFinite = true ∧ x.floor.value = x.value.floor := by
    intro x number
    cases x with
    | nan => cases number
    | infinity => cases number
    | negativeZero => exact ⟨rfl, rfl⟩
    | finite => exact ⟨rfl, rfl⟩
  rcases eq_infinity_or_value_le nonneg less with rfl | ⟨left, right, -, values⟩
  · refine le_infinity ?_
    rcases eq_infinity_or_isFinite nonneg with rfl | ⟨number, -⟩
    · rfl
    · exact isNaN_of_isFinite (value_floor number).1
  · rw [le_iff_of_isFinite (value_floor left).1 (value_floor right).1, (value_floor left).2, (value_floor right).2]
    exact_mod_cast Rat.floor_monotone values

theorem seconds_le_seconds (start : z.IsNumber) (earlier : x.IsNumber) (later : y.IsNumber)
    (first : z.le x = true) (second : x.le y = true) :
    le 0 ((x - z) / 1000).floor = true ∧ ((x - z) / 1000).floor.le ((y - z) / 1000).floor = true := by
  have thousand : (1000 : Binary64) = finite (1000 : Nat) := ofNat_eq_finite (by decide)
  have positive : (0 : Rat) < (1000 : Nat) := by norm_num
  have zx := (le_iff_of_isFinite start.1 earlier.1).mp first
  have xy := (le_iff_of_isFinite earlier.1 later.1).mp second
  have difference : le 0 (x - z) = true := by
    obtain ⟨rank, number⟩ := rank_sub earlier start
    rw [zero_eq_finite, le_iff rfl number, rank, ← ofRat_zero]
    exact rank_ofRat_mono le_rfl (by linarith)
  have null : le (0 : Binary64) 0 = true := by simp [zero_eq_finite, le]
  have quotient : le 0 ((x - z) / finite (1000 : Nat)) = true := by
    have zero : (0 : Binary64) / finite (1000 : Nat) = 0 := by
      rw [zero_eq_finite, div_of_isFinite positive rfl, value, zero_div, ofSigned, if_pos nearest_zero]
      norm_num [isNegative, Binary64.zero]
    rw [← zero]
    exact div_le_div positive null difference
  have whole : floor 0 = 0 := by
    rw [zero_eq_finite]
    rfl
  have least : (floor 0).le ((x - z) / finite (1000 : Nat)).floor = true := floor_le_floor null quotient
  rw [thousand]
  refine ⟨whole ▸ least, floor_le_floor quotient ?_⟩
  exact div_le_div positive difference (sub_le_sub start earlier later zx xy).1

/-! ## What a rounded difference says about the exact one -/

/-- A limit that a rounded difference reaches is above no number that rounds to less. -/
theorem le_of_le_sub (left : x.IsNumber) (right : y.IsNumber) (order : y.value ≤ x.value) (reached : z.le (x - y) = true)
    (below : (ofRat q).lt z = true) : q ≤ x.value - y.value := by
  obtain ⟨rank, number⟩ := rank_sub left right
  have limit : z.isNaN = false := (isNaN_of_le reached).1
  rw [le_iff limit number, rank] at reached
  rw [lt_iff (isNaN_ofRat q) limit] at below
  by_contra more
  have rounded : (ofRat (x.value - y.value)).rank ≤ (ofRat q).rank :=
    rank_ofRat_mono (sub_nonneg.mpr order) (not_le.mp more).le
  exact absurd (below.trans_le reached) (not_lt.mpr rounded)

theorem rank_sub_of_whole (left : x.IsNumber) (right : y.IsNumber) (whole : x.isInteger = true ∧ y.isInteger = true)
    (order : y.value ≤ x.value) (near : x.value - y.value < 2 ^ 53) :
    (x - y).rank = ((x.value - y.value : Rat) : WithTop Rat) := by
  have number : ∀ {x : Binary64}, x.isInteger = true → ∃ n : Int, x.value = n := by
    intro x whole
    cases x with
    | nan => cases whole
    | infinity => cases whole
    | negativeZero => exact ⟨0, rfl⟩
    | finite q => exact ⟨q.num, (Rat.coe_int_num_of_den_eq_one (of_decide_eq_true whole)).symm⟩
  obtain ⟨m, hm⟩ := number whole.1
  obtain ⟨n, hn⟩ := number whole.2
  obtain ⟨k, hk⟩ : ∃ k : Nat, m - n = k := by
    refine Int.eq_ofNat_of_zero_le (sub_nonneg.mpr ?_)
    rw [hm, hn] at order
    exact_mod_cast order
  have difference : x.value - y.value = (k : Nat) := by
    rw [hm, hn]
    exact_mod_cast hk
  rw [difference] at near
  have exact : ofRat (k : Nat) = finite (k : Nat) := ofNat_eq_finite (by exact_mod_cast near)
  rw [(rank_sub left right).1, difference, exact]
  rfl

theorem le_of_le_sub_of_whole (left : x.IsNumber) (right : y.IsNumber)
    (whole : x.isInteger = true ∧ y.isInteger = true) (order : y.value ≤ x.value)
    (near : x.value - y.value < 2 ^ 53) (reached : (finite q).le (x - y) = true) : q ≤ x.value - y.value := by
  have exact := rank_sub_of_whole left right whole order near
  rw [le_iff rfl (rank_sub left right).2, exact] at reached
  exact coe_le_coe.mp reached

end Order
end Binary64
end MeteredDownload.Numeric
